import ChatLine.Proofs.Calls.Ensures
import ChatLine.Proofs.Termination.Tame

set_option autoImplicit false

namespace ChatLine.Eval

variable {σ α β : Type}

/-- With enough depth the computation has a result, in a later world; a value satisfies `post`. -/
def Ends (action : Nat → Eval σ α) (world : World σ) (post : α → World σ → Prop) : Prop :=
  ∃ enough result after,
    (∀ depth, enough ≤ depth → (action depth).run.run world = some (result, after)) ∧
      world.Later after ∧ ∀ value, result = .ok value → post value after

theorem ends_of_run {action : Nat → Eval σ α} {world after : World σ}
    {result : Except CommandError α}
    {post : α → World σ → Prop}
    (runs : ∀ depth, (action depth).run.run world = some (result, after))
    (later : world.Later after) (holds : ∀ value, result = .ok value → post value after) :
    Ends action world post :=
  ⟨0, result, after, fun depth _ => runs depth, later, holds⟩

theorem ends_ofExcept {result : Except CommandError α} {world : World σ}
    {post : α → World σ → Prop} (tame : world.Tame)
    (holds : ∀ value, result = .ok value → post value world) :
    Ends (fun _ => ofExcept result) world post :=
  ends_of_run (fun _ => rfl) tame.later holds

theorem ends_pure {value : α} {world : World σ} {post : α → World σ → Prop} (tame : world.Tame)
    (holds : post value world) : Ends (fun _ => pure value) world post := by
  apply ends_of_run (fun _ => rfl) tame.later
  intro other same
  cases same
  exact holds

theorem ends_throw {error : CommandError} {world : World σ} {post : α → World σ → Prop}
    (tame : world.Tame) : Ends (fun _ => (throw error : Eval σ α)) world post :=
  ends_of_run (fun _ => rfl) tame.later fun _ same => nomatch same

theorem Ends.weaken {action : Nat → Eval σ α} {world : World σ} {strong weak : α → World σ → Prop}
    (ends : Ends action world strong)
    (implies : ∀ value after, world.Later after → strong value after → weak value after) :
    Ends action world weak := by
  obtain ⟨enough, result, after, runs, later, holds⟩ := ends
  exact ⟨enough, result, after, runs, later,
    fun value same => implies value after later (holds value same)⟩

theorem Ends.deeper {action : Nat → Eval σ α} {world : World σ} {post : α → World σ → Prop}
    (ends : Ends (fun depth => action (depth + 1)) world post) : Ends action world post := by
  obtain ⟨enough, result, after, runs, rest⟩ := ends
  refine ⟨enough + 1, result, after, ?_, rest⟩
  intro depth deep
  obtain ⟨depth, rfl⟩ : ∃ shallower, depth = shallower + 1 := ⟨depth - 1, by omega⟩
  exact runs depth (by omega)

theorem Ends.bind {first : Nat → Eval σ α} {next : Nat → α → Eval σ β} {world : World σ}
    {middle : α → World σ → Prop} {post : β → World σ → Prop} (ends : Ends first world middle)
    (rest : ∀ value after, world.Later after → middle value after →
      Ends (fun depth => next depth value) after post) :
    Ends (fun depth => first depth >>= next depth) world post := by
  obtain ⟨enough, result, after, runs, later, holds⟩ := ends
  cases result with
  | error error =>
    refine ⟨enough, .error error, after, ?_, later, fun _ same => nomatch same⟩
    intro depth deep
    rw [run_bind, runs depth deep]
  | ok value =>
    obtain ⟨more, result, last, runsRest, laterRest, holdsRest⟩ :=
      rest value after later (holds value rfl)
    refine ⟨max enough more, result, last, ?_, later.trans laterRest, holdsRest⟩
    intro depth deep
    rw [run_bind, runs depth (by omega)]
    exact runsRest depth (by omega)

/-- A part that has the same result at every depth can be taken off the front. -/
theorem ends_after {first : Eval σ α} {next : Nat → α → Eval σ β} {world after : World σ}
    {value : α}
    {post : β → World σ → Prop} (runs : first.run.run world = some (.ok value, after))
    (later : world.Later after) (rest : Ends (fun depth => next depth value) after post) :
    Ends (fun depth => first >>= next depth) world post := by
  obtain ⟨enough, result, last, runsRest, laterRest, holds⟩ := rest
  refine ⟨enough, result, last, ?_, later.trans laterRest, holds⟩
  intro depth deep
  rw [run_bind, runs]
  exact runsRest depth deep

theorem Ends.outcome {action : Nat → Eval σ α} {world : World σ} {post : α → World σ → Prop}
    (ends : Ends action world post) :
    Ends (fun depth => Eval.outcome (action depth)) world fun result after =>
      ∀ value, result = .ok value → post value after := by
  obtain ⟨enough, result, after, runs, later, holds⟩ := ends
  refine ⟨enough, .ok result, after, ?_, later, ?_⟩
  · intro depth deep
    rw [run_outcome, runs depth deep]
    rfl
  · intro other same
    cases same
    exact holds

theorem Ends.recorded {action : Nat → Eval σ α} {world : World σ} {post : α → World σ → Prop}
    (ends : Ends action world post) :
    Ends (fun depth => Eval.recorded (action depth)) world post := by
  apply ends.outcome.bind
  intro result after later holds
  cases result with
  | ok value => exact ends_pure later.tame (holds value rfl)
  | error error =>
    apply ends_after rfl later.tame.later
    have recorded := later.tame.record (.failed error after.attempts)
    exact ends_after rfl recorded (ends_throw recorded.tame)

/-- A call with one more frame ends as it does with that frame innermost. -/
theorem Ends.inner (post : α → (Nat → Bool) → Prop) {action : Nat → Eval σ α} {world : World σ}
    {frame : Frame} (tame : world.Tame)
    (ends : Ends action { world with context := world.context.push frame }
      fun value after => post value after.isKept) :
    Ends (fun depth => inScope (.inner frame) (action depth)) world
      fun value after => post value after.isKept := by
  obtain ⟨enough, result, after, runs, later, holds⟩ := ends
  refine ⟨enough, result, { after with context := after.context.pop }, ?_, ?_,
    holds⟩
  · intro depth deep
    rw [run_inner, runs depth deep]
    rfl
  · have frames : after.context.frames = frame :: world.context.frames := later.frames
    have popped : after.context.pop.frames = world.context.frames := by
      simp only [Context.pop, frames, List.tail_cons]
    refine ⟨⟨later.tame.limited, ?_, later.tame.kept, later.tame.tree⟩, popped, later.tokens,
      later.cells, later.stays⟩
    show ∀ other ∈ after.context.pop.frames, _
    rw [popped]
    exact tame.frames

/-- A call without the innermost frame ends as it does with the frames around that one. -/
theorem Ends.outer (post : α → (Nat → Bool) → Prop) {action : Nat → Eval σ α} {world : World σ}
    {frame : Frame} {rest : Frames} (tame : world.Tame)
    (running : world.context.frames = frame :: rest)
    (ends : Ends action { world with context := world.context.pop }
      fun value after => post value after.isKept) :
    Ends (fun depth => inScope .outer (action depth)) world
      fun value after => post value after.isKept := by
  obtain ⟨enough, result, after, runs, later, holds⟩ := ends
  refine ⟨enough, result, { after with context := after.context.push frame },
    ?_, ?_, holds⟩
  · intro depth deep
    rw [run_outer (action depth) running, runs depth deep]
    rfl
  · have frames : after.context.frames = rest := by
      rw [later.frames]
      simp only [Context.pop, running, List.tail_cons]
    have pushed : (after.context.push frame).frames = world.context.frames := by
      simp only [Context.push, frames, running]
    refine ⟨⟨later.tame.limited, ?_, later.tame.kept, later.tame.tree⟩, pushed, later.tokens,
      later.cells, later.stays⟩
    show ∀ other ∈ (after.context.push frame).frames, _
    rw [pushed]
    exact tame.frames

end ChatLine.Eval
