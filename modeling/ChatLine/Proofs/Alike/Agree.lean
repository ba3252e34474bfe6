import ChatLine.Proofs.Alike.Worlds
import ChatLine.Proofs.Line.Meaning

set_option autoImplicit false

namespace ChatLine

variable {σ α β : Type}

open Command

namespace Eval

variable {states : Matching → σ → σ → Prop} {base : Nat} {matching : Matching}
  {world other : World σ}

/-- What two computations in matching worlds result in: nothing, or results that are related, and
worlds that are alike. -/
abbrev Meet (states : Matching → σ → σ → Prop) (base : Nat) (rel : Matching → α → α → Prop)
    (matching : Matching) :
    Option (Except CommandError α × World σ) → Option (Except CommandError α × World σ) → Prop :=
  Option.Rel fun made otherMade => ∃ later, matching.Grows later ∧
    made.2.Alike states base later otherMade.2 ∧ Ended (rel later) made.1 otherMade.1

/-- The computations agree in two worlds. -/
def Agree (states : Matching → σ → σ → Prop) (base : Nat) (rel : Matching → α → α → Prop)
    (matching : Matching) (first second : Eval σ α) (world other : World σ) : Prop :=
  Meet states base rel matching (first.run.run world) (second.run.run other)

theorem Meet.grow {rel : Matching → α → α → Prop} {later : Matching}
    {made otherMade : Option (Except CommandError α × World σ)} (grows : matching.Grows later)
    (meet : Meet states base rel later made otherMade) :
    Meet states base rel matching made otherMade := by
  cases meet with
  | none => exact .none
  | some both =>
    obtain ⟨last, growsMore, alike, ended⟩ := both
    exact .some ⟨last, grows.trans growsMore, alike, ended⟩

theorem Meet.map {rel : Matching → α → α → Prop} {goal : Matching → β → β → Prop}
    {made otherMade : Option (Except CommandError α × World σ)}
    {change otherChange : Except CommandError α × World σ → Except CommandError β × World σ}
    (meet : Meet states base rel matching made otherMade)
    (changes : ∀ later result otherResult after otherAfter, matching.Grows later →
      World.Alike states base later after otherAfter → Ended (rel later) result otherResult →
        (change (result, after)).2.Alike states base later (otherChange (otherResult, otherAfter)).2 ∧
          Ended (goal later) (change (result, after)).1 (otherChange (otherResult, otherAfter)).1) :
    Meet states base goal matching (made.map change) (otherMade.map otherChange) := by
  cases meet with
  | none => exact .none
  | some both =>
    obtain ⟨later, grows, alike, ended⟩ := both
    exact .some ⟨later, grows, changes later _ _ _ _ grows alike ended⟩

theorem agree_of_run {rel : Matching → α → α → Prop} {first second : Eval σ α}
    {result otherResult : Except CommandError α} {after otherAfter : World σ} {later : Matching}
    (runs : first.run.run world = some (result, after))
    (otherRuns : second.run.run other = some (otherResult, otherAfter))
    (grows : matching.Grows later) (alike : after.Alike states base later otherAfter)
    (ended : Ended (rel later) result otherResult) :
    Agree states base rel matching first second world other := by
  unfold Agree
  rw [runs, otherRuns]
  exact .some ⟨later, grows, alike, ended⟩

theorem agree_pure {rel : Matching → α → α → Prop} {value otherValue : α}
    (alike : world.Alike states base matching other) (related : rel matching value otherValue) :
    Agree states base rel matching (pure value) (pure otherValue) world other :=
  agree_of_run (run_pure value world) (run_pure otherValue other) (.refl matching) alike (.ok related)

theorem agree_throw {rel : Matching → α → α → Prop} (error : CommandError)
    (alike : world.Alike states base matching other) :
    Agree states base rel matching (throw error) (throw error) world other :=
  agree_of_run (run_throw error world) (run_throw error other) (.refl matching) alike (.error error)

theorem agree_ofExcept {rel : Matching → α → α → Prop} {result otherResult : Except CommandError α}
    (alike : world.Alike states base matching other)
    (ended : Ended (rel matching) result otherResult) :
    Agree states base rel matching (ofExcept result) (ofExcept otherResult) world other :=
  agree_of_run (run_ofExcept result world) (run_ofExcept otherResult other) (.refl matching) alike
    ended

theorem Agree.bind {rel : Matching → α → α → Prop} {goal : Matching → β → β → Prop}
    {first second : Eval σ α} {next otherNext : α → Eval σ β}
    (agree : Agree states base rel matching first second world other)
    (rest : ∀ later value otherValue after otherAfter, matching.Grows later →
      World.Alike states base later after otherAfter → rel later value otherValue →
        Agree states base goal later (next value) (otherNext otherValue) after otherAfter) :
    Agree states base goal matching (first >>= next) (second >>= otherNext) world other := by
  unfold Agree at agree ⊢
  rw [run_bind, run_bind]
  generalize first.run.run world = made at agree ⊢
  generalize second.run.run other = otherMade at agree ⊢
  cases agree with
  | none => exact .none
  | @some made otherMade both =>
    obtain ⟨later, grows, alike, ended⟩ := both
    obtain ⟨result, after⟩ := made
    obtain ⟨otherResult, otherAfter⟩ := otherMade
    cases ended with
    | error error => exact .some ⟨later, grows, alike, .error error⟩
    | ok related => exact Meet.grow grows (rest later _ _ after otherAfter grows alike related)

/-- Parts of which the runs are known can be taken off the front. -/
theorem agree_after {goal : Matching → β → β → Prop} {first second : Eval σ α}
    {next otherNext : α → Eval σ β} {value otherValue : α} {after otherAfter : World σ}
    {later : Matching} (runs : first.run.run world = some (.ok value, after))
    (otherRuns : second.run.run other = some (.ok otherValue, otherAfter))
    (grows : matching.Grows later)
    (rest : Agree states base goal later (next value) (otherNext otherValue) after otherAfter) :
    Agree states base goal matching (first >>= next) (second >>= otherNext) world other := by
  unfold Agree
  rw [run_bind, run_bind, runs, otherRuns]
  exact Meet.grow grows rest

/-- Agreement is about what computations result in, from whatever worlds. -/
theorem Agree.of_same_runs {rel : Matching → α → α → Prop} {first second : Eval σ α}
    {middle otherMiddle : World σ}
    (agree : Agree states base rel matching first second middle otherMiddle)
    (runs : first.run.run world = first.run.run middle)
    (otherRuns : second.run.run other = second.run.run otherMiddle) :
    Agree states base rel matching first second world other := by
  unfold Agree
  rw [runs, otherRuns]
  exact agree

theorem Agree.there {rel : Matching → α → α → Prop} {first second : Eval σ α}
    {result : Except CommandError α} {after : World σ}
    (agree : Agree states base rel matching first second world other)
    (runs : first.run.run world = some (result, after)) :
    ∃ otherResult otherAfter, second.run.run other = some (otherResult, otherAfter) ∧
      ∃ later, matching.Grows later ∧ after.Alike states base later otherAfter ∧
        Ended (rel later) result otherResult := by
  unfold Agree at agree
  rw [runs] at agree
  generalize second.run.run other = made at agree ⊢
  cases agree with
  | some both => exact ⟨_, _, rfl, both⟩

theorem Agree.back {rel : Matching → α → α → Prop} {first second : Eval σ α}
    {otherResult : Except CommandError α} {otherAfter : World σ}
    (agree : Agree states base rel matching first second world other)
    (runs : second.run.run other = some (otherResult, otherAfter)) :
    ∃ result after, first.run.run world = some (result, after) ∧
      ∃ later, matching.Grows later ∧ after.Alike states base later otherAfter ∧
        Ended (rel later) result otherResult := by
  unfold Agree at agree
  rw [runs] at agree
  generalize first.run.run world = made at agree ⊢
  cases agree with
  | some both => exact ⟨_, _, rfl, both⟩

theorem Agree.outcome {rel : Matching → α → α → Prop} {first second : Eval σ α}
    (agree : Agree states base rel matching first second world other) :
    Agree states base (fun matching => Ended (rel matching)) matching (Eval.outcome first)
      (Eval.outcome second) world other := by
  unfold Agree
  rw [run_outcome, run_outcome]
  exact Meet.map agree fun _ _ _ _ _ _ alike ended => ⟨alike, .ok ended⟩

theorem Agree.recorded {rel : Matching → α → α → Prop} {first second : Eval σ α}
    (agree : Agree states base rel matching first second world other) :
    Agree states base rel matching (Eval.recorded first) (Eval.recorded second) world other := by
  unfold Agree
  rw [run_recorded, run_recorded]
  apply Meet.map agree
  intro later result otherResult after otherAfter _ alike ended
  refine ⟨?_, ended⟩
  cases ended with
  | ok related => exact alike
  | error error => exact (alike.failed _ _).otherFailed _ _

theorem Agree.recordedAlone {rel : Matching → α → α → Prop} {first second : Eval σ α}
    (agree : Agree states base rel matching first second world other) :
    Agree states base rel matching (Eval.recorded first) second world other := by
  unfold Agree at agree ⊢
  rw [run_recorded]
  generalize first.run.run world = made at agree ⊢
  generalize second.run.run other = otherMade at agree ⊢
  cases agree with
  | none => exact .none
  | @some made otherMade both =>
    obtain ⟨later, grows, alike, ended⟩ := both
    obtain ⟨result, after⟩ := made
    refine .some ⟨later, grows, ?_, ended⟩
    cases result with
    | ok value => exact alike
    | error error => exact alike.failed _ _

/-- What agrees inside alike changes of the frames agrees, because the frames are put back. -/
theorem Agree.inScopes {rel : Matching → α → α → Prop} {first second : Eval σ α}
    {scopes others : List Scope} (changes : List.Forall₂ (Scope.Alike matching) scopes others)
    (alike : world.Alike states base matching other)
    (agree : ∀ {world other : World σ}, world.Alike states base matching other →
      Agree states base rel matching first second world other) :
    Agree states base rel matching (Eval.inScopes scopes first) (Eval.inScopes others second) world
      other := by
  induction changes generalizing world other with
  | nil => exact agree alike
  | @cons scope otherScope scopes others change rest ih =>
    show Agree states base rel matching (inScope scope (Eval.inScopes scopes first))
      (inScope otherScope (Eval.inScopes others second)) world other
    cases change with
    | @inner frame otherFrame same =>
      unfold Agree
      rw [run_inner, run_inner]
      apply Meet.map (ih (alike.withFrames (.cons same alike.context.frames)))
      intro later result otherResult after otherAfter _ alike ended
      exact ⟨alike.withFrames (Frames.Alike.tail alike.context.frames), ended⟩
    | outer =>
      have frames := alike.context.frames
      generalize running : world.context.frames = inFirst at frames
      generalize otherRunning : other.context.frames = inSecond at frames
      unfold Agree
      cases frames with
      | nil =>
        rw [run_outer_nil _ running, run_outer_nil _ otherRunning]
        exact ih alike
      | cons same others =>
        rw [run_outer _ running, run_outer _ otherRunning]
        have inside := alike.withFrames (Frames.Alike.tail alike.context.frames)
        apply Meet.map (ih inside)
        intro later result otherResult after otherAfter grows alike ended
        refine ⟨alike.withFrames (.cons (AllAlike.mono grows.le same) alike.context.frames), ended⟩

end Eval

end ChatLine
