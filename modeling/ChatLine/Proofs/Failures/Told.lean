import ChatLine.Proofs.Calls.Cells
import ChatLine.Proofs.Calls.Congruence

set_option autoImplicit false

namespace ChatLine

variable {σ α β : Type}

def failure? : Except CommandError α → Option CommandError
  | .error error => some error
  | .ok _ => none

/-- The failures among some events that began with so many attempts under way are told of by
`failure`: each of the failures outside of further attempts, and each exhausted budget. -/
def Told (attempts : Nat) (events : List Event) (failure : Option CommandError) : Prop :=
  ∀ error inside, .failed error inside ∈ events →
    attempts ≤ inside ∧ (error = .budgetExhausted ∨ inside = attempts → failure = some error)

namespace Told

variable {attempts : Nat} {first second : List Event} {failure : Option CommandError}

theorem nil (attempts : Nat) (failure : Option CommandError) : Told attempts [] failure :=
  fun _ _ inside => nomatch inside

/-- Where nothing went wrong that would have to be told, anything may be. -/
theorem of_none (told : Told attempts first none) (failure : Option CommandError) :
    Told attempts first failure := by
  intro error inside among
  obtain ⟨within, tells⟩ := told error inside among
  exact ⟨within, fun outside => nomatch tells outside⟩

theorem append (later : Told attempts second failure) (earlier : Told attempts first failure) :
    Told attempts (second ++ first) failure := by
  intro error inside among
  rcases List.mem_append.1 among with among | among
  · exact later error inside among
  · exact earlier error inside among

/-- An attempt that did not exhaust the budget hides what went wrong in it. -/
theorem attempt (told : Told (attempts + 1) first failure)
    (paid : failure ≠ some .budgetExhausted) : Told attempts first none := by
  intro error inside among
  obtain ⟨within, tells⟩ := told error inside among
  refine ⟨Nat.le_of_succ_le within, ?_⟩
  rintro (rfl | same)
  · exact absurd (tells (.inl rfl)) paid
  · omega

/-- An attempt that exhausted the budget does not. -/
theorem attempt_exhausted (told : Told (attempts + 1) first (some .budgetExhausted)) :
    Told attempts first (some .budgetExhausted) := by
  intro error inside among
  obtain ⟨within, tells⟩ := told error inside among
  refine ⟨Nat.le_of_succ_le within, ?_⟩
  rintro (exhausted | same)
  · exact tells (.inl exhausted)
  · omega

theorem failed (attempts : Nat) (error : CommandError) :
    Told attempts [.failed error attempts] (some error) := by
  intro other inside among
  cases List.mem_singleton.1 among
  exact ⟨Nat.le_refl _, fun _ => rfl⟩

theorem of_other {event : Event} (other : ∀ error inside, event ≠ .failed error inside)
    (attempts : Nat) (failure : Option CommandError) : Told attempts [event] failure := by
  intro error inside among
  exact absurd (List.mem_singleton.1 among).symm (other error inside)

end Told

namespace World

/-- From one world to another, the failures on the way being told of. -/
def Telling (failure : Option CommandError) (world after : World σ) : Prop :=
  after.attempts = world.attempts ∧
    ∃ events, after.journal = events ++ world.journal ∧ Told world.attempts events failure

theorem Telling.refl (failure : Option CommandError) (world : World σ) :
    world.Telling failure world :=
  ⟨rfl, [], rfl, .nil _ _⟩

theorem telling_of_same {world after : World σ} (failure : Option CommandError)
    (attempts : after.attempts = world.attempts) (journal : after.journal = world.journal) :
    world.Telling failure after :=
  ⟨attempts, [], journal, .nil _ _⟩

theorem Telling.trans {failure : Option CommandError} {world middle after : World σ}
    (first : world.Telling none middle) (second : middle.Telling failure after) :
    world.Telling failure after := by
  obtain ⟨same, earlier, journal, told⟩ := first
  obtain ⟨later_same, later, later_journal, later_told⟩ := second
  rw [same] at later_told
  refine ⟨later_same.trans same, later ++ earlier, ?_, later_told.append (told.of_none failure)⟩
  rw [later_journal, journal, List.append_assoc]

theorem Telling.of_none {world after : World σ} (telling : world.Telling none after)
    (failure : Option CommandError) : world.Telling failure after := by
  obtain ⟨same, events, journal, told⟩ := telling
  exact ⟨same, events, journal, told.of_none failure⟩

end World

namespace Eval

/-- Whatever fails in the computation, outside of attempts or for want of tokens, is its failure. -/
def Tells (action : Eval σ α) : Prop :=
  ∀ world, action.Ensures world fun result after => world.Telling (failure? result) after

theorem tells_of_run {action : Eval σ α}
    (runs : ∀ world, ∃ result after, action.run.run world = some (result, after) ∧
      after.attempts = world.attempts ∧ after.journal = world.journal) : action.Tells := by
  intro world result after ends
  obtain ⟨other, last, found, attempts, journal⟩ := runs world
  rw [found] at ends
  cases ends
  exact World.telling_of_same _ attempts journal

theorem tells_throw (error : CommandError) : (throw error : Eval σ α).Tells :=
  tells_of_run fun world => ⟨_, world, run_throw error world, rfl, rfl⟩

theorem tells_ofExcept (result : Except CommandError α) : (ofExcept result : Eval σ α).Tells :=
  tells_of_run fun world => ⟨_, world, run_ofExcept result world, rfl, rfl⟩

theorem tells_get : (get : Eval σ (World σ)).Tells :=
  tells_of_run fun world => ⟨_, world, run_get world, rfl, rfl⟩

theorem tells_modify {change : World σ → World σ}
    (attempts : ∀ world, (change world).attempts = world.attempts)
    (journal : ∀ world, (change world).journal = world.journal) :
    (modify change : Eval σ PUnit).Tells :=
  tells_of_run fun world => ⟨_, _, run_modify change world, attempts world, journal world⟩

theorem tells_tooDeep : (tooDeep : Eval σ α).Tells := by
  intro world result after ends
  cases ends

theorem Tells.bind {first : Eval σ α} {next : α → Eval σ β} (tells : first.Tells)
    (rest : ∀ value, (next value).Tells) : (first >>= next).Tells := by
  intro world result after ends
  rcases exists_of_run_bind ends with ⟨error, failed, same⟩ | ⟨value, middle, found, ended⟩
  · subst same
    exact tells world _ _ failed
  · exact (tells world _ _ found).trans (rest value middle _ _ ended)

theorem Tells.recorded {action : Eval σ α} (tells : action.Tells) : (recorded action).Tells := by
  intro world result after ends
  rw [run_recorded] at ends
  obtain ⟨⟨made, last⟩, runs, same⟩ := Option.map_eq_some_iff.1 ends
  have told := tells world made last runs
  cases made with
  | ok value =>
    cases same
    exact told
  | error error =>
    cases same
    obtain ⟨attempts, events, journal, told⟩ := told
    refine ⟨attempts, .failed error last.attempts :: events, ?_, ?_⟩
    · show _ :: last.journal = _
      rw [journal]
      rfl
    · rw [attempts]
      exact (Told.failed world.attempts error).append told

theorem Tells.inScope {action : Eval σ α} (tells : action.Tells) (scope : Scope) :
    (inScope scope action).Tells := by
  intro world
  cases scope with
  | inner frame =>
    refine ensures_inner.2 fun result after runs => ?_
    have told := tells _ result after runs
    exact told
  | outer =>
    cases running : world.context.frames with
    | nil => exact (ensures_outer_nil running).2 (tells world)
    | cons frame rest =>
      refine (ensures_outer running).2 fun result after runs => ?_
      have told := tells _ result after runs
      exact told

theorem Tells.inScopes {action : Eval σ α} (tells : action.Tells) (scopes : List Scope) :
    (inScopes scopes action).Tells := by
  induction scopes with
  | nil => exact tells
  | cons scope rest ih => exact ih.inScope scope

theorem tells_share (commands : List Command) : (share commands : Eval σ _).Tells :=
  tells_of_run fun world => ⟨_, _, run_share commands world, rfl, rfl⟩

theorem closed_tells : Closed fun {α : Type} (action : Eval σ α) => action.Tells where
  ofExcept := tells_ofExcept
  bind := Tells.bind
  look := tells_get.bind
  share := tells_share

end Eval

end ChatLine
