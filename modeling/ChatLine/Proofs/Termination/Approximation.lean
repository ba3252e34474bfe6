import ChatLine.Proofs.Calls.Congruence
import ChatLine.Proofs.Calls.Ensures

set_option autoImplicit false

namespace ChatLine

variable {σ α β : Type}

namespace Eval

/-- Wherever the first computation has a result, the second has the same. -/
def Approximates (first second : Eval σ α) : Prop :=
  ∀ world result, first.run.run world = some result → second.run.run world = some result

theorem approximates_refl (action : Eval σ α) : action.Approximates action :=
  fun _ _ runs => runs

theorem approximates_tooDeep (action : Eval σ α) : tooDeep.Approximates action := by
  intro world result runs
  cases runs

theorem Approximates.bind {first other : Eval σ α} {next following : α → Eval σ β}
    (parts : first.Approximates other)
    (rests : ∀ value, (next value).Approximates (following value)) :
    (first >>= next).Approximates (other >>= following) := by
  intro world result runs
  rw [run_bind] at runs ⊢
  cases found : first.run.run world with
  | none => simp [found] at runs
  | some made =>
    rw [parts world made found]
    rw [found] at runs
    obtain ⟨_ | value, after⟩ := made
    · exact runs
    · exact rests value after result runs

theorem Approximates.outcome {first other : Eval σ α} (parts : first.Approximates other) :
    (Eval.outcome first).Approximates (Eval.outcome other) := by
  intro world result runs
  rw [run_outcome] at runs ⊢
  cases found : first.run.run world with
  | none => simp [found] at runs
  | some made =>
    rw [parts world made found]
    rwa [found] at runs

theorem Approximates.recorded {first other : Eval σ α} (parts : first.Approximates other) :
    (Eval.recorded first).Approximates (Eval.recorded other) :=
  parts.outcome.bind fun _ => approximates_refl _

theorem Approximates.inScope {first other : Eval σ α} (parts : first.Approximates other)
    (scope : Scope) : (Eval.inScope scope first).Approximates (Eval.inScope scope other) := by
  cases scope with
  | inner frame =>
    apply (approximates_refl _).bind
    intro _
    exact parts.outcome.bind fun _ => approximates_refl _
  | outer =>
    apply (approximates_refl _).bind
    intro world
    cases world.context.frames with
    | nil => exact parts
    | cons frame rest =>
      apply (approximates_refl _).bind
      intro _
      exact parts.outcome.bind fun _ => approximates_refl _

theorem Approximates.inScopes {first other : Eval σ α} (parts : first.Approximates other)
    (scopes : List Scope) :
    (Eval.inScopes scopes first).Approximates (Eval.inScopes scopes other) := by
  induction scopes with
  | nil => exact parts
  | cons scope rest ih => exact ih.inScope scope

theorem congruence_approximates :
    Congruence fun {α : Type} (first second : Eval σ α) => first.Approximates second where
  ofExcept := fun _ => approximates_refl _
  bind := Approximates.bind
  look := fun rests world result runs => rests world world rfl world result runs
  share := fun _ => approximates_refl _

end Eval

/-- Every call of the first caller approximates that of the second. -/
def Caller.Approximates (call other : Caller σ) : Prop :=
  ∀ command arguments kinds,
    (call command arguments kinds).Approximates (other command arguments kinds)

/-- Every text that the first runs as a command line approximates what the second makes of it. -/
def LineCaller.Approximates (line other : LineCaller σ) : Prop :=
  ∀ text kinds, (line text kinds).Approximates (other text kinds)

section Step

variable {host : Host σ} {call other : Caller σ} {line otherLine : LineCaller σ}

theorem Program.run_approximates (calls : call.Approximates other)
    (lines : line.Approximates otherLine) (program : Program σ α) :
    (program.run call line).Approximates (program.run other otherLine) := by
  induction program with
  | done value => exact Eval.approximates_refl _
  | call scopes command arguments kinds next ih =>
    exact (((calls command arguments kinds).inScopes scopes).outcome).bind ih
  | line text kinds next ih => exact (lines text kinds).outcome.bind ih
  | look next ih => exact (Eval.approximates_refl _).bind fun world => ih _ _
  | spend tokens next ih =>
    apply (Eval.approximates_refl _).bind
    intro world
    cases world.context.budget.take? tokens with
    | none => exact ih false
    | some budget => exact (Eval.approximates_refl _).bind fun _ => ih true
  | administrator next ih =>
    exact (Eval.approximates_refl _).bind fun _ => (Eval.approximates_refl _).bind fun _ => ih _
  | draw low high next ih =>
    exact (Eval.approximates_refl _).bind fun _ => (Eval.approximates_refl _).bind fun _ => ih _
  | addAlias name text next ih => exact (Eval.approximates_refl _).bind ih
  | removeAlias name next ih => exact (Eval.approximates_refl _).bind ih
  | change update next ih =>
    exact (Eval.approximates_refl _).bind fun _ => (Eval.approximates_refl _).bind fun _ => ih _

namespace Evaluate

theorem callLazy_approximates (calls : call.Approximates other) (cell : Nat) (inner : Command)
    (arguments : List Command) (kinds : List Kind) :
    (callLazy call cell inner arguments kinds).Approximates
      (callLazy other cell inner arguments kinds) := by
  have settled : (settle call cell inner arguments kinds).Approximates
      (settle other cell inner arguments kinds) := by
    apply (Eval.approximates_refl _).bind
    intro world
    cases world.kept? cell with
    | some outcome => exact Eval.approximates_refl _
    | none =>
      apply (Eval.approximates_refl _).bind
      intro _
      exact (calls inner arguments kinds).outcome.bind fun _ => Eval.approximates_refl _
  exact settled.bind fun _ => Eval.approximates_refl _

/-- A step approximates what the same step does with what its calls and its texts approximate. -/
theorem step_approximates (calls : call.Approximates other) (lines : line.Approximates otherLine) :
    (step host call line).Approximates (step host other otherLine) := by
  intro command arguments kinds
  apply Eval.congruence_approximates.step calls
  case codes =>
    intro f bindings
    exact (Program.run_approximates calls lines _).bind fun _ => Eval.approximates_refl _
  case attempts =>
    exact fun shared functions => Eval.congruence_approximates.callFirst calls
      Eval.Approximates.outcome (fun _ => Eval.approximates_refl _) shared kinds functions
  case stored =>
    intro text body _
    apply (Eval.approximates_refl _).bind
    intro _
    apply (Eval.approximates_refl _).bind
    intro frame
    apply (Eval.approximates_refl _).bind
    intro _
    exact (calls body [] kinds).inScope _
  case cells => exact fun cell inner => callLazy_approximates calls cell inner arguments kinds
  case foreign =>
    intro label index
    unfold callForeign
    split
    · exact (Program.run_approximates calls lines _).bind fun _ => Eval.approximates_refl _
    · exact Eval.approximates_refl _

theorem callLine_approximates (calls : call.Approximates other) :
    (callLine call).Approximates (callLine other) :=
  Eval.congruence_approximates.callLine calls

/-- What a call results in at one depth it results in at all greater depths. -/
theorem run_approximates {depth deeper : Nat} (within : depth ≤ deeper) :
    (run host depth).Approximates (run host deeper) := by
  induction depth generalizing deeper with
  | zero => exact fun _ _ _ => Eval.approximates_tooDeep _
  | succ depth ih =>
    obtain ⟨deeper, rfl⟩ : ∃ shallower, deeper = shallower + 1 := ⟨deeper - 1, by omega⟩
    have calls := ih (Nat.le_of_succ_le_succ within)
    intro command arguments kinds
    exact (step_approximates calls (callLine_approximates calls) command arguments kinds).recorded

end Evaluate

end Step

end ChatLine
