import ChatLine.Proofs.Parallel.Calls

set_option autoImplicit false

namespace ChatLine

variable {σ α : Type}

namespace World

/-- The worlds are the same but for the journal. -/
def UpToJournal (world other : World σ) : Prop :=
  ∃ journal, other = { world with journal := journal }

theorem UpToJournal.refl (world : World σ) : world.UpToJournal world :=
  ⟨world.journal, rfl⟩

theorem UpToJournal.trans {world middle other : World σ} (first : world.UpToJournal middle)
    (second : middle.UpToJournal other) : world.UpToJournal other := by
  obtain ⟨_, rfl⟩ := first
  obtain ⟨journal, rfl⟩ := second
  exact ⟨journal, rfl⟩

theorem UpToJournal.symm {world other : World σ} (same : world.UpToJournal other) :
    other.UpToJournal world := by
  obtain ⟨_, rfl⟩ := same
  exact ⟨world.journal, rfl⟩

/-- What is recorded on one side or the other makes no difference. -/
theorem upToJournal_record (world : World σ) (event : Event) :
    world.UpToJournal (world.record event) :=
  ⟨event :: world.journal, rfl⟩

theorem UpToJournal.change {change : World σ → World σ} (aside : Aside change)
    {world other : World σ} (same : world.UpToJournal other) :
    (change world).UpToJournal (change other) := by
  obtain ⟨journal, rfl⟩ := same
  exact ⟨journal, aside.blind world journal⟩

theorem coherent_upToJournal : Coherent (UpToJournal : World σ → World σ → Prop) where
  same := by
    rintro world _ ⟨journal, rfl⟩
    rfl
  aside := fun aside _ _ same => same.change aside
  record := fun _ world other same =>
    ((upToJournal_record world _).symm.trans same).trans (upToJournal_record other _)

theorem spending_upToJournal : Spending (UpToJournal : World σ → World σ → Prop) := by
  rintro world _ budget ⟨journal, rfl⟩
  exact ⟨journal, rfl⟩

theorem UpToJournal.enter {world other : World σ} (same : world.UpToJournal other)
    (budget : Budget) (text : String) (arguments : List Command) :
    (world.enter budget text arguments).UpToJournal (other.enter budget text arguments) := by
  obtain ⟨journal, rfl⟩ := same
  exact ⟨_, rfl⟩

theorem UpToJournal.pop {world other : World σ} (same : world.UpToJournal other) :
    UpToJournal { world with context := world.context.pop }
      { other with context := other.context.pop } :=
  same.change (aside_context Context.pop fun _ => rfl)

end World

namespace Evaluate

/-- Calls do not read the journal. -/
theorem run_upToJournal (host : Host σ) (depth : Nat) :
    (run host depth).Parallel World.UpToJournal (run host depth) := by
  have coherent : World.Coherent (World.UpToJournal : World σ → World σ → Prop) :=
    World.coherent_upToJournal
  induction depth with
  | zero => exact fun _ _ _ => Eval.parallel_tooDeep
  | succ depth ih =>
    intro command arguments kinds
    refine Eval.Parallel.recorded coherent ?_
    cases command with
    | stored text body =>
      apply callStored_parallel coherent
      intro world twin budget same paid
      have both := ih body [] kinds _ _ (same.enter budget text arguments)
      unfold Eval.ParallelAt at both
      generalize (run host depth body [] kinds).run.run _ = made at both
      generalize (run host depth body [] kinds).run.run _ = other at both
      cases both with
      | none => exact .none
      | some both => exact .some ⟨both.1, both.2.pop⟩
    | _ =>
      exact step_parallel coherent ih (callLine_parallel coherent ih)
        (.inr World.spending_upToJournal) (by nofun) arguments kinds

/-- Nor do texts that run as command lines. -/
theorem callLine_upToJournal (host : Host σ) (depth : Nat) :
    (callLine (run host depth)).Parallel World.UpToJournal (callLine (run host depth)) :=
  callLine_parallel World.coherent_upToJournal (run_upToJournal host depth)

end Evaluate

/-- What has a result in one world has the same in a world that is the same but for the journal. -/
theorem Eval.Parallel.run_eq_some {first second : Eval σ α}
    (parallel : first.Parallel World.UpToJournal second) {world other after : World σ}
    {result : Except CommandError α} (runs : first.run.run world = some (result, after))
    (same : world.UpToJournal other) :
    ∃ later, second.run.run other = some (result, later) ∧ after.UpToJournal later := by
  have both := parallel world other same
  unfold Eval.ParallelAt at both
  rw [runs] at both
  generalize second.run.run other = twin at both
  cases both with
  | @some _ twin both =>
    obtain ⟨_, later⟩ := twin
    obtain ⟨rfl, later_same⟩ := both
    exact ⟨later, rfl, later_same⟩

end ChatLine
