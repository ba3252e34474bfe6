import ChatLine.Proofs.Calls.Cells
import ChatLine.Proofs.Calls.Congruence
import Mathlib.Data.Option.Basic

set_option autoImplicit false

namespace ChatLine

variable {σ α β : Type}

namespace World

/-- A change of the world that has nothing to do with the journal and the budget. -/
structure Aside (change : World σ → World σ) : Prop where
  journal : ∀ world, (change world).journal = world.journal
  budget : ∀ world, (change world).context.budget = world.context.budget
  blind : ∀ world journal,
    change { world with journal := journal } = { change world with journal := journal }

/-- A relation between worlds that differ in the journal at most, about the journal and the budget. -/
structure Coherent (rel : World σ → World σ → Prop) : Prop where
  same : ∀ {world other}, rel world other → other = { world with journal := other.journal }
  aside : ∀ {change : World σ → World σ}, Aside change → ∀ {world other}, rel world other →
    rel (change world) (change other)
  record : ∀ {event}, (∀ text, event ≠ .entered text) → ∀ {world other}, rel world other →
    rel (world.record event) (other.record event)

namespace Coherent

variable {rel : World σ → World σ → Prop} (coherent : Coherent rel) {world other : World σ}
include coherent

theorem bot (related : rel world other) : other.bot = world.bot := by
  rw [coherent.same related]

theorem context (related : rel world other) : other.context = world.context := by
  rw [coherent.same related]

theorem generator (related : rel world other) : other.generator = world.generator := by
  rw [coherent.same related]

theorem application (related : rel world other) : other.application = world.application := by
  rw [coherent.same related]

theorem cells (related : rel world other) : other.cells = world.cells := by
  rw [coherent.same related]

theorem attempts (related : rel world other) : other.attempts = world.attempts := by
  rw [coherent.same related]

theorem kept? (related : rel world other) (cell : Nat) : other.kept? cell = world.kept? cell := by
  unfold World.kept?
  rw [coherent.cells related]

end Coherent

theorem aside_grow (count : Nat) : Aside fun world : World σ => world.grow count where
  journal := fun _ => rfl
  budget := fun _ => rfl
  blind := fun _ _ => rfl

theorem aside_keep (cell : Nat) (outcome : Outcome) :
    Aside fun world : World σ => world.keep cell outcome where
  journal := fun _ => rfl
  budget := fun _ => rfl
  blind := fun _ _ => rfl

theorem aside_attempts (count : Nat → Nat) :
    Aside fun world : World σ => { world with attempts := count world.attempts } where
  journal := fun _ => rfl
  budget := fun _ => rfl
  blind := fun _ _ => rfl

theorem aside_context (change : Context → Context)
    (budget : ∀ context, (change context).budget = context.budget) :
    Aside fun world : World σ => { world with context := change world.context } where
  journal := fun _ => rfl
  budget := fun world => budget world.context
  blind := fun _ _ => rfl

theorem aside_generator (change : Generator → Generator) :
    Aside fun world : World σ => { world with generator := change world.generator } where
  journal := fun _ => rfl
  budget := fun _ => rfl
  blind := fun _ _ => rfl

theorem aside_bot (change : Bot → Bot) :
    Aside fun world : World σ => { world with bot := change world.bot } where
  journal := fun _ => rfl
  budget := fun _ => rfl
  blind := fun _ _ => rfl

theorem aside_application (change : σ → σ) :
    Aside fun world : World σ => { world with application := change world.application } where
  journal := fun _ => rfl
  budget := fun _ => rfl
  blind := fun _ _ => rfl

end World

namespace Eval

/-- What the first computation ends with in one world, the second ends with in the other. -/
def ParallelAt (rel : World σ → World σ → Prop) (first second : Eval σ α) (world other : World σ) :
    Prop :=
  Option.Rel (fun made twin => made.1 = twin.1 ∧ rel made.2 twin.2)
    (first.run.run world) (second.run.run other)

/-- The computations run in parallel in all related worlds. -/
def Parallel (rel : World σ → World σ → Prop) (first second : Eval σ α) : Prop :=
  ∀ world other, rel world other → ParallelAt rel first second world other

section Rules

variable {rel : World σ → World σ → Prop}

theorem parallelAt_of_run {first second : Eval σ α} {world other after later : World σ}
    {result : Except CommandError α} (runs : first.run.run world = some (result, after))
    (other_runs : second.run.run other = some (result, later)) (related : rel after later) :
    ParallelAt rel first second world other := by
  unfold ParallelAt
  rw [runs, other_runs]
  exact .some ⟨rfl, related⟩

theorem parallel_pure (value : α) :
    (pure value : Eval σ α).Parallel rel (pure value) :=
  fun world other related => parallelAt_of_run (run_pure value world) (run_pure value other) related

theorem parallel_throw (error : CommandError) :
    (throw error : Eval σ α).Parallel rel (throw error) :=
  fun world other related =>
    parallelAt_of_run (run_throw error world) (run_throw error other) related

theorem parallel_ofExcept (result : Except CommandError α) :
    (ofExcept result : Eval σ α).Parallel rel (ofExcept result) :=
  fun world other related =>
    parallelAt_of_run (run_ofExcept result world) (run_ofExcept result other) related

theorem parallel_tooDeep : (tooDeep : Eval σ α).Parallel rel tooDeep :=
  fun _ _ _ => .none

theorem ParallelAt.bind {first second : Eval σ α} {next following : α → Eval σ β}
    {world other : World σ} (parts : ParallelAt rel first second world other)
    (rests : ∀ value, (next value).Parallel rel (following value)) :
    ParallelAt rel (first >>= next) (second >>= following) world other := by
  unfold ParallelAt at parts ⊢
  rw [run_bind, run_bind]
  generalize first.run.run world = made at parts
  generalize second.run.run other = twin at parts
  cases parts with
  | none => exact .none
  | @some made twin both =>
    obtain ⟨error | value, after⟩ := made
    · obtain ⟨_, later⟩ := twin
      obtain ⟨rfl, related⟩ := both
      exact .some ⟨rfl, related⟩
    · obtain ⟨_, later⟩ := twin
      obtain ⟨rfl, related⟩ := both
      exact rests value after later related

theorem Parallel.bind {first second : Eval σ α} {next following : α → Eval σ β}
    (parts : first.Parallel rel second)
    (rests : ∀ value, (next value).Parallel rel (following value)) :
    (first >>= next).Parallel rel (second >>= following) :=
  fun world other related => (parts world other related).bind rests

theorem parallel_get {next following : World σ → Eval σ β}
    (rests : ∀ world other, rel world other →
      ParallelAt rel (next world) (following other) world other) :
    (get >>= next).Parallel rel (get >>= following) := by
  intro world other related
  unfold ParallelAt
  rw [run_bind, run_get, run_bind, run_get]
  exact rests world other related

theorem parallelAt_set {next following : PUnit → Eval σ β} {world other after later : World σ}
    (related : rel after later) (rests : (next ⟨⟩).Parallel rel (following ⟨⟩)) :
    ParallelAt rel (set after >>= next) (set later >>= following) world other := by
  unfold ParallelAt
  rw [run_bind, run_set, run_bind, run_set]
  exact rests after later related

theorem Parallel.outcome {first second : Eval σ α} (parts : first.Parallel rel second) :
    (Eval.outcome first).Parallel rel (Eval.outcome second) := by
  intro world other related
  have both := parts world other related
  unfold ParallelAt at both ⊢
  rw [run_outcome, run_outcome]
  generalize first.run.run world = made at both
  generalize second.run.run other = twin at both
  cases both with
  | none => exact .none
  | some both => exact .some ⟨congrArg Except.ok both.1, both.2⟩

variable (coherent : World.Coherent rel)
include coherent

theorem parallel_modify {change : World σ → World σ} (aside : World.Aside change) :
    (modify change : Eval σ PUnit).Parallel rel (modify change) :=
  fun world other related => parallelAt_of_run (run_modify change world) (run_modify change other)
    (coherent.aside aside related)

theorem parallel_share (commands : List Command) :
    (share commands : Eval σ (List Command)).Parallel rel (share commands) := by
  intro world other related
  have second := run_share commands other
  rw [coherent.cells related] at second
  exact parallelAt_of_run (run_share commands world) second
    (coherent.aside (World.aside_grow commands.length) related)

theorem parallel_update (change : Update α) :
    (update change : Eval σ (Except CommandError α)).Parallel rel (update change) := by
  intro world other related
  have second : (update change : Eval σ _).run.run other = some (.ok (change.run.run world.bot).1,
      { other with bot := (change.run.run other.bot).2 }) := by
    rw [run_update, coherent.bot related]
  exact parallelAt_of_run (run_update change world) second
    (coherent.aside (World.aside_bot fun bot => (change.run.run bot).2) related)

theorem Parallel.recorded {first second : Eval σ α} (parts : first.Parallel rel second) :
    (Eval.recorded first).Parallel rel (Eval.recorded second) := by
  intro world other related
  have both := parts world other related
  unfold ParallelAt at both ⊢
  rw [run_recorded, run_recorded]
  generalize first.run.run world = made at both
  generalize second.run.run other = twin at both
  cases both with
  | none => exact .none
  | @some made twin both =>
    obtain ⟨result, after⟩ := made
    obtain ⟨_, later⟩ := twin
    obtain ⟨rfl, related⟩ := both
    dsimp only at related ⊢
    cases result with
    | ok value => exact .some ⟨rfl, related⟩
    | error error =>
      refine .some ⟨rfl, ?_⟩
      dsimp only
      rw [coherent.attempts related]
      exact coherent.record (by nofun) related

theorem parallel_push (frame : Frame) :
    (changeContext fun context => context.push frame : Eval σ Unit).Parallel rel
      (changeContext fun context => context.push frame) :=
  parallel_modify coherent (World.aside_context (Context.push · frame) fun _ => rfl)

theorem parallel_pop :
    (changeContext Context.pop : Eval σ Unit).Parallel rel (changeContext Context.pop) :=
  parallel_modify coherent (World.aside_context Context.pop fun _ => rfl)

theorem Parallel.inScope {first second : Eval σ α} (parts : first.Parallel rel second)
    (scope : Scope) : (Eval.inScope scope first).Parallel rel (Eval.inScope scope second) := by
  cases scope with
  | inner frame =>
    apply (parallel_push coherent frame).bind
    intro _
    apply parts.outcome.bind
    intro result
    exact (parallel_pop coherent).bind fun _ => parallel_ofExcept result
  | outer =>
    apply parallel_get
    intro world other related
    rw [coherent.context related]
    cases world.context.frames with
    | nil => exact parts world other related
    | cons frame rest =>
      apply (parallel_pop coherent world other related).bind
      intro _
      apply parts.outcome.bind
      intro result
      exact (parallel_push coherent frame).bind fun _ => parallel_ofExcept result

theorem Parallel.inScopes {first second : Eval σ α} (parts : first.Parallel rel second)
    (scopes : List Scope) :
    (Eval.inScopes scopes first).Parallel rel (Eval.inScopes scopes second) := by
  induction scopes with
  | nil => exact parts
  | cons scope rest ih => exact ih.inScope coherent scope

theorem congruence_parallel :
    Congruence fun {α : Type} (first second : Eval σ α) => first.Parallel rel second where
  ofExcept := parallel_ofExcept
  bind := Parallel.bind
  look := fun rests => parallel_get fun world other related =>
    rests world other (coherent.bot related) world other related
  share := parallel_share coherent

end Rules

end Eval

end ChatLine
