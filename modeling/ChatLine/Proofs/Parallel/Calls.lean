import ChatLine.Proofs.Calls.Requests
import ChatLine.Proofs.Failures.Forwarding
import ChatLine.Proofs.Parallel.Rules
import ChatLine.Proofs.Scoping.Watching

set_option autoImplicit false

namespace ChatLine

variable {σ α : Type}

/-- The functions and the commands of the application take no tokens themselves. -/
structure Host.Thrifty (host : Host σ) : Prop where
  native : ∀ index bindings, (host.native index bindings).run.Thrifty
  foreign : ∀ index code arguments kinds, host.foreign index = some code →
    (code arguments kinds).Thrifty

theorem Host.Thrifty.codeOf {host : Host σ} (thrifty : host.Thrifty) (code : Code)
    (bindings : Bindings) : (host.codeOf code bindings).run.Thrifty := by
  cases code with
  | builtin builtin => exact (builtin.orderly_native bindings).thrifty
  | host index => exact thrifty.native index bindings

/-- The relation holds on whatever is taken from the budget on both sides. -/
def World.Spending (rel : World σ → World σ → Prop) : Prop :=
  ∀ world other (budget : Budget), rel world other →
    rel { world with context := { world.context with budget := budget } }
      { other with context := { other.context with budget := budget } }

/-- Every call of the one runs in parallel with that of the other. -/
def Caller.Parallel (rel : World σ → World σ → Prop) (call other : Caller σ) : Prop :=
  ∀ command arguments kinds,
    (call command arguments kinds).Parallel rel (other command arguments kinds)

/-- Every text that runs as a command line runs in parallel on both sides. -/
def LineCaller.Parallel (rel : World σ → World σ → Prop) (line other : LineCaller σ) : Prop :=
  ∀ text kinds, (line text kinds).Parallel rel (other text kinds)

section Step

variable {rel : World σ → World σ → Prop} {host : Host σ} {call other : Caller σ}
  {line otherLine : LineCaller σ} (coherent : World.Coherent rel) (calls : call.Parallel rel other)
  (lines : line.Parallel rel otherLine)
include coherent calls

include lines in
theorem Program.run_parallel {program : Program σ α}
    (spends : program.Thrifty ∨ World.Spending rel) :
    (program.run call line).Parallel rel (program.run other otherLine) := by
  induction program with
  | done value => exact Eval.parallel_pure value
  | call scopes command arguments kinds next ih =>
    apply (((calls command arguments kinds).inScopes coherent scopes).outcome).bind
    exact fun outcome => ih outcome (spends.imp_left fun thrifty => thrifty outcome)
  | line text kinds next ih =>
    apply (lines text kinds).outcome.bind
    exact fun outcome => ih outcome (spends.imp_left fun thrifty => thrifty outcome)
  | look next ih =>
    apply Eval.parallel_get
    intro world twin related
    rw [coherent.bot related, coherent.context related]
    exact ih _ _ (spends.imp_left fun thrifty => thrifty _ _) world twin related
  | spend tokens next ih =>
    have spending := spends.resolve_left id
    apply Eval.parallel_get
    intro world twin related
    rw [coherent.context related]
    cases world.context.budget.take? tokens with
    | none => exact ih false (.inr spending) world twin related
    | some budget =>
      have spent : Eval.ParallelAt rel
          (Eval.changeContext fun context => { context with budget := budget })
          (Eval.changeContext fun context => { context with budget := budget }) world twin :=
        Eval.parallelAt_of_run (Eval.run_modify _ world) (Eval.run_modify _ twin)
          (spending world twin budget related)
      exact spent.bind fun _ => ih true (.inr spending)
  | administrator next ih =>
    apply Eval.parallel_get
    intro world twin related
    rw [coherent.context related]
    have asked : World.Aside fun world : World σ => { world with context :=
        { world.context with administrator := world.context.administrator.ask.2 } } :=
      World.aside_context (fun context =>
        { context with administrator := context.administrator.ask.2 }) fun _ => rfl
    refine Eval.ParallelAt.bind (Eval.parallelAt_of_run (Eval.run_modify _ world)
      (Eval.run_modify _ twin) ?_) fun _ => ih _ (spends.imp_left fun thrifty => thrifty _)
    have related := coherent.aside asked related
    dsimp only at related
    rw [coherent.context ‹rel world twin›] at related ⊢
    exact related
  | draw low high next ih =>
    apply Eval.parallel_get
    intro world twin related
    have drawn := coherent.aside
      (World.aside_generator fun generator => (generator.draw low high).2) related
    rw [coherent.generator related] at drawn ⊢
    exact Eval.parallelAt_set drawn (ih _ (spends.imp_left fun thrifty => thrifty _))
  | addAlias name text next ih =>
    apply (Eval.parallel_update coherent _).bind
    exact fun result => ih result (spends.imp_left fun thrifty => thrifty result)
  | removeAlias name next ih =>
    apply (Eval.parallel_update coherent _).bind
    exact fun result => ih result (spends.imp_left fun thrifty => thrifty result)
  | change update next ih =>
    apply Eval.parallel_get
    intro world twin related
    have changed := coherent.aside (World.aside_application update) related
    rw [coherent.application related] at changed ⊢
    exact Eval.parallelAt_set changed (ih _ (spends.imp_left fun thrifty => thrifty _))

namespace Evaluate

section Code

variable (spends : host.Thrifty ∨ World.Spending rel)
include lines spends

theorem invoke_parallel (f : Function) (bindings : Bindings) :
    (invoke host call line f bindings).Parallel rel (invoke host other otherLine f bindings) := by
  apply (Program.run_parallel coherent calls lines
    (spends.imp_left fun thrifty => thrifty.codeOf f.code bindings)).bind
  intro result
  cases result with
  | ok value => exact Eval.parallel_pure value
  | error failure => exact Eval.parallel_throw _

theorem callForeign_parallel (label : String) (index : Nat) (arguments : List Command)
    (kinds : List Kind) :
    (callForeign host call line label index arguments kinds).Parallel rel
      (callForeign host other otherLine label index arguments kinds) := by
  unfold callForeign
  split
  · rename_i code found
    apply (Program.run_parallel coherent calls lines
      (spends.imp_left fun thrifty => thrifty.foreign index code arguments kinds found)).bind
    exact fun outcome => Eval.parallel_ofExcept outcome
  · exact Eval.parallel_throw _

end Code

theorem callLazy_parallel (cell : Nat) (inner : Command) (arguments : List Command)
    (kinds : List Kind) :
    (callLazy call cell inner arguments kinds).Parallel rel
      (callLazy other cell inner arguments kinds) := by
  intro world twin related
  unfold Eval.ParallelAt
  rw [run_callLazy, run_callLazy, coherent.kept? related, coherent.bot related,
    coherent.context related]
  cases world.kept? cell with
  | some outcome => exact .some ⟨rfl, related⟩
  | none =>
    have begun : rel (world.record (.evaluated cell world.context.frames))
        (twin.record (.evaluated cell world.context.frames)) := coherent.record (by nofun) related
    have both := calls inner arguments kinds _ _ begun
    unfold Eval.ParallelAt at both
    generalize (call inner arguments kinds).run.run _ = made at both
    generalize (other inner arguments kinds).run.run _ = same at both
    cases both with
    | none => exact .none
    | @some made same both =>
      obtain ⟨outcome, after⟩ := made
      obtain ⟨_, later⟩ := same
      obtain ⟨rfl, related⟩ := both
      refine .some ⟨?_, coherent.aside (World.aside_keep cell outcome) related⟩
      dsimp only
      rw [coherent.bot related]

include lines in
theorem step_parallel (spends : host.Thrifty ∨ World.Spending rel) {command : Command}
    (plain : ∀ text body, command ≠ .stored text body) (arguments : List Command)
    (kinds : List Kind) :
    (step host call line command arguments kinds).Parallel rel
      (step host other otherLine command arguments kinds) := by
  have congruence := Eval.congruence_parallel coherent
  apply congruence.step calls
  case codes => exact invoke_parallel coherent calls lines spends
  case attempts =>
    exact fun shared functions => congruence.callFirst calls Eval.Parallel.outcome
      (fun count => Eval.parallel_modify coherent (World.aside_attempts count)) shared kinds functions
  case stored => exact fun text body same => absurd same (plain text body)
  case cells =>
    exact fun cell inner => callLazy_parallel coherent calls cell inner arguments kinds
  case foreign =>
    exact fun label index =>
      callForeign_parallel coherent calls lines spends label index arguments kinds

theorem callLine_parallel : (callLine call).Parallel rel (callLine other) :=
  (Eval.congruence_parallel coherent).callLine calls

omit coherent calls in
theorem run_callStored_unpaid {text : String} {body : Command} {arguments : List Command}
    {kinds : List Kind} {world : World σ} (unpaid : world.context.budget.take? 1 = none) :
    (callStored call text body arguments kinds).run.run world =
      some (.error .budgetExhausted, world) := by
  rw [callStored, Eval.run_bind, payForLine, Eval.run_bind, Eval.run_get]
  dsimp only
  rw [unpaid]
  rfl

omit calls in
/-- What becomes of a stored line is up to its body, which begins in the world that it is paid for. -/
theorem callStored_parallel {text : String} {body : Command} {arguments : List Command}
    {kinds : List Kind}
    (enters : ∀ world twin budget, rel world twin → world.context.budget.take? 1 = some budget →
      Option.Rel (fun made same => made.1 = same.1 ∧
          rel { made.2 with context := made.2.context.pop }
            { same.2 with context := same.2.context.pop })
        ((call body [] kinds).run.run (world.enter budget text arguments))
        ((other body [] kinds).run.run (twin.enter budget text arguments))) :
    (callStored call text body arguments kinds).Parallel rel
      (callStored other text body arguments kinds) := by
  intro world twin related
  unfold Eval.ParallelAt
  cases paid : world.context.budget.take? 1 with
  | none =>
    rw [run_callStored_unpaid paid,
      run_callStored_unpaid (by rw [coherent.context related]; exact paid)]
    exact .some ⟨rfl, related⟩
  | some budget =>
    have both := enters world twin budget related paid
    rw [run_callStored paid, run_callStored (by rw [coherent.context related]; exact paid)]
    generalize (call body [] kinds).run.run _ = made at both
    generalize (other body [] kinds).run.run _ = same at both
    cases both with
    | none => exact .none
    | some both => exact .some both

end Evaluate

end Step

end ChatLine
