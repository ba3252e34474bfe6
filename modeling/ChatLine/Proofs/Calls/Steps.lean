import ChatLine.Proofs.Calls.Ensures

set_option autoImplicit false

namespace ChatLine.Evaluate

variable {σ : Type} {call : Caller σ}

/-- Trying a function, and going on to the next unless it answers or the budget is exhausted. -/
theorem run_callFirst (arguments : List Command) (kinds : List Kind) (f : Function)
    (rest : List Function) (world : World σ) :
    (callFirst call arguments kinds (f :: rest)).run.run world =
      match (call (.function f) arguments kinds).run.run
          { world with attempts := world.attempts + 1 } with
      | none => none
      | some (.ok reply, after) => some (.ok reply, { after with attempts := after.attempts - 1 })
      | some (.error .budgetExhausted, after) =>
        some (.error .budgetExhausted, { after with attempts := after.attempts - 1 })
      | some (.error _, after) =>
        (callFirst call arguments kinds rest).run.run
          { after with attempts := after.attempts - 1 } := by
  simp only [callFirst, Eval.run_bind, Eval.run_modify, Eval.run_outcome]
  cases (call (.function f) arguments kinds).run.run
      { world with attempts := world.attempts + 1 } with
  | none => rfl
  | some made =>
    obtain ⟨error | reply, after⟩ := made
    · cases error <;> rfl
    · rfl

/-- After a function that failed, the next one is tried, as long as there are tokens. -/
theorem run_callFirst_of_error {arguments : List Command} {kinds : List Kind} {f : Function}
    {rest : List Function} {world after : World σ} {error : CommandError}
    (fails : (call (.function f) arguments kinds).run.run
      { world with attempts := world.attempts + 1 } = some (.error error, after))
    (paid : error ≠ .budgetExhausted) :
    (callFirst call arguments kinds (f :: rest)).run.run world =
      (callFirst call arguments kinds rest).run.run
        { after with attempts := after.attempts - 1 } := by
  rw [run_callFirst, fails]
  cases error with
  | budgetExhausted => exact absurd rfl paid
  | _ => rfl

/-- A name that stands for a child of a group is as good as the child. -/
theorem run_dispatch_of_resolve {id : Nat} {name full : String} {node : Node} {world : World σ}
    (found : (world.bot.groups.children id).resolve name = .ok (full, node))
    (arguments : List Command) (kinds : List Kind) :
    (dispatch call id name arguments kinds).run.run world =
      (call node.command arguments kinds).run.run world := by
  rw [dispatch, Eval.run_bind, Eval.run_get]
  dsimp only
  rw [found, Eval.run_bind, Eval.run_ofExcept]

theorem exists_resolve_of_run {id : Nat} {name : String} {arguments : List Command}
    {kinds : List Kind} {reply : Reply} {world after : World σ}
    (runs : (dispatch call id name arguments kinds).run.run world = some (.ok reply, after)) :
    ∃ full node, (world.bot.groups.children id).resolve name = .ok (full, node) := by
  rw [dispatch, Eval.run_bind, Eval.run_get] at runs
  rcases Eval.exists_of_run_bind runs with ⟨_, _, failed⟩ | ⟨found, _, resolved, _⟩
  · cases failed
  · rw [Eval.run_ofExcept, Option.some.injEq, Prod.mk.injEq] at resolved
    exact ⟨found.1, found.2, resolved.1⟩

end ChatLine.Evaluate
