import ChatLine.Proofs.Bot.Naming
import ChatLine.Proofs.Functions.Reaching
import ChatLine.Proofs.Scoping.Parameter

set_option autoImplicit false

namespace ChatLine

variable {σ : Type}

theorem Function.early?_string {f : Function} {taken : Nat} (enough : f.required ≤ taken)
    (shared : List Command) : f.early? shared taken [.string] = none :=
  early?_eq_none_iff.2 ⟨enough, fun both => (nomatch both.2), .string, by decide, by decide⟩

/-- A text is delivered to who wants a text, even if it is empty. -/
theorem Value.deliver_string (content : String) (f : Function) :
    (Value.string content).deliver f [.string] = .ok (.text content) := by
  by_cases full : content.isEmpty
  · rw [String.isEmpty_iff.1 full]
    rfl
  · have kept : (some content).filter (fun text => !text.isEmpty) = some content := by
      simp [Option.filter, full]
    have first : [Kind.string].findSome? (Value.string content).answer? = some (.text content) := by
      rw [List.findSome?_singleton, answer?, toText?, kept]
      rfl
    unfold deliver
    dsimp only
    rw [first]

namespace Evaluate

variable {host : Host σ} {world : World σ} {names : List String}

def onNames (host : Host σ) (calls : Nat) (command : Command) (names : List String)
    (kinds : List Kind) : Eval σ Reply :=
  run host calls (.applied command (names.map .literal)) [] kinds

theorem run_onNames (host : Host σ) (calls : Nat) (command : Command) (names : List String)
    (kinds : List Kind) :
    onNames host (calls + 1) command names kinds =
      Eval.recorded (run host calls command (names.map .literal) kinds) := by
  rw [onNames, run_applied, List.append_nil]

def sharedNames (world : World σ) (names : List String) : List Command :=
  Command.sharedFrom world.cells.size (names.map .literal)

/-- Texts that are shared and have not been read are read in order, and the bot stays as it is. -/
theorem exists_run_texts_names (depth : Nat) (names : List String) {world : World σ} {cell : Nat}
    (fresh : ∀ later, cell ≤ later → world.kept? later = none) :
    ∃ after, (Eval.texts (run host (depth + 2)) (Command.sharedFrom cell
      (names.map .literal))).run.run world = some (.ok names, after) ∧ after.bot = world.bot := by
  induction names generalizing world cell with
  | nil => exact ⟨world, rfl, rfl⟩
  | cons name rest ih =>
    let read : World σ := (world.record (.evaluated cell world.context.frames)).keep cell
      (.ok (.text name))
    have first : (Eval.text (run host (depth + 2)) (.lazy cell (.literal name))).run.run world =
        some (.ok name, read) := by
      apply Eval.run_text_of_answer
      rw [run, Eval.run_recorded, step, run_callLazy_of_unsettled (fresh cell (Nat.le_refl cell)),
        run_literal host depth name rfl]
      rfl
    have later : ∀ other, cell + 1 ≤ other → read.kept? other = none := by
      intro other behind
      rw [World.kept?_keep, if_neg fun both => Nat.ne_of_lt behind both.1]
      exact fresh other (Nat.le_of_succ_le behind)
    obtain ⟨after, others, same⟩ := ih later
    refine ⟨after, ?_, same⟩
    rw [List.map_cons, Command.sharedFrom, Eval.texts, Eval.run_bind, first]
    dsimp only
    rw [Eval.run_bind, others]
    rfl

theorem exists_run_texts_shared (host : Host σ) (depth : Nat) (world : World σ)
    (names : List String) :
    ∃ after, (Eval.texts (run host (depth + 2)) (sharedNames world names)).run.run
      (world.grow names.length) = some (.ok names, after) ∧ after.bot = world.bot := by
  refine exists_run_texts_names depth names fun later outside => ?_
  rw [World.kept?_grow]
  exact World.kept?_eq_none outside

/-- The error of a function whose code fails with an error of the command system is that error. -/
theorem run_invoke_of_result {call : Caller σ} {line : LineCaller σ} {f : Function}
    {bindings : Bindings} {result : Except CommandError Value} {after : World σ}
    (runs : ((host.codeOf f.code bindings).runWith call line).run.run world =
      some (.ok (result.mapError Failure.error), after)) :
    (invoke host call line f bindings).run.run world = some (result, after) := by
  unfold Native.runWith at runs
  rw [invoke, Eval.run_bind, runs]
  cases result <;> rfl

/-- A function results in the text that its code makes of what is bound. -/
theorem resultIn_onNames {command : Command} {f : Function} (depth : Nat) {bindings : Bindings}
    {rest : List Command} {after last : World σ} {result : Except CommandError String}
    (isFunction : command.function? = some f)
    (binds : (Function.bindFormals (run host (depth + 2)) [.string] (sharedNames world names)
      f.formals (sharedNames world names)).run.run (world.grow names.length) =
        some (.ok (bindings, rest), after))
    (enough : f.required ≤ names.length - rest.length)
    (invokes : (invoke host (run host (depth + 2)) (callLine (run host (depth + 2))) f
      bindings).run.run after = some (result.map .string, last)) :
    (onNames host (depth + 4) command names [.string]).resultIn world =
      some (result.map .text) := by
  have length : (names.map Command.literal).length = names.length := List.length_map _
  rw [← length] at binds enough
  rw [run_onNames, Eval.resultIn_recorded, run, Eval.resultIn_recorded, Eval.resultIn,
    step_of_function? isFunction, Eval.run_bind, run_reach_of_binds binds,
    Function.early?_string enough]
  dsimp only [Reached.of, proceed]
  rw [Eval.run_bind, invokes]
  cases result with
  | error error => rfl
  | ok content =>
    dsimp only [Except.map]
    rw [Eval.run_ofExcept, Value.deliver_string]
    rfl

end Evaluate

end ChatLine
