import ChatLine.Proofs.Calls.Requests
import ChatLine.Proofs.Calls.Steps
import ChatLine.Proofs.Failures.Forwarding
import ChatLine.Proofs.Failures.Told

set_option autoImplicit false

namespace ChatLine

variable {σ α : Type}

def Caller.Tells (call : Caller σ) : Prop :=
  ∀ command arguments kinds, (call command arguments kinds).Tells

/-- The failures inside every text that runs as a command line are told of. -/
def LineCaller.Tells (line : LineCaller σ) : Prop :=
  ∀ text kinds, (line text kinds).Tells

section Step

variable {host : Host σ} {call : Caller σ} {line : LineCaller σ} (calls : call.Tells)
include calls

omit calls in
/-- A request of code is told of by the error that the code is handed and hands on. -/
theorem Program.run_tells_of_outcome {tell : α → Option CommandError} {action : Eval σ Reply}
    {next : Outcome → Program σ α} (tells : action.Tells)
    (fails : ∀ error, ∃ value, next (.error error) = .done value ∧ tell value = some error)
    (rest : ∀ reply world, ((next (.ok reply)).run call line).Ensures world fun result after =>
      ∃ value, result = .ok value ∧ world.Telling (tell value) after)
    (world : World σ) :
    (Eval.outcome action >>= fun outcome => (next outcome).run call line).Ensures world
      fun result after => ∃ value, result = .ok value ∧ world.Telling (tell value) after := by
  intro result after ends
  rw [Eval.run_bind, Eval.run_outcome] at ends
  cases found : action.run.run world with
  | none =>
    rw [found] at ends
    cases ends
  | some made =>
    obtain ⟨outcome, middle⟩ := made
    have told := tells world outcome middle found
    rw [found] at ends
    cases outcome with
    | error error =>
      obtain ⟨value, same, tells_error⟩ := fails error
      simp only [Option.map_some, same] at ends
      cases ends
      refine ⟨value, rfl, ?_⟩
      rw [tells_error]
      exact told
    | ok reply =>
      obtain ⟨value, same, later⟩ := rest reply middle result after ends
      exact ⟨value, same, told.trans later⟩

/-- Code that hands failures on ends with a value that tells of them all. -/
theorem Program.run_tells (lines : line.Tells) {tell : α → Option CommandError}
    {program : Program σ α} (forwards : program.Forwards tell) (world : World σ) :
    (program.run call line).Ensures world fun result after =>
      ∃ value, result = .ok value ∧ world.Telling (tell value) after := by
  induction program generalizing world with
  | done value =>
    intro result after ends
    cases ends
    exact ⟨value, rfl, .refl _ _⟩
  | call scopes command arguments kinds next ih =>
    exact run_tells_of_outcome ((calls command arguments kinds).inScopes scopes) forwards.1
      (fun reply => ih (.ok reply) (forwards.2 reply)) world
  | line text kinds next ih =>
    exact run_tells_of_outcome (lines text kinds) forwards.1
      (fun reply => ih (.ok reply) (forwards.2 reply)) world
  | look next ih => exact ih _ _ (forwards _ _) world
  | spend tokens next ih =>
    intro result after ends
    rw [Program.run, Eval.run_bind, Eval.run_get] at ends
    dsimp only at ends
    cases paid : world.context.budget.take? tokens with
    | none =>
      rw [paid] at ends
      exact ih false (forwards false) world result after ends
    | some budget =>
      rw [paid] at ends
      dsimp only at ends
      rw [Eval.changeContext, Eval.run_bind, Eval.run_modify] at ends
      have told := ih true (forwards true) _ result after ends
      exact told
  | administrator next ih =>
    intro result after ends
    have told := ih _ (forwards _) { world with context := { world.context with
      administrator := world.context.administrator.ask.2 } } result after ends
    exact told
  | draw low high next ih =>
    intro result after ends
    simp only [Program.run, Eval.run_bind, Eval.run_get] at ends
    generalize world.generator.draw low high = drawn at ends
    obtain ⟨value, generator⟩ := drawn
    rw [Eval.run_set] at ends
    have told := ih value (forwards value) _ result after ends
    exact told
  | addAlias name text next ih =>
    intro result after ends
    rw [Program.run, Eval.run_bind, Eval.run_update] at ends
    have told := ih _ (forwards _) _ result after ends
    exact told
  | removeAlias name next ih =>
    intro result after ends
    rw [Program.run, Eval.run_bind, Eval.run_update] at ends
    have told := ih _ (forwards _) _ result after ends
    exact told
  | change update next ih =>
    intro result after ends
    have told := ih _ (forwards _) { world with
      application := update world.application } result after ends
    exact told

/-- The functions and the commands of the application call no command and run no line. -/
structure Host.Silent (host : Host σ) : Prop where
  native : ∀ index bindings, (host.native index bindings).run.Silent
  foreign : ∀ index code arguments kinds, host.foreign index = some code →
    (code arguments kinds).Silent

omit calls in
theorem Host.Silent.forwards (silent : host.Silent) (code : Code) (bindings : Bindings) :
    (host.codeOf code bindings).run.Forwards forwarded? := by
  cases code with
  | builtin builtin => exact (builtin.orderly_native bindings).forwards
  | host index => exact (silent.native index bindings).forwards forwarded?

namespace Evaluate

/-- Code that handed the failures inside it on fails with the one that there was. -/
theorem invoke_tells (silent : host.Silent) (lines : line.Tells) (f : Function)
    (bindings : Bindings) : (invoke host call line f bindings).Tells := by
  have forwards := silent.forwards f.code bindings
  intro world result after ends
  rcases Eval.exists_of_run_bind ends with ⟨error, failed, same⟩ | ⟨value, middle, found, ended⟩
  · obtain ⟨value, impossible, _⟩ := Program.run_tells calls lines forwards world _ _ failed
    cases impossible
  · obtain ⟨_, same, told⟩ := Program.run_tells calls lines forwards world _ _ found
    cases same
    cases value with
    | ok value =>
      cases ended
      exact told
    | error failure =>
      cases ended
      cases failure with
      | error error => exact told
      | message text doing => exact told.of_none _

/-- What goes wrong in an attempt is not told of, unless it exhausts the budget. -/
theorem callFirst_tells (arguments : List Command) (kinds : List Kind) (functions : List Function) :
    (callFirst call arguments kinds functions).Tells := by
  induction functions with
  | nil => exact Eval.tells_throw _
  | cons f rest ih =>
    intro world result after ends
    rw [run_callFirst] at ends
    cases found : (call (.function f) arguments kinds).run.run
        { world with attempts := world.attempts + 1 } with
    | none =>
      rw [found] at ends
      cases ends
    | some made =>
      obtain ⟨outcome, tried⟩ := made
      obtain ⟨attempts, events, journal, told⟩ := calls (.function f) arguments kinds _ _ _ found
      have back : tried.attempts - 1 = world.attempts := by
        rw [attempts]
        exact Nat.add_sub_cancel _ _
      have hidden : outcome ≠ .error .budgetExhausted →
          world.Telling none { tried with attempts := tried.attempts - 1 } := by
        intro paid
        refine ⟨back, events, journal, told.attempt ?_⟩
        cases outcome with
        | ok reply => exact nofun
        | error error => exact fun same => paid (congrArg Except.error (Option.some.inj same))
      rw [found] at ends
      split at ends
      · cases ‹_ = none›
      · rename_i reply same
        cases same
        cases ends
        exact hidden nofun
      · rename_i same
        cases same
        cases ends
        exact ⟨back, events, journal, told.attempt_exhausted⟩
      · rename_i error other exhausted same
        cases same
        exact (hidden fun same => exhausted (Except.error.inj same)).trans (ih _ _ _ ends)

theorem callStored_tells (text : String) (body : Command) (arguments : List Command)
    (kinds : List Kind) : (callStored call text body arguments kinds).Tells := by
  have paid : (payForLine : Eval σ Unit).Tells := by
    apply Eval.tells_get.bind
    intro world
    cases world.context.budget.take? 1 with
    | none => exact Eval.tells_throw _
    | some budget => exact Eval.tells_modify (fun _ => rfl) fun _ => rfl
  have recorded : (Eval.record (.entered text) : Eval σ Unit).Tells := by
    intro world result after ends
    cases ends
    exact ⟨rfl, [.entered text], rfl, .of_other (by nofun) _ _⟩
  apply paid.bind
  intro _
  apply (Eval.tells_share arguments).bind
  intro frame
  apply recorded.bind
  intro _
  exact (calls body [] kinds).inScope (.inner frame)

/-- An outcome that is kept is told of when it comes to be, and every replay of it fails with the same
error. -/
theorem callLazy_tells (cell : Nat) (inner : Command) (arguments : List Command)
    (kinds : List Kind) : (callLazy call cell inner arguments kinds).Tells := by
  intro world result after ends
  rw [run_callLazy] at ends
  cases unsettled : world.kept? cell with
  | some outcome =>
    rw [unsettled] at ends
    cases ends
    exact .refl _ world
  | none =>
    rw [unsettled] at ends
    obtain ⟨⟨outcome, middle⟩, runs, same⟩ := Option.map_eq_some_iff.1 ends
    cases same
    obtain ⟨attempts, events, journal, told⟩ := calls inner arguments kinds _ _ _ runs
    refine ⟨attempts, events ++ [.evaluated cell world.context.frames], ?_, ?_⟩
    · show middle.journal = _
      rw [journal, List.append_assoc]
      rfl
    · have begun : Told world.attempts [.evaluated cell world.context.frames]
          (failure? (replay (inner.describe middle.bot.groups) outcome kinds)) :=
        .of_other (by nofun) _ _
      refine Told.append ?_ begun
      cases outcome with
      | error error => exact told
      | ok reply => exact Told.of_none told _

/-- The failures inside a command of the application are told of by the one that there was. -/
theorem callForeign_tells (silent : host.Silent) (lines : line.Tells) (label : String) (index : Nat)
    (arguments : List Command) (kinds : List Kind) :
    (callForeign host call line label index arguments kinds).Tells := by
  unfold callForeign
  split
  · rename_i code found
    intro world result after ends
    have forwards := (silent.foreign index code arguments kinds found).forwards fun _ => none
    rcases Eval.exists_of_run_bind ends with ⟨error, failed, same⟩ | ⟨value, middle, ran, ended⟩
    · obtain ⟨value, impossible, _⟩ := Program.run_tells calls lines forwards world _ _ failed
      cases impossible
    · obtain ⟨_, _, told⟩ := Program.run_tells calls lines forwards world _ _ ran
      cases ended
      exact told.of_none _
  · exact Eval.tells_throw _

/-- Every call tells of the failures inside it if those that it makes do. -/
theorem step_tells (silent : host.Silent) (lines : line.Tells) : (step host call line).Tells := by
  intro command arguments kinds
  apply Eval.closed_tells.step calls
  case codes => exact invoke_tells calls silent lines
  case attempts => exact fun shared functions => callFirst_tells calls shared kinds functions
  case stored => exact fun text body _ => callStored_tells calls text body arguments kinds
  case cells => exact fun cell inner => callLazy_tells calls cell inner arguments kinds
  case foreign =>
    exact fun label index => callForeign_tells calls silent lines label index arguments kinds

theorem callLine_tells : (callLine call).Tells :=
  Eval.closed_tells.callLine calls

end Evaluate

end Step

namespace Evaluate

variable {host : Host σ}

theorem run_tells (silent : host.Silent) (depth : Nat) : (run host depth).Tells := by
  induction depth with
  | zero => exact fun _ _ _ => Eval.tells_tooDeep
  | succ depth ih =>
    intro command arguments kinds
    exact (step_tells ih silent (callLine_tells ih) command arguments kinds).recorded

/-- No failure is hidden. In an application whose own code calls nothing, whatever command is called:
if any call that is made on the way, however deep and in whatever attempt, fails because the budget is
exhausted, then so does the whole call; and if one fails outside of all the attempts of overloads that
the call makes, then the whole call fails with just that error. -/
theorem failures_of_run (silent : host.Silent) (depth : Nat) (command : Command)
    (arguments : List Command) (kinds : List Kind) {world after : World σ} {outcome : Outcome}
    (runs : (run host depth command arguments kinds).run.run world = some (outcome, after)) :
    ∃ events, after.journal = events ++ world.journal ∧
      (∀ attempts, .failed .budgetExhausted attempts ∈ events →
        outcome = .error .budgetExhausted) ∧
      ∀ error, .failed error world.attempts ∈ events → outcome = .error error := by
  obtain ⟨-, events, journal, told⟩ := run_tells silent depth command arguments kinds _ _ _ runs
  have fails : ∀ error, failure? outcome = some error → outcome = .error error := by
    intro error tells
    cases outcome with
    | ok reply => cases tells
    | error other =>
      cases tells
      rfl
  refine ⟨events, journal, fun attempts among => ?_, fun error among => ?_⟩
  · exact fails _ ((told _ _ among).2 (.inl rfl))
  · exact fails _ ((told _ _ among).2 (.inr rfl))

/-- Overloads whose first attempt cannot pay for a stored line: the second one is not tried. -/
theorem failures_of_run_overloads :
    let world := World.start (.empty .bare) (.fresh (.tokens 0) none) () 0
    let set : Overloads := ⟨[Builtin.aliasRemove.function, Builtin.print.function], none⟩
    Host.none.Silent ∧ ∃ after, (run Host.none 5 (.overloads set) [.stored "!a" (.literal "a")]
        [.string]).run.run world = some (.error .budgetExhausted, after) ∧
      ∃ events, after.journal = events ++ world.journal ∧
        (∀ attempts, .failed .budgetExhausted attempts ∈ events →
          (.error .budgetExhausted : Outcome) = .error .budgetExhausted) ∧
        ∀ error, .failed error world.attempts ∈ events →
          (.error .budgetExhausted : Outcome) = .error error := by
  intro world set
  have silent : Host.none.Silent := ⟨fun _ _ => trivial, fun _ _ _ _ found => nomatch found⟩
  have ends : ∃ after, (run Host.none 5 (.overloads set) [.stored "!a" (.literal "a")]
      [.string]).run.run world = some (.error .budgetExhausted, after) := ⟨_, rfl⟩
  obtain ⟨after, runs⟩ := ends
  exact ⟨silent, after, runs, failures_of_run silent 5 _ _ _ runs⟩

end Evaluate

end ChatLine
