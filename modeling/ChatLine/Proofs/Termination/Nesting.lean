import ChatLine.Proofs.Termination.Approximation
import ChatLine.Proofs.Termination.SelfFeeding
import ChatLine.Proofs.Termination.Steps

set_option autoImplicit false

namespace ChatLine

variable {σ : Type}

namespace Evaluate

/-- Calls a command, as long as no more than `depth` calls are inside each other, when no more than
`nested` of the texts that run as command lines may be inside each other. Those beyond are left to
`beyond`. -/
def limited (host : Host σ) (beyond : LineCaller σ) : Nat → Nat → Caller σ
  | _, 0, _, _, _ => Eval.tooDeep
  | nested, depth + 1, command, arguments, kinds =>
    let line :=
      match nested with
      | 0 => beyond
      | fewer + 1 => callLine (limited host beyond fewer depth)
    Eval.recorded (step host (limited host beyond nested depth) line command arguments kinds)

/-- Refuses to run a text, as a stored line is refused when no token is left. -/
def refuse : LineCaller σ :=
  fun _ _ => throw .budgetExhausted

/-- Runs a text without end. -/
def hang : LineCaller σ :=
  fun _ _ => Eval.tooDeep

/-- The texts that may run inside the calls of a caller that is limited. -/
def limitedLine (host : Host σ) (beyond : LineCaller σ) : Nat → Nat → LineCaller σ
  | 0, _ => beyond
  | fewer + 1, depth => callLine (limited host beyond fewer depth)

section Limited

variable {host : Host σ} {beyond : LineCaller σ}

theorem limited_succ (nested depth : Nat) (command : Command) (arguments : List Command)
    (kinds : List Kind) :
    limited host beyond nested (depth + 1) command arguments kinds =
      Eval.recorded (step host (limited host beyond nested depth)
        (limitedLine host beyond nested depth) command arguments kinds) := by
  cases nested <;> rfl

theorem callLine_ends {call : Nat → Caller σ} (calls : ∀ tokens bound, CallsEnd call tokens bound) :
    LinesEnd fun depth => callLine (call depth) := by
  intro text kinds world tame
  have meant : Eval.Ends (fun _ => Eval.ofExcept (Expr.read text).toCommand) world
      fun command _ => command.Ordinary :=
    Eval.ends_ofExcept tame fun _ => Expr.ordinary_toCommand
  apply meant.bind
  intro command after later ordinary
  have less : after.work command [] < after.work command [] + 1 := Nat.lt_succ_self _
  exact (calls after.tokens _).settled ordinary Command.allOrdinary_nil later.tame
    (Nat.le_refl _) less kinds

theorem CallsEnd.mono {call : Nat → Caller σ} {tokens more bound higher : Nat}
    (calls : CallsEnd call more higher) (atMost : tokens ≤ more) (within : bound ≤ higher) :
    CallsEnd call tokens bound := by
  intro command arguments kinds world ordinary ordinaryArguments tame less
  apply calls command arguments kinds world ordinary ordinaryArguments tame
  rcases less with spent | ⟨spent, cheap⟩
  · exact .inl (Nat.lt_of_lt_of_le spent atMost)
  · exact .inr ⟨Nat.le_trans spent atMost, Nat.lt_of_lt_of_le cheap within⟩

/-- Calls whose texts come to an end come to an end: the first induction is on the tokens, the
second on the work that there is for one number of them. -/
theorem calls_end (abides : host.Abides) {nested : Nat}
    (lines : LinesEnd (limitedLine host beyond nested)) (tokens bound : Nat) :
    CallsEnd (limited host beyond nested) tokens bound := by
  induction tokens using Nat.strongRecOn generalizing bound with
  | ind tokens fewer =>
    induction bound with
    | zero =>
      intro command arguments kinds world ordinary ordinaryArguments tame less
      rcases less with spent | ⟨_, impossible⟩
      · exact fewer world.tokens spent (world.work command arguments + 1) command arguments kinds
          world
          ordinary ordinaryArguments tame (.inr ⟨Nat.le_refl _, Nat.lt_succ_self _⟩)
      · exact absurd impossible (Nat.not_lt_zero _)
    | succ bound smaller =>
      intro command arguments kinds world ordinary ordinaryArguments tame less
      have calls : CallsEnd (limited host beyond nested) world.tokens
          (world.work command arguments) := by
        rcases less with spent | ⟨atMost, within⟩
        · exact fewer world.tokens spent _
        · exact smaller.mono atMost (Nat.le_of_lt_succ within)
      apply Eval.Ends.deeper
      simp only [limited_succ]
      exact (step_ends abides calls lines ordinary ordinaryArguments tame kinds).recorded

/-- Calls come to an end however many texts may be inside each other, if those beyond do. -/
theorem limited_ends (abides : host.Abides) (ends : LinesEnd fun _ => beyond)
    (nested tokens bound : Nat) : CallsEnd (limited host beyond nested) tokens bound := by
  induction nested generalizing tokens bound with
  | zero =>
    have lines : LinesEnd (limitedLine host beyond 0) := ends
    exact calls_end abides lines tokens bound
  | succ nested ih =>
    have lines : LinesEnd (limitedLine host beyond (nested + 1)) := callLine_ends ih
    exact calls_end abides lines tokens bound

theorem linesEnd_refuse : LinesEnd fun _ => (refuse : LineCaller σ) :=
  fun _ _ _ tame => Eval.ends_throw tame

/-- A caller that never reaches its limit is not limited. -/
theorem limited_eq_run {nested depth : Nat} (enough : depth ≤ nested) :
    limited host beyond nested depth = run host depth := by
  induction depth generalizing nested with
  | zero => rfl
  | succ depth ih =>
    obtain ⟨fewer, rfl⟩ : ∃ fewer, nested = fewer + 1 := ⟨nested - 1, by omega⟩
    funext command arguments kinds
    rw [limited_succ, ih (by omega)]
    show Eval.recorded (step host (run host depth) (callLine (limited host beyond fewer depth))
      command arguments kinds) = _
    rw [ih (by omega)]
    rfl

/-- Where a limited caller has a result although it would not end at its limit, the limit makes no
difference. -/
theorem limited_approximates (nested depth : Nat) :
    (limited host hang nested depth).Approximates (run host depth) := by
  induction depth generalizing nested with
  | zero => exact fun _ _ _ => Eval.approximates_tooDeep _
  | succ depth ih =>
    have lines : (limitedLine host hang nested depth).Approximates (callLine (run host depth)) := by
      cases nested with
      | zero => exact fun _ _ => Eval.approximates_tooDeep _
      | succ fewer => exact callLine_approximates (ih fewer)
    intro command arguments kinds
    rw [limited_succ]
    exact (step_approximates (ih nested) lines command arguments kinds).recorded

end Limited

end Evaluate

/-- Genuine functions are registered as commands that the tree may hold. -/
theorem vouches_genuine :
    Bot.Vouches (fun command => command.function.Genuine) Command.Placed := by
  intro commands command genuine found
  unfold Bot.commandFor at found
  split at found
  · cases found
  · cases found
    exact genuine _ (List.mem_singleton_self _)
  · cases found
    intro f inside
    have listed := (List.mem_mergeSort).1 inside
    obtain ⟨single, among, rfl⟩ := List.mem_map.1 listed
    exact genuine single among

/-- The operation registers functions that run the code of `eval` only if they are the built-in one,
and adds no command but functions, overloads and stored lines. -/
def Bot.Operation.Genuine (operation : Bot.Operation) : Prop :=
  operation.Brings Command.Placed fun command => command.function.Genuine

theorem Builtin.genuine (builtin : Builtin) : builtin.function.Genuine := by
  intro runsEval
  cases builtin <;> first | rfl | exact nomatch runsEval

/-- The world of a new call is tame, whatever was done to the bot since it has started. -/
theorem tame_start {config : Config} {bot : Bot} (started : Bot.start config = .ok bot)
    {operations : List Bot.Operation} (genuine : ∀ operation ∈ operations, operation.Genuine)
    (tokens : Nat) (check : Option Bool) (application : σ) (seed : Nat) :
    (World.start (bot.afterAll operations) (.fresh (.tokens tokens) check) application
      seed).Tame := by
  have fits : ∀ text command, Command.ofLine text = .ok command → command.Placed :=
    fun _ _ => Command.placed_ofLine
  have begun := Bot.only_start vouches_genuine fits Builtin.genuine started
  have only := begun.afterAll vouches_genuine fits genuine
  refine ⟨rfl, List.forall_mem_nil _, ?_, only.tree⟩
  intro cell command found
  simp [World.kept?, World.start] at found

/-- A call of a chat line comes to an end if and only if the texts that it runs as command lines are
inside each other down to some depth only: nothing else can keep it from its end. Were the texts
that are nested too deep refused, every call would end, for any bot, any stored lines and any number
of tokens. -/
theorem ends_iff_texts_nest {host : Host σ} (abides : host.Abides) {config : Config} {bot : Bot}
    (started : Bot.start config = .ok bot) {operations : List Bot.Operation}
    (genuine : ∀ operation ∈ operations, operation.Genuine) (tokens : Nat) (check : Option Bool)
    (application : σ) (seed : Nat) (text : String) (kinds : List Kind) :
    let world :=
      World.start (bot.afterAll operations) (.fresh (.tokens tokens) check) application seed
    (∀ nested, ∃ depth, ((Evaluate.callLine (Evaluate.limited host Evaluate.refuse nested depth)
      text kinds).run.run world).isSome) ∧
    ((∃ depth, ((Evaluate.callLine (Evaluate.run host depth) text kinds).run.run world).isSome) ↔
      ∃ nested depth, ((Evaluate.callLine (Evaluate.limited host Evaluate.hang nested depth)
        text kinds).run.run world).isSome) := by
  intro world
  have tame : world.Tame := tame_start started genuine tokens check application seed
  refine ⟨?_, ?_, ?_⟩
  · intro nested
    have ends := Evaluate.callLine_ends
      (Evaluate.limited_ends abides Evaluate.linesEnd_refuse nested) text kinds world tame
    obtain ⟨enough, result, after, runs, _⟩ := ends
    exact ⟨enough, by rw [runs enough (Nat.le_refl _)]; rfl⟩
  · rintro ⟨depth, ends⟩
    refine ⟨depth, depth, ?_⟩
    rw [Evaluate.limited_eq_run (Nat.le_refl depth)]
    exact ends
  · rintro ⟨nested, depth, ends⟩
    obtain ⟨result, runs⟩ := Option.isSome_iff_exists.1 ends
    have same := Evaluate.callLine_approximates (Evaluate.limited_approximates nested depth)
      text kinds world result runs
    exact ⟨depth, by rw [same]; rfl⟩

/-- The texts of the line that runs itself are inside each other without end: refused at any depth
they let the line end, and without that it does not end at any. -/
theorem selfFeeding_texts_nest :
    ∃ bot, Bot.start .standard = .ok bot ∧ Host.none.Abides ∧
      (∀ operation ∈ [.addAlias "x" selfFeeding], Bot.Operation.Genuine operation) ∧
      let world := World.start (bot.afterAll [.addAlias "x" selfFeeding])
        (.fresh (.tokens 0) none) () 0
      (∀ nested, ∃ depth, ((Evaluate.callLine (Evaluate.limited Host.none Evaluate.refuse nested
        depth) selfFeeding Kind.textOrNothing).run.run world).isSome) ∧
      ¬ ∃ nested depth, ((Evaluate.callLine (Evaluate.limited Host.none Evaluate.hang nested depth)
        selfFeeding Kind.textOrNothing).run.run world).isSome := by
  obtain ⟨bot, started, feeds⟩ := Bot.exists_feedsItself
  have abides : Host.none.Abides := fun _ _ _ _ _ => Native.abides_fail
  have genuine : ∀ operation ∈ [.addAlias "x" selfFeeding], Bot.Operation.Genuine operation :=
    List.forall_mem_singleton.2 trivial
  have nests := ends_iff_texts_nest abides started genuine 0 none () 0 selfFeeding
    Kind.textOrNothing
  refine ⟨bot, started, abides, genuine, nests.1, ?_⟩
  intro ends
  obtain ⟨depth, ended⟩ := nests.2.2 ends
  have feedsLater : (bot.afterAll [.addAlias "x" selfFeeding]).FeedsItself := feeds
  rw [callLine_selfFeeding feedsLater depth] at ended
  cases ended

/-- A bot with the built-in commands and one stored line, and a line on which it never stops: with
any number of tokens, and however deep its calls may go, there is no result. -/
theorem selfFeeding_never_ends :
    ∃ bot, Bot.start .standard = .ok bot ∧ ∀ tokens depth,
      (Evaluate.callLine (Evaluate.run Host.none depth) selfFeeding Kind.textOrNothing).run.run
        (World.start ((Bot.addAlias "x" selfFeeding).run.run bot).2 (.fresh (.tokens tokens) none)
          () 0) = none := by
  obtain ⟨bot, started, feeds⟩ := Bot.exists_feedsItself
  exact ⟨bot, started, fun tokens depth => callLine_selfFeeding feeds depth⟩

end ChatLine
