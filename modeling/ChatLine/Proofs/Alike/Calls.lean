import ChatLine.Proofs.Alike.Agree
import ChatLine.Proofs.Alike.Blind
import ChatLine.Proofs.Calls.Binding
import ChatLine.Proofs.Calls.Kinds
import ChatLine.Proofs.Calls.Requests

set_option autoImplicit false

namespace ChatLine

variable {σ α : Type}

open Command

/-- Calls of commands that are alike, on arguments that are alike, agree. -/
def Caller.Agrees (states : Matching → σ → σ → Prop) (base : Nat) (call : Caller σ) : Prop :=
  ∀ matching command other arguments others kinds world otherWorld,
    World.Alike states base matching world otherWorld → command.Alike matching other →
      AllAlike matching arguments others →
        Eval.Agree states base Reply.Alike matching (call command arguments kinds)
          (call other others kinds) world otherWorld

def LineCaller.Agrees (states : Matching → σ → σ → Prop) (base : Nat) (line : LineCaller σ) : Prop :=
  ∀ matching text kinds world otherWorld, World.Alike states base matching world otherWorld →
    Eval.Agree states base Reply.Alike matching (line text kinds) (line text kinds) world otherWorld

theorem Expr.alike_toCommand {matching : Matching} {expr : Expr} {command : Command}
    (meant : expr.toCommand = .ok command) : command.Alike matching command := by
  apply Expr.toCommand_induction _ _ meant
  · exact Alike.literal
  · intro bound alike
    exact alike_applied_iff.2 ⟨.root, List.forall₂_same.2 alike⟩

theorem Command.alike_ofLine {matching : Matching} {text : String} {command : Command}
    (meant : Command.ofLine text = .ok command) : command.Alike matching command := by
  obtain ⟨body, said, rfl⟩ := Command.ofLine_eq_ok_iff.1 meant
  exact .stored text (Expr.alike_toCommand said)

theorem Node.alike_command {matching : Matching} {node : Node}
    (only : node.Only fun command => command.Alike matching command) :
    node.command.Alike matching node.command := by
  cases node with
  | leaf command => exact only
  | group id below => exact .group id

theorem Binding.Alike.mono {matching later : Matching} (le : matching.Le later)
    {binding other : Binding} (alike : binding.Alike matching other) :
    binding.Alike later other := by
  cases alike with
  | arguments same => exact .arguments (AllAlike.mono le same)
  | same plain => exact .same plain

section Step

variable {states : Matching → σ → σ → Prop} {base : Nat} {matching : Matching} {host : Host σ}
  {call : Caller σ} {line : LineCaller σ} {world other : World σ}

theorem Eval.agree_get {rel : Matching → α → α → Prop} {next otherNext : World σ → Eval σ α}
    (rest : Agree states base rel matching (next world) (otherNext other) world other) :
    Agree states base rel matching (get >>= next) (get >>= otherNext) world other :=
  agree_after (run_get world) (run_get other) (.refl matching) rest

theorem Eval.text_agrees (calls : call.Agrees states base)
    (alike : world.Alike states base matching other) {command otherCommand : Command}
    (commands : command.Alike matching otherCommand) :
    Agree states base (fun _ => Eq) matching (text call command) (text call otherCommand) world
      other := by
  apply (calls matching command otherCommand [] [] [.string] world other alike commands .nil).bind
  intro later reply otherReply after otherAfter grows alike replies
  apply agree_get
  rw [alike.bot, Native.requireText_eq _ replies (commands.mono grows.le)]
  exact agree_ofExcept alike (.self _)

theorem Eval.texts_agree (calls : call.Agrees states base)
    (alike : world.Alike states base matching other) {commands others : List Command}
    (same : AllAlike matching commands others) :
    Agree states base (fun _ => Eq) matching (texts call commands) (texts call others) world
      other := by
  induction commands generalizing others matching world other with
  | nil =>
    cases same
    exact agree_pure alike rfl
  | cons command rest ih =>
    cases same with
    | cons one others =>
      apply (text_agrees calls alike one).bind
      rintro later first _ after otherAfter grows alike rfl
      apply (ih alike (AllAlike.mono grows.le others)).bind
      rintro last texts _ end_ otherEnd _ alike rfl
      exact agree_pure alike rfl

/-- Arguments are put in new cells, which belong together from then on. -/
theorem Eval.share_agrees (persistent : Persistent states)
    (alike : world.Alike states base matching other) {arguments others : List Command}
    (given : AllAlike matching arguments others) :
    Agree states base AllAlike matching (share arguments) (share others) world other := by
  have grows := matching.join_grows world.cells.size other.cells.size arguments.length
  have otherRun := run_share others other
  rw [← given.length_eq] at otherRun
  apply agree_of_run (run_share arguments world) otherRun grows
  · exact alike.open_ persistent arguments.length
  · exact .ok (alike_sharedFrom (AllAlike.mono grows.le given) fun position inside =>
      matching.join_pair world.cells.size other.cells.size inside)

/-- Code that is alike runs alike. -/
theorem Program.run_agrees (calls : call.Agrees states base) (lines : line.Agrees states base)
    {rel : Matching → α → α → Prop} {program second : Program σ α}
    (programs : Program.Alike states rel matching program second)
    (alike : world.Alike states base matching other) :
    Eval.Agree states base rel matching (program.run call line) (second.run call line) world
      other := by
  induction programs generalizing world other with
  | done related => exact Eval.agree_pure alike related
  | @call matching scopes otherScopes command callee arguments others kinds next otherNext changes
      callees given _ ih =>
    have called : Eval.Agree states base Reply.Alike matching
        (Eval.inScopes scopes (call command arguments kinds))
        (Eval.inScopes otherScopes (call callee others kinds)) world other :=
      Eval.Agree.inScopes changes alike fun alike => calls _ _ _ _ _ kinds _ _ alike callees given
    apply called.outcome.bind
    intro later outcome otherOutcome after otherAfter grows alike outcomes
    exact ih later outcome otherOutcome grows outcomes alike
  | @line matching text kinds next otherNext _ ih =>
    apply (lines matching text kinds world other alike).outcome.bind
    intro later outcome otherOutcome after otherAfter grows alike outcomes
    exact ih later outcome otherOutcome grows outcomes alike
  | look _ ih =>
    apply Eval.agree_get
    rw [← alike.bot]
    exact ih _ _ _ alike.tree alike.context alike
  | @spend matching tokens next otherNext _ ih =>
    apply Eval.agree_get
    rw [← alike.context.budget]
    cases world.context.budget.take? tokens with
    | none => exact ih false alike
    | some budget =>
      apply Eval.agree_after (Eval.run_modify _ world) (Eval.run_modify _ other) (.refl matching)
      exact ih true { alike with context := { alike.context with budget := rfl } }
  | @administrator matching next otherNext _ ih =>
    apply Eval.agree_get
    rw [← alike.context.administrator]
    apply Eval.agree_after (Eval.run_modify _ world) (Eval.run_modify _ other) (.refl matching)
    exact ih _ { alike with context := { alike.context with administrator := rfl } }
  | @draw matching low high next otherNext _ ih =>
    simp only [Program.run]
    apply Eval.agree_get
    rw [← alike.generator]
    generalize world.generator.draw low high = drawn
    obtain ⟨value, generator⟩ := drawn
    apply Eval.agree_after (Eval.run_set world _) (Eval.run_set other _) (.refl matching)
    exact ih value { alike with generator := rfl }
  | @addAlias matching name text next otherNext _ ih =>
    apply Eval.agree_after (Eval.run_update _ world) (Eval.run_update _ other) (.refl matching)
    rw [← alike.bot]
    have tree := Bot.only_addAlias alike.tree name text fun command => alike_ofLine
    exact ih _ { alike with bot := rfl, tree := tree }
  | @removeAlias matching name next otherNext _ ih =>
    apply Eval.agree_after (Eval.run_update _ world) (Eval.run_update _ other) (.refl matching)
    rw [← alike.bot]
    exact ih _ { alike with bot := rfl, tree := Bot.only_removeAlias alike.tree name }
  | @change matching update otherUpdate next otherNext updates _ ih =>
    apply Eval.agree_get
    apply Eval.agree_after (Eval.run_set world _) (Eval.run_set other _) (.refl matching)
    exact ih _ _ alike.application
      { alike with application := updates _ _ alike.application }

namespace Function

/-- Bindings that are alike, and arguments that are left and alike. -/
abbrev BoundAlike (matching : Matching) (bound other : Bindings × List Command) : Prop :=
  Bindings.Alike matching bound.1 other.1 ∧ AllAlike matching bound.2 other.2

theorem bindFormal_agrees (calls : call.Agrees states base)
    (alike : world.Alike states base matching other) (kinds : List Kind) (formal : Formal)
    {all others rest otherRest : List Command} (allAlike : AllAlike matching all others)
    (restAlike : AllAlike matching rest otherRest) :
    Eval.Agree states base (fun later bound other => bound.1.Alike later other.1 ∧
      AllAlike later bound.2 other.2) matching (bindFormal call kinds all formal rest)
        (bindFormal call kinds others formal otherRest) world other := by
  cases formal with
  | context => exact Eval.agree_pure alike ⟨.same fun _ => nofun, restAlike⟩
  | arguments => exact Eval.agree_pure alike ⟨.arguments allAlike, restAlike⟩
  | kinds => exact Eval.agree_pure alike ⟨.same fun _ => nofun, restAlike⟩
  | tail =>
    apply (Eval.texts_agree calls alike restAlike).bind
    rintro later texts _ after otherAfter _ alike rfl
    exact Eval.agree_pure alike ⟨.same fun _ => nofun, .nil⟩
  | plain type =>
    cases restAlike with
    | nil =>
      refine Eval.agree_pure alike ⟨.same fun given => ?_, .nil⟩
      cases type <;> nofun
    | cons one others =>
      apply (Eval.text_agrees calls alike one).bind
      rintro later text _ after otherAfter grows alike rfl
      have others := AllAlike.mono grows.le others
      cases read : Binding.coerce text type with
      | error error => exact Eval.agree_throw error alike
      | ok binding =>
        exact Eval.agree_pure alike ⟨.same (Binding.coerce_ne_arguments read), others⟩

theorem bindFormals_agree (calls : call.Agrees states base)
    (alike : world.Alike states base matching other) (kinds : List Kind) (formals : List Formal)
    {all others rest otherRest : List Command} (allAlike : AllAlike matching all others)
    (restAlike : AllAlike matching rest otherRest) :
    Eval.Agree states base BoundAlike matching (bindFormals call kinds all formals rest)
      (bindFormals call kinds others formals otherRest) world other := by
  induction formals generalizing matching world other rest otherRest with
  | nil => exact Eval.agree_pure alike ⟨.nil, restAlike⟩
  | cons formal formals ih =>
    apply (bindFormal_agrees calls alike kinds formal allAlike restAlike).bind
    rintro later ⟨binding, rest⟩ ⟨otherBinding, otherRest⟩ after otherAfter grows alike ⟨one, left⟩
    apply (ih alike (AllAlike.mono grows.le allAlike) left).bind
    rintro last ⟨bindings, rest⟩ ⟨otherBindings, otherRest⟩ end_ otherEnd more alike ⟨bound, left⟩
    exact Eval.agree_pure alike ⟨.cons (one.mono more.le) bound, left⟩

end Function

/-- Values that are alike are delivered as replies that are alike. -/
theorem Value.Alike.deliver {value second : Value} (values : value.Alike matching second)
    (f : Function) (kinds : List Kind) :
    Outcome.Alike matching (value.deliver f kinds) (second.deliver f kinds) := by
  cases values with
  | @reply reply otherReply replies =>
    simp only [Value.deliver, Reply.require, replies.fits_eq, replies.kind_eq]
    split
    · exact .ok replies
    · exact .error _
  | same plain =>
    cases delivered : value.deliver f kinds with
    | error error => exact .error error
    | ok reply =>
      refine .ok (Reply.alike_of_kind_ne fun isCommand => ?_)
      cases reply with
      | command command => exact plain _ (Evaluate.eq_of_deliver_command delivered)
      | _ => cases isCommand

namespace Evaluate

theorem invoke_agrees (blind : host.Blind states base) (calls : call.Agrees states base)
    (lines : line.Agrees states base) (alike : world.Alike states base matching other) (f : Function)
    {bindings others : Bindings} (bound : Bindings.Alike matching bindings others) :
    Eval.Agree states base Value.Alike matching (invoke host call line f bindings)
      (invoke host call line f others) world other := by
  have code := blind.codeOf alike.own bound f.code
  apply (Program.run_agrees calls lines code alike).bind
  intro later result otherResult after otherAfter _ alike ended
  cases ended with
  | ok values => exact Eval.agree_pure alike values
  | error failure => exact Eval.agree_throw failure.toError alike

/-- What a call of a function does when its parameters are bound. -/
def callBound (host : Host σ) (call : Caller σ) (line : LineCaller σ) (f : Function)
    (arguments : List Command) (kinds : List Kind) (bound : Bindings × List Command) :
    Eval σ Reply :=
  let taken := arguments.length - bound.2.length
  if taken < f.required then
    if kinds.contains .command then return .command (f.curry arguments)
    else throw (.arity ("not enough arguments for function " ++ f.name))
  else
    let takesMore := f.hasTail || taken < f.positionalCount
    match kinds.filter fun kind => takesMore || kind != .command with
    | [] => throw (f.noMatchingKind kinds)
    | .command :: _ => return .command (f.curry arguments)
    | _ => do Eval.ofExcept ((← invoke host call line f bound.1).deliver f kinds)

theorem callFunction_eq (f : Function) (arguments : List Command) (kinds : List Kind) :
    callFunction host call line f arguments kinds =
      Eval.share arguments >>= fun shared =>
        Function.bindFormals call kinds shared f.formals shared >>=
          callBound host call line f shared kinds := rfl

theorem callBound_agrees (blind : host.Blind states base) (calls : call.Agrees states base)
    (lines : line.Agrees states base) (alike : world.Alike states base matching other) (f : Function)
    {arguments others : List Command} (given : AllAlike matching arguments others)
    (kinds : List Kind) {bound otherBound : Bindings × List Command}
    (bindings : Function.BoundAlike matching bound otherBound) :
    Eval.Agree states base Reply.Alike matching (callBound host call line f arguments kinds bound)
      (callBound host call line f others kinds otherBound) world other := by
  have curried : Eval.Agree states base Reply.Alike matching
      (pure (.command (f.curry arguments))) (pure (.command (f.curry others))) world other :=
    Eval.agree_pure alike (.command (alike_curry f given))
  unfold callBound
  rw [given.length_eq, bindings.2.length_eq]
  dsimp only
  split
  · split
    · exact curried
    · exact Eval.agree_throw _ alike
  · split
    · exact Eval.agree_throw _ alike
    · exact curried
    · apply (invoke_agrees blind calls lines alike f bindings.1).bind
      intro later value otherValue after otherAfter _ alike values
      exact Eval.agree_ofExcept alike (values.deliver f kinds)

theorem callFunction_agrees (persistent : Persistent states) (blind : host.Blind states base)
    (calls : call.Agrees states base) (lines : line.Agrees states base)
    (alike : world.Alike states base matching other) (f : Function)
    {arguments others : List Command} (given : AllAlike matching arguments others)
    (kinds : List Kind) :
    Eval.Agree states base Reply.Alike matching (callFunction host call line f arguments kinds)
      (callFunction host call line f others kinds) world other := by
  rw [callFunction_eq, callFunction_eq]
  apply (Eval.share_agrees persistent alike given).bind
  intro later shared otherShared opened otherOpened _ alike same
  apply (Function.bindFormals_agree calls alike kinds f.formals same same).bind
  intro last bound otherBound after otherAfter grows alike bindings
  exact callBound_agrees blind calls lines alike f (AllAlike.mono grows.le same) kinds bindings

theorem callFirst_agrees (calls : call.Agrees states base)
    (alike : world.Alike states base matching other) {arguments others : List Command}
    (given : AllAlike matching arguments others) (kinds : List Kind) (functions : List Function) :
    Eval.Agree states base Reply.Alike matching (callFirst call arguments kinds functions)
      (callFirst call others kinds functions) world other := by
  induction functions generalizing matching world other with
  | nil => exact Eval.agree_throw _ alike
  | cons f rest ih =>
    have attempts {matching : Matching} {world other : World σ} (change : Nat → Nat)
        (alike : world.Alike states base matching other) :
        ({ world with attempts := change world.attempts } : World σ).Alike states base matching
          { other with attempts := change other.attempts } :=
      { alike with attempts := congrArg change alike.attempts }
    apply Eval.agree_after (Eval.run_modify _ world) (Eval.run_modify _ other) (.refl matching)
    apply (calls _ _ _ _ _ kinds _ _ (attempts (· + 1) alike) (.function f) given).outcome.bind
    intro later outcome otherOutcome after otherAfter grows alike outcomes
    have ended := attempts (· - 1) alike
    apply Eval.agree_after (Eval.run_modify _ after) (Eval.run_modify _ otherAfter) (.refl later)
    cases outcomes with
    | ok replies => exact Eval.agree_pure ended replies
    | error error =>
      have next := ih ended (AllAlike.mono grows.le given)
      cases error with
      | budgetExhausted => exact Eval.agree_throw _ ended
      | _ => exact next

theorem payForLine_agrees (alike : world.Alike states base matching other) :
    Eval.Agree states base (fun _ => Eq) matching payForLine payForLine world other := by
  unfold payForLine
  apply Eval.agree_get
  rw [← alike.context.budget]
  cases world.context.budget.take? 1 with
  | none => exact Eval.agree_throw _ alike
  | some budget =>
    refine Eval.agree_of_run (Eval.run_modify _ world) (Eval.run_modify _ other) (.refl matching) ?_
      (.ok rfl)
    exact { alike with context := { alike.context with budget := rfl } }

/-- Stored lines find frames that are alike. -/
theorem callStored_agrees (persistent : Persistent states) (calls : call.Agrees states base)
    (alike : world.Alike states base matching other) (text : String) {body otherBody : Command}
    (bodies : body.Alike matching otherBody) {arguments others : List Command}
    (given : AllAlike matching arguments others) (kinds : List Kind) :
    Eval.Agree states base Reply.Alike matching (callStored call text body arguments kinds)
      (callStored call text otherBody others kinds) world other := by
  apply (payForLine_agrees alike).bind
  rintro later _ _ paid otherPaid grows alike -
  apply (Eval.share_agrees persistent alike (AllAlike.mono grows.le given)).bind
  intro last frame otherFrame opened otherOpened more alike frames
  apply Eval.agree_after (Eval.run_modify _ _) (Eval.run_modify _ _) (.refl _)
  apply Eval.Agree.inScopes (.cons (.inner frames) .nil) (alike.entered text)
  intro inside otherInside alike
  exact calls _ _ _ _ _ kinds _ _ alike (bodies.mono (grows.trans more).le) .nil

/-- The answer to a request says of what kind the kept reply is, and what the command is. -/
theorem replay_alike {inner otherInner : Command} (titles : inner.SameTitle otherInner)
    {outcome otherOutcome : Outcome} (outcomes : Outcome.Alike matching outcome otherOutcome)
    (groups : Groups) (kinds : List Kind) :
    Outcome.Alike matching (replay (inner.describe groups) outcome kinds)
      (replay (otherInner.describe groups) otherOutcome kinds) := by
  cases outcomes with
  | error error => exact .error error
  | ok replies =>
    simp only [replay, replies.fits_eq, replies.kind_eq, (titles groups).1]
    split
    · exact .ok replies
    · exact .error _

theorem callLazy_agrees (calls : call.Agrees states base)
    (alike : world.Alike states base matching other) {cell otherCell : Nat}
    {inner otherInner : Command} (pair : matching.live cell otherCell)
    (inners : inner.Alike matching otherInner) {arguments others : List Command}
    (given : AllAlike matching arguments others) (kinds : List Kind) :
    Eval.Agree states base Reply.Alike matching (callLazy call cell inner arguments kinds)
      (callLazy call otherCell otherInner others kinds) world other := by
  have kept := alike.kept pair
  unfold Eval.Agree
  rw [run_callLazy, run_callLazy]
  cases settled : world.kept? cell with
  | some outcome =>
    cases otherSettled : other.kept? otherCell with
    | none =>
      rw [settled, otherSettled] at kept
      cases kept
    | some otherOutcome =>
      rw [settled, otherSettled] at kept
      cases kept with
      | some outcomes =>
        dsimp only
        rw [← alike.bot]
        exact .some ⟨matching, .refl matching, alike,
          replay_alike inners.sameTitle outcomes world.bot.groups kinds⟩
  | none =>
    cases otherSettled : other.kept? otherCell with
    | some otherOutcome =>
      rw [settled, otherSettled] at kept
      cases kept
    | none =>
      -- A cell that keeps nothing is not known, and will not be when the command in it has run.
      have otherUnknown : ∀ first, ¬ matching.known first otherCell := by
        intro first known
        obtain ⟨_, _, kept⟩ := alike.known known
        rw [otherSettled] at kept
        cases kept
      apply Eval.Meet.map (calls _ _ _ _ _ kinds _ _ (alike.evaluated pair) inners given)
      intro later outcome otherOutcome after otherAfter grows alike outcomes
      have titles := (inners.mono grows.le).sameTitle
      dsimp only
      rw [← alike.bot]
      refine ⟨alike.keep (grows.live pair) ?_ outcomes,
        replay_alike titles outcomes after.bot.groups kinds⟩
      rwa [grows.known]

/-- Requests of commands in cells that keep the same text are answered with this text. -/
theorem callLazy_agrees_of_known (alike : world.Alike states base matching other)
    {cell otherCell : Nat} {inner otherInner : Command} (pair : matching.known cell otherCell)
    (titles : inner.SameTitle otherInner) (arguments others : List Command) (kinds : List Kind) :
    Eval.Agree states base Reply.Alike matching (callLazy call cell inner arguments kinds)
      (callLazy call otherCell otherInner others kinds) world other := by
  obtain ⟨text, kept, otherKept⟩ := alike.known pair
  unfold Eval.Agree
  rw [run_callLazy, run_callLazy, kept, otherKept]
  dsimp only
  rw [← alike.bot]
  exact .some ⟨matching, .refl matching, alike,
    replay_alike titles (.ok (.text text)) world.bot.groups kinds⟩

theorem dispatch_agrees (calls : call.Agrees states base)
    (alike : world.Alike states base matching other) (id : Nat) (name : String)
    {arguments others : List Command} (given : AllAlike matching arguments others)
    (kinds : List Kind) :
    Eval.Agree states base Reply.Alike matching (dispatch call id name arguments kinds)
      (dispatch call id name others kinds) world other := by
  apply Eval.agree_get
  rw [← alike.bot]
  cases found : (world.bot.groups.children id).resolve name with
  | error error => exact Eval.agree_throw error alike
  | ok child =>
    obtain ⟨full, node⟩ := child
    have same := Node.alike_command ((alike.tree.children id).of_resolve found)
    exact calls _ _ _ _ _ kinds _ _ alike same given

theorem callGroupAlone_agrees (calls : call.Agrees states base)
    (alike : world.Alike states base matching other) (id : Nat) (kinds : List Kind) :
    Eval.Agree states base Reply.Alike matching (callGroupAlone call id kinds)
      (callGroupAlone call id kinds) world other := by
  unfold callGroupAlone
  split
  · exact Eval.agree_pure alike (.command (.group id))
  · apply Eval.agree_get
    rw [← alike.bot]
    cases found : (world.bot.groups.children id).get? "" with
    | none => exact Eval.agree_throw _ alike
    | some node =>
      have same := Node.alike_command ((alike.tree.children id).of_get? found).2
      exact calls _ _ _ _ _ kinds _ _ alike same .nil

theorem callGroup_agrees (calls : call.Agrees states base)
    (alike : world.Alike states base matching other) (id : Nat) {arguments others : List Command}
    (given : AllAlike matching arguments others) (kinds : List Kind) :
    Eval.Agree states base Reply.Alike matching (callGroup call id arguments kinds)
      (callGroup call id others kinds) world other := by
  cases given with
  | nil => exact callGroupAlone_agrees calls alike id kinds
  | cons first rest =>
    apply (Eval.text_agrees calls alike first).bind
    rintro later name _ after otherAfter grows alike rfl
    exact dispatch_agrees calls alike id name (AllAlike.mono grows.le rest) kinds

theorem callRoot_agrees (calls : call.Agrees states base)
    (alike : world.Alike states base matching other) {arguments others : List Command}
    (given : AllAlike matching arguments others) (kinds : List Kind) :
    Eval.Agree states base Reply.Alike matching (callRoot call arguments kinds)
      (callRoot call others kinds) world other := by
  cases given with
  | nil => exact callGroupAlone_agrees calls alike Groups.topId kinds
  | @cons first otherFirst _ _ one rest =>
    apply (calls _ _ _ _ _ Kind.commandOrText _ _ alike one .nil).bind
    intro later reply otherReply after otherAfter grows alike replies
    replace rest := AllAlike.mono grows.le rest
    have refused {reply otherReply : Reply} (replies : reply.Alike later otherReply) :
        Eval.Agree states base Reply.Alike later
          (do throw (Reply.mismatch "got" (← Eval.describe first) reply.kind Kind.commandOrText) :
            Eval σ Reply)
          (do throw (Reply.mismatch "got" (← Eval.describe otherFirst) otherReply.kind
            Kind.commandOrText)) after otherAfter := by
      apply Eval.agree_get
      rw [← alike.bot, replies.kind_eq, ((one.mono grows.le).sameTitle after.bot.groups).1]
      exact Eval.agree_throw _ alike
    cases replies with
    | command same => exact calls _ _ _ _ _ kinds _ _ alike same rest
    | text name => exact dispatch_agrees calls alike Groups.topId name rest kinds
    | nothing => exact refused .nothing
    | items items => exact refused (.items items)
    | extension kind payload => exact refused (.extension kind payload)

theorem callForeign_agrees (blind : host.Blind states base) (calls : call.Agrees states base)
    (lines : line.Agrees states base) (alike : world.Alike states base matching other)
    (label : String) (index : Nat) {arguments others : List Command}
    (given : AllAlike matching arguments others) (kinds : List Kind) :
    Eval.Agree states base Reply.Alike matching (callForeign host call line label index arguments kinds)
      (callForeign host call line label index others kinds) world other := by
  unfold callForeign
  split
  · rename_i code found
    have programs := blind.foreign index code matching _ _ kinds found alike.own given
    apply (Program.run_agrees calls lines programs alike).bind
    intro later outcome otherOutcome after otherAfter _ alike outcomes
    exact Eval.agree_ofExcept alike outcomes
  · exact Eval.agree_throw _ alike

/-- A step agrees if the calls and the texts that it runs do. -/
theorem step_agrees (persistent : Persistent states) (blind : host.Blind states base)
    (calls : call.Agrees states base) (lines : line.Agrees states base) :
    (step host call line).Agrees states base := by
  intro matching command other arguments others kinds world otherWorld alike callees given
  cases callees with
  | literal text =>
    refine Eval.agree_ofExcept alike ?_
    unfold callLiteral
    split
    · exact .ok (.text text)
    · exact .error _
  | function f => exact callFunction_agrees persistent blind calls lines alike f given kinds
  | documented command =>
    exact callFunction_agrees persistent blind calls lines alike command.function given kinds
  | overloads set =>
    apply (Eval.share_agrees persistent alike given).bind
    intro later shared otherShared opened otherOpened _ alike same
    exact callFirst_agrees calls alike same kinds set.functions
  | stored text bodies => exact callStored_agrees persistent calls alike text bodies given kinds
  | live pair inners => exact callLazy_agrees calls alike pair inners given kinds
  | known pair titles => exact callLazy_agrees_of_known alike pair titles arguments others kinds
  | applied callees => exact calls _ _ _ _ _ kinds _ _ alike callees given
  | bind argument rest =>
    obtain ⟨callees, bound⟩ := alike_applied_iff.1 (.bind argument rest)
    exact calls _ _ _ _ _ kinds _ _ alike callees (List.rel_append bound given)
  | group id => exact callGroup_agrees calls alike id given kinds
  | root => exact callRoot_agrees calls alike given kinds
  | orphan => exact Eval.agree_throw _ alike
  | foreign label index => exact callForeign_agrees blind calls lines alike label index given kinds

theorem callLine_agrees (calls : call.Agrees states base) : (callLine call).Agrees states base := by
  intro matching text kinds world other alike
  unfold callLine
  cases meant : (Expr.read text).toCommand with
  | error error => exact Eval.agree_throw error alike
  | ok command => exact calls _ _ _ _ _ kinds _ _ alike (Expr.alike_toCommand meant) .nil

/-- Calls of commands that are alike agree at every depth. -/
theorem run_agrees (persistent : Persistent states) (blind : host.Blind states base) (depth : Nat) :
    (run host depth).Agrees states base := by
  induction depth with
  | zero => exact fun _ _ _ _ _ _ _ _ _ _ _ => .none
  | succ depth ih =>
    intro matching command other arguments others kinds world otherWorld alike callees given
    exact (step_agrees persistent blind ih (callLine_agrees ih) _ _ _ _ _ kinds _ _ alike callees
      given).recorded

end Evaluate

end Step

end ChatLine
