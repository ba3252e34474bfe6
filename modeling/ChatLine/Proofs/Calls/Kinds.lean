import ChatLine.Bot.Calls
import ChatLine.Proofs.Calls.Ensures

set_option autoImplicit false

namespace ChatLine

variable {σ α : Type}

/-- However a program is answered, as long as its calls are answered with kinds they asked for, what
it ends with satisfies `post`. -/
def Program.EndsWith (post : α → Prop) : Program σ α → Prop
  | done value => post value
  | call _ _ _ kinds next =>
    ∀ outcome : Outcome, (∀ reply, outcome = .ok reply → reply.kind ∈ kinds) →
      (next outcome).EndsWith post
  | line _ kinds next =>
    ∀ outcome : Outcome, (∀ reply, outcome = .ok reply → reply.kind ∈ kinds) →
      (next outcome).EndsWith post
  | look next => ∀ bot context, (next bot context).EndsWith post
  | spend _ next => ∀ enough, (next enough).EndsWith post
  | administrator next => ∀ answer, (next answer).EndsWith post
  | draw _ _ next => ∀ value, (next value).EndsWith post
  | addAlias _ _ next => ∀ result, (next result).EndsWith post
  | removeAlias _ next => ∀ result, (next result).EndsWith post
  | change _ next => ∀ state, (next state).EndsWith post

/-- The commands that the application brings along, if any, answer with a kind they were asked for.
-/
def Host.HonoursKinds (host : Host σ) : Prop :=
  ∀ index code, host.foreign index = some code → ∀ arguments kinds,
    (code arguments kinds).EndsWith fun outcome => ∀ reply, outcome = .ok reply → reply.kind ∈ kinds

/-- A host without commands of its own has none that could break the rule. -/
theorem Host.honoursKinds_of_foreign {host : Host σ}
    (absent : ∀ index, host.foreign index = Option.none) : host.HonoursKinds := by
  intro index code found
  rw [absent index] at found
  cases found

namespace Evaluate

def KeepsKinds (call : Caller σ) : Prop :=
  ∀ command arguments kinds, (call command arguments kinds).Returns fun reply => reply.kind ∈ kinds

/-- Every reply to a command line is of a kind it was asked for. -/
def KeepsLineKinds (line : LineCaller σ) : Prop :=
  ∀ text kinds, (line text kinds).Returns fun reply => reply.kind ∈ kinds

theorem kind_of_answer? {value : Value} {kind : Kind} {reply : Reply}
    (answered : value.answer? kind = some reply) : reply.kind = kind := by
  cases kind with
  | empty => cases answered; rfl
  | string =>
    obtain ⟨text, _, rfl⟩ := Option.map_eq_some_iff.1 answered
    rfl
  | enumerable =>
    cases value <;> cases answered
    rfl
  | command => cases answered
  | extension name => cases answered

theorem kind_mem_of_require {reply delivered : Reply} {kinds : List Kind} {what : String}
    (required : reply.require kinds what = .ok delivered) : delivered.kind ∈ kinds := by
  unfold Reply.require at required
  split at required
  · rename_i fits
    cases required
    exact (reply.fits_iff kinds).1 fits
  · cases required

theorem eq_of_deliver_command {value : Value} {f : Function} {kinds : List Kind}
    {command : Command} (delivered : value.deliver f kinds = .ok (.command command)) :
    value = .reply (.command command) := by
  unfold Value.deliver at delivered
  split at delivered
  · unfold Reply.require at delivered
    split at delivered
    · cases delivered
      rfl
    · cases delivered
  · split at delivered
    · rename_i answer found
      cases delivered
      obtain ⟨kind, _, answered⟩ := List.exists_of_findSome?_eq_some found
      have kindsAgree := kind_of_answer? answered
      subst kindsAgree
      cases answered
    · split at delivered
      · cases delivered
      · cases delivered

theorem kind_mem_of_deliver {value : Value} {f : Function} {kinds : List Kind} {reply : Reply}
    (delivered : value.deliver f kinds = .ok reply) : reply.kind ∈ kinds := by
  unfold Value.deliver at delivered
  split at delivered
  · exact kind_mem_of_require delivered
  · split at delivered
    · rename_i answer found
      cases delivered
      obtain ⟨kind, wanted, answered⟩ := List.exists_of_findSome?_eq_some found
      rw [kind_of_answer? answered]
      exact wanted
    · split at delivered
      · rename_i wantsText
        cases delivered
        simpa [Reply.kind] using wantsText
      · cases delivered

theorem run_endsWith {call : Caller σ} {line : LineCaller σ} (keeps : KeepsKinds call)
    (keepsLine : KeepsLineKinds line) {post : α → Prop} (program : Program σ α)
    (ends : program.EndsWith post) : (program.run call line).Returns post := by
  induction program with
  | done value => exact Eval.returns_pure ends
  | call scopes command arguments kinds next ih =>
    have answered := (Eval.Returns.inScopes (keeps command arguments kinds) scopes).outcome
    exact Eval.Returns.bind answered fun outcome fits => ih outcome (ends outcome fits)
  | line text kinds next ih =>
    exact Eval.Returns.bind (keepsLine text kinds).outcome fun outcome fits =>
      ih outcome (ends outcome fits)
  | look next ih => exact Eval.returns_bind fun world => ih _ _ (ends _ _)
  | spend tokens next ih =>
    apply Eval.returns_bind
    intro world
    split
    · exact ih _ (ends _)
    · exact Eval.returns_bind fun _ => ih _ (ends _)
  | administrator next ih =>
    exact Eval.returns_bind fun world => Eval.returns_bind fun _ => ih _ (ends _)
  | draw low high next ih =>
    exact Eval.returns_bind fun world => Eval.returns_bind fun _ => ih _ (ends _)
  | addAlias name text next ih => exact Eval.returns_bind fun result => ih _ (ends _)
  | removeAlias name next ih => exact Eval.returns_bind fun result => ih _ (ends _)
  | change update next ih =>
    exact Eval.returns_bind fun world => Eval.returns_bind fun _ => ih _ (ends _)

section Step

variable {host : Host σ} {call : Caller σ} {line : LineCaller σ}

theorem callFunction_keeps (f : Function) (arguments : List Command) (kinds : List Kind) :
    (callFunction host call line f arguments kinds).Returns fun reply => reply.kind ∈ kinds := by
  refine Eval.returns_bind fun shared => Eval.returns_bind ?_
  intro bound
  obtain ⟨bindings, rest⟩ := bound
  dsimp only
  split
  · split
    · rename_i wantsCommand
      exact Eval.returns_pure (by simpa [Reply.kind] using wantsCommand)
    · exact Eval.returns_throw
  · split
    · exact Eval.returns_throw
    · rename_i others first
      have wanted : Kind.command ∈ kinds :=
        (List.mem_filter.1 (first ▸ List.mem_cons_self : Kind.command ∈ List.filter _ kinds)).1
      exact Eval.returns_pure wanted
    · exact Eval.returns_bind fun value => Eval.returns_ofExcept fun reply => kind_mem_of_deliver

theorem callFirst_keeps (keeps : KeepsKinds call) (arguments : List Command) (kinds : List Kind)
    (functions : List Function) :
    (callFirst call arguments kinds functions).Returns fun reply => reply.kind ∈ kinds := by
  induction functions with
  | nil => exact Eval.returns_throw
  | cons f rest ih =>
    apply Eval.returns_bind
    intro _
    refine Eval.Returns.bind (keeps (.function f) arguments kinds).outcome ?_
    intro outcome fits
    apply Eval.returns_bind
    intro _
    split
    · exact Eval.returns_pure (fits _ rfl)
    · exact Eval.returns_throw
    · exact ih

theorem callLazy_keeps (cell : Nat) (inner : Command) (arguments : List Command)
    (kinds : List Kind) :
    (callLazy call cell inner arguments kinds).Returns fun reply => reply.kind ∈ kinds := by
  refine Eval.returns_bind fun outcome => Eval.returns_bind ?_
  intro reply
  split
  · rename_i fits
    exact Eval.returns_pure ((reply.fits_iff kinds).1 fits)
  · exact Eval.returns_bind fun _ => Eval.returns_throw

theorem dispatch_keeps (keeps : KeepsKinds call) (id : Nat) (name : String)
    (arguments : List Command) (kinds : List Kind) :
    (dispatch call id name arguments kinds).Returns fun reply => reply.kind ∈ kinds :=
  Eval.returns_bind fun _ => Eval.returns_bind fun _ => keeps _ arguments kinds

theorem callGroupAlone_keeps (keeps : KeepsKinds call) (id : Nat) (kinds : List Kind) :
    (callGroupAlone call id kinds).Returns fun reply => reply.kind ∈ kinds := by
  unfold callGroupAlone
  split
  · rename_i wantsCommand
    exact Eval.returns_pure (by simpa [Reply.kind] using wantsCommand)
  · apply Eval.returns_bind
    intro world
    split
    · exact keeps _ [] kinds
    · exact Eval.returns_throw

theorem callRoot_keeps (keeps : KeepsKinds call) (arguments : List Command) (kinds : List Kind) :
    (callRoot call arguments kinds).Returns fun reply => reply.kind ∈ kinds := by
  cases arguments with
  | nil => exact callGroupAlone_keeps keeps Groups.topId kinds
  | cons first rest =>
    apply Eval.returns_bind
    intro reply
    split
    · exact keeps _ rest kinds
    · exact dispatch_keeps keeps Groups.topId _ rest kinds
    · exact Eval.returns_bind fun _ => Eval.returns_throw

theorem callForeign_keeps (honest : host.HonoursKinds) (keeps : KeepsKinds call)
    (keepsLine : KeepsLineKinds line) (label : String) (index : Nat) (arguments : List Command)
    (kinds : List Kind) :
    (callForeign host call line label index arguments kinds).Returns
      fun reply => reply.kind ∈ kinds := by
  unfold callForeign
  split
  · rename_i code found
    have ends := honest index code found arguments kinds
    exact Eval.Returns.bind (run_endsWith keeps keepsLine _ ends) fun outcome fits =>
      Eval.returns_ofExcept fits
  · exact Eval.returns_throw

/-- One step keeps to the kinds if the calls that it makes do. -/
theorem step_keeps (honest : host.HonoursKinds) (keeps : KeepsKinds call)
    (keepsLine : KeepsLineKinds line) : KeepsKinds (step host call line) := by
  intro command arguments kinds
  cases command with
  | literal text =>
    apply Eval.returns_ofExcept
    intro reply answered
    unfold callLiteral at answered
    split at answered
    · rename_i wantsText
      cases answered
      simpa [Reply.kind] using wantsText
    · cases answered
  | function f => exact callFunction_keeps f arguments kinds
  | documented command => exact callFunction_keeps command.function arguments kinds
  | overloads set =>
    exact Eval.returns_bind fun shared => callFirst_keeps keeps shared kinds set.functions
  | stored text body =>
    refine Eval.returns_bind fun _ => Eval.returns_bind fun frame => Eval.returns_bind ?_
    intro _
    exact (keeps body [] kinds).inScope _
  | lazy cell inner => exact callLazy_keeps cell inner arguments kinds
  | applied callee bound => exact keeps callee (bound ++ arguments) kinds
  | group id =>
    cases arguments with
    | nil => exact callGroupAlone_keeps keeps id kinds
    | cons first rest => exact Eval.returns_bind fun name => dispatch_keeps keeps id name rest kinds
  | root => exact callRoot_keeps keeps arguments kinds
  | orphan => exact Eval.returns_throw
  | foreign label index =>
    exact callForeign_keeps honest keeps keepsLine label index arguments kinds

end Step

theorem callLine_keeps {call : Caller σ} (keeps : KeepsKinds call) :
    KeepsLineKinds (callLine call) :=
  fun _ kinds => Eval.returns_bind fun command => keeps command [] kinds

/-- At every depth, replies are of the kinds that were asked for. -/
theorem run_keeps {host : Host σ} (honest : host.HonoursKinds) (depth : Nat) :
    KeepsKinds (run host depth) := by
  induction depth with
  | zero =>
    intro command arguments kinds world result after runs
    cases runs
  | succ depth ih =>
    intro command arguments kinds
    exact (step_keeps honest ih (callLine_keeps ih) command arguments kinds).recorded

end Evaluate

/-- The text of a command, with something of one's own to do about a reply that is no text. -/
def Eval.textOr (otherwise : Reply → Eval σ String) (call : Caller σ) (command : Command) :
    Eval σ String := do
  match ← call command [] [.string] with
  | .text content => return content
  | other => otherwise other

/-- The text of a command that code calls, with something of one's own to do about a reply that is
no text. -/
def Native.textOr (otherwise : Reply → Native σ String) (command : Command) : Native σ String := do
  match ← Native.call command [] [.string] with
  | .text content => return content
  | other => otherwise other

/-- A call of the entry of the tree, with something of one's own to do about a first argument that
is neither a command nor a text. -/
def Evaluate.callRootOr (otherwise : Reply → Eval σ Reply) (call : Caller σ)
    (arguments : List Command) (kinds : List Kind) : Eval σ Reply := do
  match arguments with
  | [] => callGroupAlone call Groups.topId kinds
  | first :: rest =>
    match ← call first [] Kind.commandOrText with
    | .command command => call command rest kinds
    | .text name => dispatch call Groups.topId name rest kinds
    | other => otherwise other

/-- The answer to a chat line, with something of one's own to do about a reply that is neither text
nor nothing. -/
def World.answerOr (otherwise : Reply → Eval σ (Option String)) (host : Host σ) (line : String) :
    Eval σ (Option String) := do
  match ← callLine host line Kind.textOrNothing with
  | .text text => return some text
  | .nothing => return none
  | other => otherwise other

namespace Evaluate

variable {call : Caller σ}

theorem text_eq_textOr (keeps : KeepsKinds call) (command : Command)
    (otherwise : Reply → Eval σ String) :
    Eval.text call command = Eval.textOr otherwise call command := by
  apply (keeps command [] [.string]).bind_congr
  intro reply fits
  cases reply with
  | text content => rfl
  | _ => simp [Reply.kind] at fits

theorem run_text_eq_textOr (keeps : KeepsKinds call) (line : LineCaller σ) (command : Command)
    (otherwise : Reply → Native σ String) :
    (Native.text command).run.run call line =
      (Native.textOr otherwise command).run.run call line := by
  apply (keeps command [] [.string]).outcome.bind_congr
  intro outcome fits
  cases outcome with
  | error error => rfl
  | ok reply =>
    have wanted := fits reply rfl
    cases reply with
    | text content => rfl
    | _ => simp [Reply.kind] at wanted

theorem callRoot_eq_callRootOr (keeps : KeepsKinds call) (arguments : List Command)
    (kinds : List Kind) (otherwise : Reply → Eval σ Reply) :
    callRoot call arguments kinds = callRootOr otherwise call arguments kinds := by
  cases arguments with
  | nil => rfl
  | cons first rest =>
    apply (keeps first [] Kind.commandOrText).bind_congr
    intro reply fits
    cases reply with
    | command command => rfl
    | text name => rfl
    | _ => simp [Reply.kind, Kind.commandOrText] at fits

theorem answer_eq_answerOr {host : Host σ} (keeps : KeepsKinds (World.call host)) (line : String)
    (otherwise : Reply → Eval σ (Option String)) :
    World.answer host line = World.answerOr otherwise host line := by
  have answered : (World.callLine host line Kind.textOrNothing).Returns
      fun reply => reply.kind ∈ Kind.textOrNothing :=
    Eval.returns_bind fun command => keeps command [] Kind.textOrNothing
  apply answered.bind_congr
  intro reply fits
  cases reply with
  | text text => rfl
  | nothing => rfl
  | _ => simp [Reply.kind, Kind.textOrNothing] at fits

/-- A call that is answered is answered with a kind that it asked for. Hence the complaints about a
reply of another kind are dead: where a command is called for its text, by the tree or by code,
where the entry of the tree calls its first argument, and where a chat line is answered, it makes no
difference what is done about such a reply. -/
theorem replies_are_of_wanted_kinds (host : Host σ) (honest : host.HonoursKinds) (depth : Nat) :
    (∀ command arguments kinds world reply after,
      (run host depth command arguments kinds).run.run world = some (.ok reply, after) →
        reply.kind ∈ kinds) ∧
    (∀ command otherwise,
      Eval.text (run host depth) command = Eval.textOr otherwise (run host depth) command) ∧
    (∀ line command otherwise,
      (Native.text command).run.run (run host depth) line =
        (Native.textOr otherwise command).run.run (run host depth) line) ∧
    (∀ arguments kinds otherwise,
      callRoot (run host depth) arguments kinds =
        callRootOr otherwise (run host depth) arguments kinds) ∧
    ∀ line otherwise, World.answer host line = World.answerOr otherwise host line := by
  have keeps := run_keeps honest depth
  refine ⟨?_, ?_, ?_, ?_, ?_⟩
  · intro command arguments kinds world reply after runs
    exact keeps command arguments kinds world _ after runs reply rfl
  · exact fun command otherwise => text_eq_textOr keeps command otherwise
  · exact fun line command otherwise => run_text_eq_textOr keeps line command otherwise
  · exact fun arguments kinds otherwise => callRoot_eq_callRootOr keeps arguments kinds otherwise
  · exact fun line otherwise =>
      answer_eq_answerOr (run_keeps honest World.depthLimit) line otherwise

/-- A text that runs at most once, called for a command and then for a text: only the text is
answered. -/
theorem replies_are_of_wanted_kinds_of_text :
    Host.none.HonoursKinds ∧
    ∃ after,
      (run Host.none 2 (.lazy 0 (.literal "hi")) [] Kind.commandOrText).run.run
          { World.start (.empty .bare) (.fresh .unlimited none) () 0 with cells := #[none] }
        = some (.ok (.text "hi"), after) ∧
      (Reply.text "hi").kind ∈ Kind.commandOrText := by
  have honest : Host.none.HonoursKinds := Host.honoursKinds_of_foreign fun _ => rfl
  have runs := (replies_are_of_wanted_kinds Host.none honest 2).1 (.lazy 0 (.literal "hi")) []
    Kind.commandOrText
    { World.start (.empty .bare) (.fresh .unlimited none) () 0 with cells := #[none] }
  exact ⟨honest, _, rfl, runs _ _ rfl⟩

end Evaluate

end ChatLine
