import ChatLine.World

set_option autoImplicit false

namespace ChatLine

variable {σ α β : Type}

def learned : Outcome → List Command
  | .ok (.command command) => [command]
  | _ => []

/-- The calls that code may make: those of a function with `arguments`, which runs inside `frames`,
may hand its arguments on or may not, and was answered the commands that are `known`. -/
inductive MayCall (arguments : List Command) (frames : Frames) (hands : Bool)
    (known : List Command) :
    List Scope → Command → List Command → Prop
  | own {command : Command} (among : command ∈ arguments) :
    MayCall arguments frames hands known [] command []
  | outer {command : Command} {frame : Frame} {rest : Frames} (running : frames = frame :: rest)
      (among : command ∈ frame) : MayCall arguments frames hands known [.outer] command []
  | handOn {command : Command} {given : List Command} (may : hands = true)
    (answered : command ∈ known)
      (among : ∀ argument ∈ given, argument ∈ arguments) (fewer : given.length < arguments.length) :
    MayCall arguments frames hands known [] command given

/-- Code that makes no other calls, and ends with `post` of the commands that it knows by then. -/
def Program.Abides (arguments : List Command) (frames : Frames) (hands : Bool)
    (post : List Command → α → Prop) : Program σ α → List Command → Prop
  | done value, known => post known value
  | call scopes command given _ next, known =>
    MayCall arguments frames hands known scopes command given ∧
      ∀ outcome, (next outcome).Abides arguments frames hands post (learned outcome ++ known)
  | line _ _ next, known =>
    ∀ outcome, (next outcome).Abides arguments frames hands post (learned outcome ++ known)
  | look next, known => ∀ bot context, context.frames = frames →
    (next bot context).Abides arguments frames hands post known
  | spend _ next, known => ∀ enough, (next enough).Abides arguments frames hands post known
  | administrator next, known => ∀ answer, (next answer).Abides arguments frames hands post known
  | draw _ _ next, known => ∀ value, (next value).Abides arguments frames hands post known
  | addAlias _ _ next, known => ∀ result, (next result).Abides arguments frames hands post known
  | removeAlias _ next, known => ∀ result, (next result).Abides arguments frames hands post known
  | change _ next, known => ∀ state, (next state).Abides arguments frames hands post known

def Reply.Known (known : List Command) (reply : Reply) : Prop :=
  ∀ command, reply = .command command → command ∈ known

def Value.Known (known : List Command) (value : Value) : Prop :=
  ∀ reply, value = .reply reply → reply.Known known

/-- Code whose value, if it comes to one, has `post`. -/
def Native.Abides (arguments : List Command) (frames : Frames) (hands : Bool) (native : Native σ α)
    (known : List Command) (post : List Command → α → Prop) : Prop :=
  native.run.Abides arguments frames hands (fun known result => ∀ value, result = .ok value →
    post known value) known

/-- The functions of the application abide by the rules: they may hand nothing on, and what they run
inside each other is up to them. -/
def Host.Abides (host : Host σ) : Prop :=
  ∀ index arguments frames bindings,
    (∀ given, Binding.arguments given ∈ bindings → given = arguments) →
      (host.native index bindings).Abides arguments frames false [] Value.Known

section Rules

variable {arguments : List Command} {frames : Frames} {hands : Bool} {known : List Command}

theorem Program.abides_bind {program : Program σ α} {next : α → Program σ β}
    {middle : List Command → α → Prop} {post : List Command → β → Prop}
    (abides : program.Abides arguments frames hands middle known)
    (rest : ∀ known value, middle known value →
      (next value).Abides arguments frames hands post known) :
    (program.bind next).Abides arguments frames hands post known := by
  induction program generalizing known with
  | done value => exact rest known value abides
  | call scopes command given kinds after ih =>
    exact ⟨abides.1, fun outcome => ih outcome (abides.2 outcome)⟩
  | line text kinds after ih => exact fun outcome => ih outcome (abides outcome)
  | look after ih => exact fun bot context same => ih bot context (abides bot context same)
  | spend tokens after ih => exact fun enough => ih enough (abides enough)
  | administrator after ih => exact fun answer => ih answer (abides answer)
  | draw low high after ih => exact fun value => ih value (abides value)
  | addAlias name text after ih => exact fun result => ih result (abides result)
  | removeAlias name after ih => exact fun result => ih result (abides result)
  | change update after ih => exact fun state => ih state (abides state)

namespace Native

theorem abides_pure {value : α} {post : List Command → α → Prop} (holds : post known value) :
    (pure value : Native σ α).Abides arguments frames hands known post := by
  intro other same
  cases same
  exact holds

theorem abides_fail {error : CommandError} {post : List Command → α → Prop} :
    (fail error : Native σ α).Abides arguments frames hands known post :=
  fun _ same => nomatch same

theorem abides_ofExcept {result : Except CommandError α} {post : List Command → α → Prop}
    (holds : ∀ value, result = .ok value → post known value) :
    (ofExcept result : Native σ α).Abides arguments frames hands known post := by
  cases result with
  | error error => exact abides_fail
  | ok value => exact abides_pure (holds value rfl)

theorem abides_bind {native : Native σ α} {next : α → Native σ β}
    {middle : List Command → α → Prop} {post : List Command → β → Prop}
    (abides : native.Abides arguments frames hands known middle)
    (rest : ∀ known value, middle known value →
      (next value).Abides arguments frames hands known post) :
    (native >>= next).Abides arguments frames hands known post := by
  apply Program.abides_bind abides
  intro known result holds
  cases result with
  | error failure => exact fun _ same => nomatch same
  | ok value => exact rest known value (holds value rfl)

theorem abides_discard {native : Native σ α} {middle : List Command → α → Prop}
    (abides : native.Abides arguments frames hands known middle) :
    (discard native).Abides arguments frames hands known fun _ _ => True := by
  apply Program.abides_bind abides
  intro known result _
  cases result with
  | error failure => exact fun _ same => nomatch same
  | ok value => exact fun _ _ => trivial

theorem known_of_learned {outcome : Outcome} {reply : Reply} (same : outcome = .ok reply) :
    reply.Known (learned outcome ++ known) := by
  intro command answered
  subst same answered
  exact List.mem_cons_self

theorem abides_callWithin {scopes : List Scope} {command : Command} {given : List Command}
    {kinds : List Kind} (may : MayCall arguments frames hands known scopes command given) :
    (callWithin scopes command given kinds : Native σ Reply).Abides arguments frames hands known
      Reply.Known :=
  ⟨may, fun _ => abides_ofExcept fun _ same => known_of_learned same⟩

theorem abides_callLine (text : String) (kinds : List Kind) :
    (callLine text kinds : Native σ Reply).Abides arguments frames hands known Reply.Known :=
  fun _ => abides_ofExcept fun _ same => known_of_learned same

theorem abides_bot : (bot : Native σ Bot).Abides arguments frames hands known fun _ _ => True :=
  fun _ _ _ _ _ => trivial

theorem abides_context :
    (context : Native σ Context).Abides arguments frames hands known
      fun _ context => context.frames = frames := by
  intro bot context same other holds
  cases holds
  exact same

theorem abides_draw (low high : Int) :
    (draw low high : Native σ Int).Abides arguments frames hands known fun _ _ => True :=
  fun _ _ _ => trivial

theorem abides_addAlias (name text : String) :
    (addAlias name text : Native σ Unit).Abides arguments frames hands known fun _ _ => True :=
  fun _ => abides_ofExcept fun _ _ => trivial

theorem abides_removeAlias (name : String) :
    (removeAlias name : Native σ String).Abides arguments frames hands known fun _ _ => True :=
  fun _ => abides_ofExcept fun _ _ => trivial

theorem abides_text {command : Command} (among : command ∈ arguments) :
    (text command : Native σ String).Abides arguments frames hands known fun _ _ => True :=
  abides_bind (abides_callWithin (.own among)) fun _ _ _ =>
    abides_bind abides_bot fun _ _ _ => abides_ofExcept fun _ _ => trivial

theorem abides_texts {commands : List Command} (among : ∀ command ∈ commands, command ∈ arguments) :
    (texts commands : Native σ (List String)).Abides arguments frames hands known
      fun _ _ => True := by
  induction commands generalizing known with
  | nil => exact abides_pure trivial
  | cons command rest ih =>
    obtain ⟨first, others⟩ := List.forall_mem_cons.1 among
    exact abides_bind (abides_text first) fun _ _ _ =>
      abides_bind (ih others) fun _ _ _ => abides_pure trivial

end Native

end Rules

namespace Builtin

variable {arguments : List Command} {frames : Frames} {hands : Bool} {known : List Command}
  {bindings : Bindings}

theorem mem_of_arguments {index : Nat} {values : List Command}
    (found : bindings.arguments index = .ok values) : .arguments values ∈ bindings := by
  unfold Bindings.arguments Bindings.lookup at found
  cases bound : bindings[index]? with
  | none =>
    rw [bound] at found
    cases found
  | some binding =>
    rw [bound] at found
    cases binding <;> cases found
    exact List.mem_of_getElem? bound

/-- Code that reads its arguments from a binding has those of the call. -/
theorem abides_arguments (own : ∀ given, Binding.arguments given ∈ bindings → given = arguments)
    (index : Nat) :
    (Native.ofExcept (bindings.arguments index) : Native σ (List Command)).Abides arguments frames
      hands known fun _ values => values = arguments :=
  Native.abides_ofExcept fun _ found => own _ (mem_of_arguments found)

/-- Code that reads something else from a binding may find anything there. -/
theorem abides_read {result : Except CommandError α} :
    (Native.ofExcept result : Native σ α).Abides arguments frames hands known fun _ _ => True :=
  Native.abides_ofExcept fun _ _ => trivial

theorem abides_text_value (text : String) :
    (pure (.string text) : Native σ Value).Abides arguments frames hands known Value.Known :=
  Native.abides_pure fun _ same => nomatch same

theorem abides_reply {reply : Reply} (answered : reply.Known known) :
    (pure (.reply reply) : Native σ Value).Abides arguments frames hands known Value.Known := by
  apply Native.abides_pure
  intro other same
  cases same
  exact answered

namespace Choose

theorem abides_run (kinds : List Kind) :
    (run arguments kinds : Native σ Reply).Abides arguments frames hands known Reply.Known := by
  unfold run
  split
  · rename_i left comparator right onTrue others
    apply Native.abides_bind (Native.abides_text (by simp))
    intro _ first _
    apply Native.abides_bind (Native.abides_text (by simp))
    intro _ comparison _
    apply Native.abides_bind (Native.abides_text (by simp))
    intro _ second _
    split
    · exact Native.abides_fail
    · rename_i comparator _
      dsimp only
      split
      · rename_i branch chosen
        refine Native.abides_callWithin (.own ?_)
        split at chosen
        · cases chosen
          simp
        · have among := List.mem_of_mem_head? (Option.mem_def.2 chosen)
          simp [among]
      · split
        · exact Native.abides_pure fun _ same => nomatch same
        · exact Native.abides_fail
  · exact Native.abides_fail

end Choose

namespace Take

theorem abides_natural {argument : Command} (among : argument ∈ arguments) (what : String) :
    (natural argument what : Native σ Nat).Abides arguments frames hands known
      fun _ _ => True := by
  apply Native.abides_bind (Native.abides_text among)
  intro _ text _
  split
  · exact Native.abides_pure trivial
  · exact Native.abides_fail

theorem abides_deliver (count start : Nat) (delimiter : Option String) {text : Command}
    (among : text ∈ arguments) (kinds : List Kind) :
    (deliver count start delimiter text kinds : Native σ Reply).Abides arguments frames hands known
      Reply.Known := by
  apply Native.abides_bind (Native.abides_text among)
  intro _ text _
  split
  · exact Native.abides_fail
  · split
    · rename_i taken _ reply answered
      apply Native.abides_pure
      intro command same
      subst same
      obtain ⟨kind, _, answers⟩ := List.exists_of_findSome?_eq_some answered
      split at answers <;> cases answers
    · exact Native.abides_fail

theorem abides_run (kinds : List Kind) :
    (run arguments kinds : Native σ Reply).Abides arguments frames hands known Reply.Known := by
  unfold run
  split
  · exact Native.abides_bind (abides_natural (by simp) _) fun _ count _ =>
      abides_deliver count 0 none (by simp) kinds
  · exact Native.abides_bind (abides_natural (by simp) _) fun _ count _ =>
      Native.abides_bind (abides_natural (by simp) _) fun _ start _ =>
        abides_deliver count start none (by simp) kinds
  · exact Native.abides_bind (abides_natural (by simp) _) fun _ count _ =>
      Native.abides_bind (abides_natural (by simp) _) fun _ start _ =>
        Native.abides_bind (Native.abides_text (by simp)) fun _ delimiter _ =>
          abides_deliver count start (some delimiter) (by simp) kinds
  · exact Native.abides_fail

end Take

theorem RunAll.abides_run {commands : List Command}
    (among : ∀ command ∈ commands, command ∈ arguments) :
    (run commands : Native σ Unit).Abides arguments frames hands known fun _ _ => True := by
  induction commands generalizing known with
  | nil => exact Native.abides_pure trivial
  | cons command rest ih =>
    obtain ⟨first, others⟩ := List.forall_mem_cons.1 among
    exact Native.abides_bind (Native.abides_discard (Native.abides_callWithin (.own first)))
      fun _ _ _ => ih others

/-- `eval` hands its other arguments on to a command that the first one answered. -/
theorem Eval.abides_run (kinds : List Kind) :
    (run arguments kinds : Native σ Reply).Abides arguments frames true known Reply.Known := by
  unfold run
  split
  · exact Native.abides_fail
  · rename_i first rest
    apply Native.abides_bind (Native.abides_callWithin (.own (by simp)))
    intro known reply answered
    split
    · rename_i command
      refine Native.abides_callWithin (.handOn rfl (answered command rfl) ?_ ?_)
      · exact fun argument among => List.mem_cons_of_mem _ among
      · exact Nat.lt_succ_self _
    · refine Native.abides_bind (Native.abides_texts ?_) fun _ others _ =>
      Native.abides_callLine _ kinds
      exact fun argument among => List.mem_cons_of_mem _ among
    · exact Native.abides_fail

/-- `param` runs an argument of the stored line that is running. -/
theorem Parameter.abides_run (index : Int) (kinds : List Kind) :
    (run index kinds : Native σ Reply).Abides arguments frames hands known Reply.Known := by
  apply Native.abides_bind Native.abides_context
  intro _ context same
  split
  · exact Native.abides_fail
  · rename_i frame rest running
    split
    · rename_i argument found
      refine Native.abides_callWithin (.outer (same ▸ running) ?_)
      unfold find? at found
      split at found
      · cases found
      · exact List.mem_of_getElem? found
    · exact Native.abides_fail

/-- Only `eval` hands its arguments on. -/
theorem native_abides (builtin : Builtin)
    (own : ∀ given, Binding.arguments given ∈ bindings → given = arguments)
    (may : builtin = eval → hands = true) :
    (builtin.native bindings : Native σ Value).Abides arguments frames hands known Value.Known := by
  cases builtin with
  | eval =>
    rw [may rfl]
    apply Native.abides_bind (abides_arguments own 1)
    intro _ values same
    subst same
    exact Native.abides_bind abides_read fun _ kinds _ =>
      Native.abides_bind (Eval.abides_run kinds) fun _ reply => abides_reply
  | choose =>
    apply Native.abides_bind (abides_arguments own 1)
    intro _ values same
    subst same
    exact Native.abides_bind abides_read fun _ kinds _ =>
      Native.abides_bind (Choose.abides_run kinds) fun _ reply => abides_reply
  | take =>
    apply Native.abides_bind (abides_arguments own 1)
    intro _ values same
    subst same
    exact Native.abides_bind abides_read fun _ kinds _ =>
      Native.abides_bind (Take.abides_run kinds) fun _ reply => abides_reply
  | runAll =>
    apply Native.abides_bind (abides_arguments own 1)
    intro _ values same
    subst same
    refine Native.abides_bind (RunAll.abides_run fun _ among => among) ?_
    intro _ _ _
    exact Native.abides_pure fun _ same => nomatch same
  | parameter =>
    exact Native.abides_bind abides_read fun _ index _ =>
      Native.abides_bind abides_read fun _ kinds _ =>
        Native.abides_bind (Parameter.abides_run index kinds) fun _ reply => abides_reply
  | print => exact Native.abides_bind abides_read fun _ items _ => abides_text_value _
  | help bot =>
    exact Native.abides_bind abides_read fun _ path _ =>
      Native.abides_bind Native.abides_bot fun _ bot _ =>
        Native.abides_bind abides_read fun _ text _ => abides_text_value text
  | showTree =>
    exact Native.abides_bind abides_read fun _ line _ =>
      Native.abides_bind abides_read fun _ text _ => abides_text_value text
  | random =>
    apply Native.abides_bind abides_read
    intro _ first _
    apply Native.abides_bind abides_read
    intro _ second _
    apply Native.abides_bind abides_read
    intro _ bounds _
    dsimp only
    split
    · exact Native.abides_pure fun _ same => nomatch same
    · exact Native.abides_bind (Native.abides_draw _ _) fun _ value _ =>
        Native.abides_pure fun _ same => nomatch same
  | aliasAdd =>
    apply Native.abides_bind abides_read
    intro _ name _
    apply Native.abides_bind abides_read
    intro _ words _
    exact Native.abides_bind (Native.abides_addAlias name _) fun _ _ _ =>
      Native.abides_pure fun _ same => nomatch same
  | aliasRemove =>
    apply Native.abides_bind abides_read
    intro _ name _
    exact Native.abides_bind (Native.abides_discard (Native.abides_removeAlias name)) fun _ _ _ =>
      Native.abides_pure fun _ same => nomatch same
  | aliasShow =>
    apply Native.abides_bind abides_read
    intro _ name _
    apply Native.abides_bind Native.abides_bot
    intro _ bot _
    split
    · exact abides_text_value _
    · exact Native.abides_fail
  | aliasList =>
    exact Native.abides_bind Native.abides_bot fun _ bot _ =>
      Native.abides_pure fun _ same => nomatch same

end Builtin

end ChatLine
