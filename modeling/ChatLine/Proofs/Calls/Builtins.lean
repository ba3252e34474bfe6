import ChatLine.World

set_option autoImplicit false

namespace ChatLine

variable {σ : Type}

/-- The property goes through what the code of the built-in commands is put together from. -/
structure Native.Closed (holds : ∀ {α : Type}, Native σ α → Prop) : Prop where
  protected ofExcept : ∀ {α : Type} (result : Except CommandError α), holds (ofExcept result)
  protected bind : ∀ {α β : Type} {native : Native σ α} {next : α → Native σ β},
    holds native → (∀ value, holds (next value)) → holds (native >>= next)
  protected discard : ∀ {α : Type} {native : Native σ α}, holds native → holds (discard native)
  protected callWithin : ∀ scopes command arguments kinds,
    holds (callWithin scopes command arguments kinds)
  protected callLine : ∀ text kinds, holds (callLine text kinds)
  protected bot : holds bot
  protected context : holds context
  protected draw : ∀ low high, holds (draw low high)
  protected addAlias : ∀ name text, holds (addAlias name text)
  protected removeAlias : ∀ name, holds (removeAlias name)

namespace Native.Closed

open Builtin

variable {holds : ∀ {α : Type}, Native σ α → Prop} (closed : Closed holds)
include closed

protected theorem pure {α : Type} (value : α) : holds (pure value : Native σ α) :=
  closed.ofExcept (.ok value)

protected theorem fail {α : Type} (error : CommandError) : holds (fail error : Native σ α) :=
  closed.ofExcept (.error error)

protected theorem text (command : Command) : holds (text command) :=
  closed.bind (closed.callWithin [] command [] [.string]) fun _ =>
    closed.bind closed.bot fun _ => closed.ofExcept _

protected theorem texts (commands : List Command) : holds (texts commands) := by
  induction commands with
  | nil => exact closed.pure []
  | cons command rest ih =>
    exact closed.bind (closed.text command) fun _ => closed.bind ih fun _ => closed.pure _

protected theorem choose (arguments : List Command) (kinds : List Kind) :
    holds (Choose.run arguments kinds) := by
  unfold Choose.run
  split
  · refine closed.bind (closed.text _) fun left => ?_
    refine closed.bind (closed.text _) fun comparator => ?_
    refine closed.bind (closed.text _) fun right => ?_
    split
    · exact closed.fail _
    · dsimp only
      split
      · exact closed.callWithin _ _ _ _
      · split
        · exact closed.pure _
        · exact closed.fail _
  · exact closed.fail _

protected theorem natural (argument : Command) (what : String) :
    holds (Take.natural argument what) := by
  refine closed.bind (closed.text argument) fun text => ?_
  split
  · exact closed.pure _
  · exact closed.fail _

protected theorem deliver (count start : Nat) (delimiter : Option String) (text : Command)
    (kinds : List Kind) : holds (Take.deliver count start delimiter text kinds) := by
  refine closed.bind (closed.text text) fun text => ?_
  split
  · exact closed.fail _
  · split
    · exact closed.pure _
    · exact closed.fail _

protected theorem take (arguments : List Command) (kinds : List Kind) :
    holds (Take.run arguments kinds) := by
  unfold Take.run
  split
  · exact closed.bind (closed.natural _ _) fun _ => closed.deliver _ _ _ _ _
  · exact closed.bind (closed.natural _ _) fun _ =>
      closed.bind (closed.natural _ _) fun _ => closed.deliver _ _ _ _ _
  · exact closed.bind (closed.natural _ _) fun _ =>
      closed.bind (closed.natural _ _) fun _ =>
        closed.bind (closed.text _) fun _ => closed.deliver _ _ _ _ _
  · exact closed.fail _

protected theorem eval (arguments : List Command) (kinds : List Kind) :
    holds (Eval.run arguments kinds) := by
  unfold Builtin.Eval.run
  split
  · exact closed.fail _
  · refine closed.bind (closed.callWithin _ _ _ _) fun reply => ?_
    split
    · exact closed.callWithin _ _ _ _
    · exact closed.bind (closed.texts _) fun _ => closed.callLine _ _
    · exact closed.fail _

protected theorem parameter (index : Int) (kinds : List Kind) :
    holds (Parameter.run index kinds) := by
  refine closed.bind closed.context fun context => ?_
  split
  · exact closed.fail _
  · split
    · exact closed.callWithin _ _ _ _
    · exact closed.fail _

protected theorem runAll (commands : List Command) : holds (RunAll.run commands) := by
  induction commands with
  | nil => exact closed.pure ()
  | cons command rest ih =>
    exact closed.bind (closed.discard (closed.callWithin _ _ _ _)) fun _ => ih

/-- The commands that answer for the kinds that they are asked for read a binding and those kinds. -/
protected theorem replying {α : Type} {code : α → List Kind → Native σ Reply}
    (codes : ∀ value kinds, holds (code value kinds)) (first : Except CommandError α)
    (second : Except CommandError (List Kind)) :
    holds do return Value.reply (← code (← ofExcept first) (← ofExcept second)) :=
  closed.bind (closed.ofExcept first) fun _ => closed.bind (closed.ofExcept second) fun _ =>
    closed.bind (codes _ _) fun _ => closed.pure _

/-- Every built-in command has the property. -/
protected theorem builtin (builtin : Builtin) (bindings : Bindings) :
    holds (builtin.native bindings) := by
  cases builtin with
  | eval => exact closed.replying closed.eval _ _
  | choose => exact closed.replying closed.choose _ _
  | take => exact closed.replying closed.take _ _
  | parameter => exact closed.replying closed.parameter _ _
  | runAll =>
    exact closed.bind (closed.ofExcept _) fun _ =>
      closed.bind (closed.runAll _) fun _ => closed.pure _
  | print => exact closed.bind (closed.ofExcept _) fun _ => closed.pure _
  | help bot =>
    exact closed.bind (closed.ofExcept _) fun _ => closed.bind closed.bot fun _ =>
      closed.bind (closed.ofExcept _) fun _ => closed.pure _
  | showTree =>
    exact closed.bind (closed.ofExcept _) fun _ => closed.bind (closed.ofExcept _)
      fun _ => closed.pure _
  | random =>
    refine closed.bind (closed.ofExcept _) fun _ => ?_
    refine closed.bind (closed.ofExcept _) fun _ => ?_
    refine closed.bind (closed.ofExcept _) fun bounds => ?_
    dsimp only
    split
    · exact closed.pure _
    · exact closed.bind (closed.draw _ _) fun _ => closed.pure _
  | aliasAdd =>
    exact closed.bind (closed.ofExcept _) fun _ => closed.bind (closed.ofExcept _)
      fun _ => closed.bind (closed.addAlias _ _) fun _ => closed.pure _
  | aliasRemove =>
    exact closed.bind (closed.ofExcept _) fun _ =>
      closed.bind (closed.discard (closed.removeAlias _)) fun _ => closed.pure _
  | aliasShow =>
    refine closed.bind (closed.ofExcept _) fun _ => ?_
    refine closed.bind closed.bot fun bot => ?_
    split
    · exact closed.pure _
    · exact closed.fail _
  | aliasList => exact closed.bind closed.bot fun _ => closed.pure _

end Native.Closed

end ChatLine
