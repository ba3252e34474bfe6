import ChatLine.Evaluate

set_option autoImplicit false

namespace ChatLine

open Evaluate

variable {σ : Type}

/-- The relation goes through what a step is put together from. -/
structure Eval.Congruence (rel : ∀ {α : Type}, Eval σ α → Eval σ α → Prop) : Prop where
  protected ofExcept : ∀ {α : Type} (result : Except CommandError α),
    rel (Eval.ofExcept result) (Eval.ofExcept result)
  protected bind : ∀ {α β : Type} {first second : Eval σ α} {next following : α → Eval σ β},
    rel first second → (∀ value, rel (next value) (following value)) →
      rel (first >>= next) (second >>= following)
  protected look : ∀ {β : Type} {next following : World σ → Eval σ β},
    (∀ world other, other.bot = world.bot → rel (next world) (following other)) →
      rel (get >>= next) (get >>= following)
  protected share : ∀ commands, rel (Eval.share commands) (Eval.share commands)

namespace Eval.Congruence

variable {rel : ∀ {α : Type}, Eval σ α → Eval σ α → Prop} (congruence : Congruence rel)
include congruence

protected theorem pure {α : Type} (value : α) : rel (pure value : Eval σ α) (pure value) :=
  congruence.ofExcept (.ok value)

protected theorem throw {α : Type} (error : CommandError) :
    rel (throw error : Eval σ α) (throw error) :=
  congruence.ofExcept (.error error)

protected theorem describe (command : Command) :
    rel (Eval.describe command) (Eval.describe command) := by
  apply congruence.look
  intro world other same
  rw [same]
  exact congruence.pure _

section Calls

variable {host : Host σ} {call other : Caller σ} {line otherLine : LineCaller σ}
  (calls : ∀ command arguments kinds,
    rel (call command arguments kinds) (other command arguments kinds))
include calls

protected theorem text (command : Command) :
    rel (Eval.text call command) (Eval.text other command) := by
  apply congruence.bind (calls command [] [.string])
  intro reply
  apply congruence.look
  intro world twin same
  rw [same]
  exact congruence.ofExcept _

protected theorem texts (commands : List Command) :
    rel (Eval.texts call commands) (Eval.texts other commands) := by
  induction commands with
  | nil => exact congruence.pure []
  | cons command rest ih =>
    apply congruence.bind (congruence.text calls command)
    intro first
    exact congruence.bind ih fun others => congruence.pure (first :: others)

protected theorem bindFormal (kinds : List Kind) (all : List Command) (formal : Formal)
    (rest : List Command) :
    rel (Function.bindFormal call kinds all formal rest)
      (Function.bindFormal other kinds all formal rest) := by
  cases formal with
  | tail => exact congruence.bind (congruence.texts calls rest) fun _ => congruence.pure _
  | plain type =>
    cases rest with
    | nil => exact congruence.pure _
    | cons argument rest =>
      apply congruence.bind (congruence.text calls argument)
      intro text
      exact congruence.bind (congruence.ofExcept _) fun _ => congruence.pure _
  | _ => exact congruence.pure _

protected theorem bindFormals (kinds : List Kind) (all : List Command) (formals : List Formal)
    (rest : List Command) :
    rel (Function.bindFormals call kinds all formals rest)
      (Function.bindFormals other kinds all formals rest) := by
  induction formals generalizing rest with
  | nil => exact congruence.pure _
  | cons formal formals ih =>
    apply congruence.bind (congruence.bindFormal calls kinds all formal rest)
    intro bound
    exact congruence.bind (ih bound.2) fun _ => congruence.pure _

/-- A function does with its parameters what the relation is about only by its code. -/
protected theorem callFunction {f : Function}
    (codes : ∀ bindings,
      rel (invoke host call line f bindings) (invoke host other otherLine f bindings))
    (arguments : List Command) (kinds : List Kind) :
    rel (callFunction host call line f arguments kinds)
      (callFunction host other otherLine f arguments kinds) := by
  apply congruence.bind (congruence.share arguments)
  intro shared
  apply congruence.bind (congruence.bindFormals calls kinds shared f.formals shared)
  intro bound
  obtain ⟨bindings, rest⟩ := bound
  dsimp only
  split
  · split
    · exact congruence.pure _
    · exact congruence.throw _
  · split
    · exact congruence.throw _
    · exact congruence.pure _
    · exact congruence.bind (codes bindings) fun value => congruence.ofExcept _

/-- Overloads go through a relation that goes through outcomes and does not care how many attempts are
under way. -/
protected theorem callFirst
    (outcomes : ∀ {first second : Eval σ Reply}, rel first second →
      rel (Eval.outcome first) (Eval.outcome second))
    (counts : ∀ count : Nat → Nat,
      rel (modify fun world => { world with attempts := count world.attempts })
        (modify fun world => { world with attempts := count world.attempts }))
    (arguments : List Command) (kinds : List Kind) (functions : List Function) :
    rel (callFirst call arguments kinds functions) (callFirst other arguments kinds functions) := by
  induction functions with
  | nil => exact congruence.throw _
  | cons f rest ih =>
    apply congruence.bind (counts (· + 1))
    intro _
    apply congruence.bind (outcomes (calls (.function f) arguments kinds))
    intro outcome
    apply congruence.bind (counts (· - 1))
    intro _
    split
    · exact congruence.pure _
    · exact congruence.throw _
    · exact ih

protected theorem dispatch (id : Nat) (name : String) (arguments : List Command)
    (kinds : List Kind) :
    rel (dispatch call id name arguments kinds) (dispatch other id name arguments kinds) := by
  apply congruence.look
  intro world twin same
  rw [same]
  exact congruence.bind (congruence.ofExcept _) fun found => calls found.2.command arguments kinds

protected theorem callGroupAlone (id : Nat) (kinds : List Kind) :
    rel (callGroupAlone call id kinds) (callGroupAlone other id kinds) := by
  unfold Evaluate.callGroupAlone
  split
  · exact congruence.pure _
  · apply congruence.look
    intro world twin same
    rw [same]
    cases (world.bot.groups.children id).get? "" with
    | some node => exact calls node.command [] kinds
    | none => exact congruence.throw _

protected theorem callGroup (id : Nat) (arguments : List Command) (kinds : List Kind) :
    rel (callGroup call id arguments kinds) (callGroup other id arguments kinds) := by
  cases arguments with
  | nil => exact congruence.callGroupAlone calls id kinds
  | cons first rest =>
    apply congruence.bind (congruence.text calls first)
    exact fun name => congruence.dispatch calls id name rest kinds

protected theorem callRoot (arguments : List Command) (kinds : List Kind) :
    rel (callRoot call arguments kinds) (callRoot other arguments kinds) := by
  cases arguments with
  | nil => exact congruence.callGroupAlone calls Groups.topId kinds
  | cons first rest =>
    apply congruence.bind (calls first [] Kind.commandOrText)
    intro reply
    split
    · exact calls _ rest kinds
    · exact congruence.dispatch calls Groups.topId _ rest kinds
    · exact congruence.bind (congruence.describe first) fun _ => congruence.throw _

protected theorem callLine (text : String) (kinds : List Kind) :
    rel (callLine call text kinds) (callLine other text kinds) :=
  congruence.bind (congruence.ofExcept _) fun command => calls command [] kinds

/-- A step goes through the relation if the calls that it makes do, and all that it does to the world
itself. -/
protected theorem step {command : Command} {arguments : List Command} {kinds : List Kind}
    (codes : ∀ f bindings,
      rel (invoke host call line f bindings) (invoke host other otherLine f bindings))
    (attempts : ∀ shared functions,
      rel (callFirst call shared kinds functions) (callFirst other shared kinds functions))
    (stored : ∀ text body, command = .stored text body →
      rel (callStored call text body arguments kinds) (callStored other text body arguments kinds))
    (cells : ∀ cell inner,
      rel (callLazy call cell inner arguments kinds) (callLazy other cell inner arguments kinds))
    (foreign : ∀ label index,
      rel (callForeign host call line label index arguments kinds)
        (callForeign host other otherLine label index arguments kinds)) :
    rel (step host call line command arguments kinds)
      (step host other otherLine command arguments kinds) := by
  cases command with
  | literal text => exact congruence.ofExcept _
  | function f => exact congruence.callFunction calls (codes f) arguments kinds
  | documented command =>
    exact congruence.callFunction calls (codes command.function) arguments kinds
  | overloads set =>
    exact congruence.bind (congruence.share arguments) fun shared => attempts shared set.functions
  | stored text body => exact stored text body rfl
  | lazy cell inner => exact cells cell inner
  | applied callee bound => exact calls callee (bound ++ arguments) kinds
  | group id => exact congruence.callGroup calls id arguments kinds
  | root => exact congruence.callRoot calls arguments kinds
  | orphan => exact congruence.throw _
  | foreign label index => exact foreign label index

end Calls

end Eval.Congruence

/-- The property goes through what a step is put together from. -/
structure Eval.Closed (holds : ∀ {α : Type}, Eval σ α → Prop) : Prop where
  protected ofExcept : ∀ {α : Type} (result : Except CommandError α), holds (Eval.ofExcept result)
  protected bind : ∀ {α β : Type} {first : Eval σ α} {next : α → Eval σ β},
    holds first → (∀ value, holds (next value)) → holds (first >>= next)
  protected look : ∀ {β : Type} {next : World σ → Eval σ β},
    (∀ world, holds (next world)) → holds (get >>= next)
  protected share : ∀ commands, holds (Eval.share commands)

namespace Eval.Closed

variable {holds : ∀ {α : Type}, Eval σ α → Prop} (closed : Closed holds)
include closed

theorem congruence : Congruence fun {α : Type} (action _ : Eval σ α) => holds action where
  ofExcept := closed.ofExcept
  bind := closed.bind
  look := fun rests => closed.look fun world => rests world world rfl
  share := closed.share

variable {host : Host σ} {call : Caller σ} {line : LineCaller σ}
  (calls : ∀ command arguments kinds, holds (call command arguments kinds))
include calls

protected theorem text (command : Command) : holds (Eval.text call command) :=
  @Congruence.text σ _ closed.congruence call call calls command

protected theorem texts (commands : List Command) : holds (Eval.texts call commands) :=
  @Congruence.texts σ _ closed.congruence call call calls commands

protected theorem callFirst
    (outcomes : ∀ {action : Eval σ Reply}, holds action → holds (Eval.outcome action))
    (counts : ∀ count : Nat → Nat,
      holds (modify fun world => { world with attempts := count world.attempts }))
    (arguments : List Command) (kinds : List Kind) (functions : List Function) :
    holds (callFirst call arguments kinds functions) :=
  @Congruence.callFirst σ _ closed.congruence call call calls outcomes counts arguments kinds
    functions

protected theorem callLine (text : String) (kinds : List Kind) : holds (callLine call text kinds) :=
  @Congruence.callLine σ _ closed.congruence call call calls text kinds

/-- A step has the property if the calls that it makes do, and all that it does to the world itself. -/
protected theorem step {command : Command} {arguments : List Command} {kinds : List Kind}
    (codes : ∀ f bindings, holds (invoke host call line f bindings))
    (attempts : ∀ shared functions, holds (callFirst call shared kinds functions))
    (stored : ∀ text body, command = .stored text body →
      holds (callStored call text body arguments kinds))
    (cells : ∀ cell inner, holds (callLazy call cell inner arguments kinds))
    (foreign : ∀ label index, holds (callForeign host call line label index arguments kinds)) :
    holds (step host call line command arguments kinds) :=
  @Congruence.step σ _ closed.congruence host call call line line calls command arguments kinds
    codes attempts stored cells foreign

end Eval.Closed

end ChatLine
