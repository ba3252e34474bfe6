import ChatLine.World

set_option autoImplicit false

/- What happens when a command is called. `step` says it for one command, given a way to call the
commands it calls in turn and a way to run the texts that its code runs as command lines; `run` ties
the knot, down to some depth of calls.

A call asks for kinds, the most wanted first, and answers with one of them. Functions and overloads
share their arguments: whoever asks, and however often, each argument runs at most once. -/
namespace ChatLine

variable {σ α : Type}

namespace Program

/-- Runs code, given a way to call commands and a way to run command lines. -/
def run (call : Caller σ) (line : LineCaller σ) : Program σ α → Eval σ α
  | done value => return value
  | .call scopes command arguments kinds next => do
    (next (← Eval.outcome (Eval.inScopes scopes (call command arguments kinds)))).run call line
  | .line text kinds next => do (next (← Eval.outcome (line text kinds))).run call line
  | look next => do
    let world ← get
    (next world.bot world.context).run call line
  | spend tokens next => do
    match (← get).context.budget.take? tokens with
    | none => (next false).run call line
    | some budget =>
      Eval.changeContext fun context => { context with budget := budget }
      (next true).run call line
  | administrator next => do
    let (answer, admin) := (← get).context.administrator.ask
    Eval.changeContext fun context => { context with administrator := admin }
    (next answer).run call line
  | draw low high next => do
    let world ← get
    let (value, generator) := world.generator.draw low high
    set { world with generator := generator }
    (next value).run call line
  | addAlias name text next => do (next (← Eval.update (Bot.addAlias name text))).run call line
  | removeAlias name next => do (next (← Eval.update (Bot.removeAlias name))).run call line
  | change update next => do
    let world ← get
    set { world with application := update world.application }
    (next world.application).run call line

end Program

namespace Function

/-- Binds one formal parameter, and leaves the arguments after those that it takes. -/
def bindFormal (call : Caller σ) (kinds : List Kind) (all : List Command) (formal : Formal)
    (rest : List Command) : Eval σ (Binding × List Command) := do
  match formal with
  | .context => return (.context, rest)
  | .arguments => return (.arguments all, rest)
  | .kinds => return (.kinds kinds, rest)
  | .tail => return (.tail (← Eval.texts call rest), [])
  | .plain type =>
    match rest with
    | [] => return (.absent type, [])
    | argument :: rest =>
      let text ← Eval.text call argument
      return (← Eval.ofExcept (Binding.coerce text type), rest)

/-- Binds formal parameters from left to right, and leaves the arguments that none of them takes. -/
def bindFormals (call : Caller σ) (kinds : List Kind) (all : List Command) :
    List Formal → List Command → Eval σ (Bindings × List Command)
  | [], rest => return ([], rest)
  | formal :: formals, rest => do
    let (binding, rest) ← bindFormal call kinds all formal rest
    let (bindings, rest) ← bindFormals call kinds all formals rest
    return (binding :: bindings, rest)

def curry (f : Function) (arguments : List Command) : Command :=
  if arguments.isEmpty then .function f else .applied (.function f) arguments

def noMatchingKind (f : Function) (kinds : List Kind) : CommandError :=
  .noMatchingKind ("function " ++ f.name ++ " (wanted " ++ Kind.list kinds ++ ")")

end Function

namespace Value

/-- The value as a reply of a kind, if it can be one. No empty text is given for a text. -/
def answer? (value : Value) : Kind → Option Reply
  | .empty => some .nothing
  | .string => (value.toText?.filter fun text => !text.isEmpty).map .text
  | .enumerable =>
    match value with
    | .list items => some (.items items)
    | _ => none
  | .command => none
  | .extension _ => none

/-- The reply for a value: a complete reply as it is, and else the first kind that the value can be,
or the empty text when nothing better can be given to one who takes text. -/
def deliver (value : Value) (f : Function) (kinds : List Kind) : Except CommandError Reply :=
  match value with
  | .reply complete => complete.require kinds f.name
  | other =>
    match kinds.findSome? other.answer? with
    | some answer => .ok answer
    | none => if kinds.contains .string then .ok (.text "") else .error (f.noMatchingKind kinds)

end Value

namespace Evaluate

def invoke (host : Host σ) (call : Caller σ) (line : LineCaller σ) (f : Function)
    (bindings : Bindings) : Eval σ Value := do
  match ← ((host.codeOf f.code bindings).run).run call line with
  | .ok value => return value
  | .error failure => throw failure.toError

/-- Calls a function. With too few arguments, or where more can be taken and a command is wanted
before all else, the answer is the function with the arguments it has. -/
def callFunction (host : Host σ) (call : Caller σ) (line : LineCaller σ) (f : Function)
    (arguments : List Command) (kinds : List Kind) : Eval σ Reply := do
  let arguments ← Eval.share arguments
  let (bindings, rest) ← Function.bindFormals call kinds arguments f.formals arguments
  let taken := arguments.length - rest.length
  if taken < f.required then
    if kinds.contains .command then return .command (f.curry arguments)
    else throw (.arity ("not enough arguments for function " ++ f.name))
  else
    let takesMore := f.hasTail || taken < f.positionalCount
    match kinds.filter fun kind => takesMore || kind != .command with
    | [] => throw (f.noMatchingKind kinds)
    | .command :: _ => return .command (f.curry arguments)
    | _ => Eval.ofExcept ((← invoke host call line f bindings).deliver f kinds)

/-- Tries functions in order; the first that does not fail answers. An exhausted budget is no reason
to try the next. -/
def callFirst (call : Caller σ) (arguments : List Command) (kinds : List Kind) :
    List Function → Eval σ Reply
  | [] => throw .noMatchingOverload
  | f :: rest => do
    modify fun world => { world with attempts := world.attempts + 1 }
    let outcome ← Eval.outcome (call (.function f) arguments kinds)
    modify fun world => { world with attempts := world.attempts - 1 }
    match outcome with
    | .ok reply => return reply
    | .error .budgetExhausted => throw .budgetExhausted
    | .error _ => callFirst call arguments kinds rest

def callOverloads (call : Caller σ) (set : Overloads) (arguments : List Command)
    (kinds : List Kind) : Eval σ Reply := do
  callFirst call (← Eval.share arguments) kinds set.functions

/-- Takes one token for a stored line that is entered. -/
def payForLine : Eval σ Unit := do
  match (← get).context.budget.take? 1 with
  | none => throw .budgetExhausted
  | some budget => Eval.changeContext fun context => { context with budget := budget }

/-- Calls a stored line: its body runs without arguments, and finds those of the call in a frame. -/
def callStored (call : Caller σ) (text : String) (body : Command) (arguments : List Command)
    (kinds : List Kind) : Eval σ Reply := do
  payForLine
  let frame ← Eval.share arguments
  Eval.record (.entered text)
  Eval.inScope (.inner frame) (call body [] kinds)

/-- The outcome of a command that runs at most once: the one kept in its cell, or that of its run,
which is kept from then on. -/
def settle (call : Caller σ) (cell : Nat) (inner : Command) (arguments : List Command)
    (kinds : List Kind) : Eval σ Outcome := do
  let world ← get
  match world.kept? cell with
  | some outcome => return outcome
  | none =>
    Eval.record (.evaluated cell world.context.frames)
    let outcome ← Eval.outcome (call inner arguments kinds)
    modify fun world => world.keep cell outcome
    return outcome

def callLazy (call : Caller σ) (cell : Nat) (inner : Command) (arguments : List Command)
    (kinds : List Kind) : Eval σ Reply := do
  let reply ← Eval.ofExcept (← settle call cell inner arguments kinds)
  if reply.fits kinds then return reply
  else throw (Reply.mismatch "cached" (← Eval.describe inner) reply.kind kinds)

def dispatch (call : Caller σ) (id : Nat) (name : String) (arguments : List Command)
    (kinds : List Kind) : Eval σ Reply := do
  let (_, node) ← Eval.ofExcept (((← get).bot.groups.children id).resolve name)
  call node.command arguments kinds

/-- Calls a group without arguments: the answer is the group itself, or what its empty name stands
for. -/
def callGroupAlone (call : Caller σ) (id : Nat) (kinds : List Kind) : Eval σ Reply := do
  if kinds.contains .command then return .command (.group id)
  else
    match ((← get).bot.groups.children id).get? "" with
    | some node => call node.command [] kinds
    | none => throw (.arity "expected a string")

/-- Calls a group: the first argument names the child that takes the others. -/
def callGroup (call : Caller σ) (id : Nat) (arguments : List Command) (kinds : List Kind) :
    Eval σ Reply := do
  match arguments with
  | [] => callGroupAlone call id kinds
  | first :: rest => dispatch call id (← Eval.text call first) rest kinds

/-- Calls the entry of the tree: the first argument names a command, or is one. -/
def callRoot (call : Caller σ) (arguments : List Command) (kinds : List Kind) : Eval σ Reply := do
  match arguments with
  | [] => callGroupAlone call Groups.topId kinds
  | first :: rest =>
    match ← call first [] Kind.commandOrText with
    | .command command => call command rest kinds
    | .text name => dispatch call Groups.topId name rest kinds
    | other =>
      throw (Reply.mismatch "got" (← Eval.describe first) other.kind Kind.commandOrText)

def callLiteral (text : String) (kinds : List Kind) : Except CommandError Reply :=
  if kinds.contains .string then .ok (.text text)
  else .error (.noMatchingKind ("string literal \"" ++ text ++ "\""))

/-- Calls a command of the application. -/
def callForeign (host : Host σ) (call : Caller σ) (line : LineCaller σ) (label : String)
    (index : Nat) (arguments : List Command) (kinds : List Kind) : Eval σ Reply := do
  match host.foreign index with
  | some code => Eval.ofExcept (← (code arguments kinds).run call line)
  | none => throw (.internal ("no code for " ++ label))

def callLine (call : Caller σ) : LineCaller σ := fun text kinds => do
  call (← Eval.ofExcept (Expr.read text).toCommand) [] kinds

/-- What a call of a command does, given a way to call others and a way to run command lines. -/
def step (host : Host σ) (call : Caller σ) (line : LineCaller σ) : Caller σ
  | .literal text, _, kinds => Eval.ofExcept (callLiteral text kinds)
  | .function f, arguments, kinds => callFunction host call line f arguments kinds
  | .documented command, arguments, kinds =>
    callFunction host call line command.function arguments kinds
  | .overloads set, arguments, kinds => callOverloads call set arguments kinds
  | .stored text body, arguments, kinds => callStored call text body arguments kinds
  | .lazy cell inner, arguments, kinds => callLazy call cell inner arguments kinds
  | .applied callee bound, arguments, kinds => call callee (bound ++ arguments) kinds
  | .group id, arguments, kinds => callGroup call id arguments kinds
  | .root, arguments, kinds => callRoot call arguments kinds
  | .orphan, _, _ => throw (.internal "the command tree was dropped")
  | .foreign label index, arguments, kinds => callForeign host call line label index arguments kinds

/-- Calls a command, as long as no more than `depth` calls are inside each other. -/
def run (host : Host σ) : Nat → Caller σ
  | 0, _, _, _ => Eval.tooDeep
  | depth + 1, command, arguments, kinds =>
    let call := run host depth
    Eval.recorded (step host call (callLine call) command arguments kinds)

end Evaluate

end ChatLine
