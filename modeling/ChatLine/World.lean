import ChatLine.Generator
import ChatLine.Builtin.Catalog

set_option autoImplicit false

namespace ChatLine

/-- Something that happened during a call. -/
inductive Event where
  /-- The body of a stored line began. -/
  | entered (text : String)
  /-- The command in a cell began to run, with the frames of that moment. -/
  | evaluated (cell : Nat) (frames : Frames)
  /-- A call failed, inside so many attempts of overloads. -/
  | failed (error : CommandError) (attempts : Nat)

/-- The state in which commands run. `σ` is the state of the application. -/
structure World (σ : Type) where
  bot : Bot
  context : Context
  /-- The outcomes of the commands that run at most once, where they have run. -/
  cells : Array (Option Outcome)
  generator : Generator
  application : σ
  /-- What happened, the latest first. -/
  journal : List Event
  /-- How many attempts of overloads are under way. -/
  attempts : Nat

namespace World

variable {σ : Type}

def start (bot : Bot) (context : Context) (application : σ) (seed : Nat) : World σ :=
  ⟨bot, context, #[], .ofSeed seed, application, [], 0⟩

def kept? (world : World σ) (cell : Nat) : Option Outcome :=
  world.cells[cell]?.join

def addCell (world : World σ) : Nat × World σ :=
  (world.cells.size, { world with cells := world.cells.push none })

def keep (world : World σ) (cell : Nat) (outcome : Outcome) : World σ :=
  { world with cells := world.cells.setIfInBounds cell (some outcome) }

def record (world : World σ) (event : Event) : World σ :=
  { world with journal := event :: world.journal }

def addLazy (world : World σ) (command : Command) : Command × World σ :=
  let (cell, world) := world.addCell
  (.lazy cell command, world)

end World

/-- A computation that may change the world and may fail; it keeps its changes when it fails. It has
no result at all when it runs too deep. -/
abbrev Eval (σ : Type) := ExceptT CommandError (StateT (World σ) Option)

/-- A way to call a command on arguments for some kinds. -/
abbrev Caller (σ : Type) := Command → List Command → List Kind → Eval σ Reply

/-- A way to run a text as a command line for some kinds. -/
abbrev LineCaller (σ : Type) := String → List Kind → Eval σ Reply

/-- What an application brings along. -/
structure Host (σ : Type) where
  /-- The code of a function. -/
  native : Nat → Bindings → Native σ Value
  /-- The code of a command, where there is one. Its reply is not held to the kinds that are wanted. -/
  foreign : Nat → Option (List Command → List Kind → Program σ Outcome)

def Host.codeOf {σ : Type} (host : Host σ) : Code → Bindings → Native σ Value
  | .builtin builtin => builtin.native
  | .host index => host.native index

def Host.none : Host Unit where
  native := fun index _ => Native.fail (.internal ("no function " ++ toString index))
  foreign := fun _ => Option.none

namespace Eval

variable {σ α : Type}

/-- A computation that fails never, and results in the outcome of another one. -/
def outcome (action : Eval σ α) : Eval σ (Except CommandError α) :=
  ExceptT.mk (Except.ok <$> action.run)

def ofExcept (result : Except CommandError α) : Eval σ α :=
  ExceptT.mk (pure result)

def tooDeep : Eval σ α :=
  ExceptT.mk fun _ => none

def changeContext (change : Context → Context) : Eval σ Unit :=
  modify fun world => { world with context := change world.context }

def record (event : Event) : Eval σ Unit :=
  modify fun world => world.record event

def recorded (action : Eval σ α) : Eval σ α := do
  match ← outcome action with
  | .ok value => return value
  | .error error =>
    record (.failed error (← get).attempts)
    throw error

/-- Runs a computation within a change of the frames, and takes the change back. -/
def inScope (scope : Scope) (action : Eval σ α) : Eval σ α := do
  match scope with
  | .inner frame =>
    changeContext fun context => context.push frame
    let result ← outcome action
    changeContext Context.pop
    ofExcept result
  | .outer =>
    match (← get).context.frames with
    | [] => action
    | frame :: _ =>
      changeContext Context.pop
      let result ← outcome action
      changeContext fun context => context.push frame
      ofExcept result

/-- Runs a computation within changes of the frames, of which the first is the outermost. -/
def inScopes (scopes : List Scope) (action : Eval σ α) : Eval σ α :=
  scopes.foldr inScope action

def update (change : Update α) : Eval σ (Except CommandError α) := do
  let world ← get
  let (result, bot) := change.run.run world.bot
  set { world with bot := bot }
  return result

def share : List Command → Eval σ (List Command)
  | [] => return []
  | command :: rest => do
    let (shared, world) := (← get).addLazy command
    set world
    return shared :: (← share rest)

def describe (command : Command) : Eval σ String := do
  return command.describe (← get).bot.groups

def text (call : Caller σ) (command : Command) : Eval σ String := do
  let reply ← call command [] [.string]
  ofExcept (reply.requireText (Command.describe (← get).bot.groups) command)

def texts (call : Caller σ) : List Command → Eval σ (List String)
  | [] => return []
  | command :: rest => do
    let first ← text call command
    return first :: (← texts call rest)

end Eval

end ChatLine
