import ChatLine.Bindings
import ChatLine.Bot.Aliases

set_option autoImplicit false

namespace ChatLine

/-- A change of the frames around a call. -/
inductive Scope where
  /-- The innermost frame is hidden. -/
  | outer
  /-- One more frame is innermost. -/
  | inner (frame : Frame)

/-- Code that ends with a value of type `α`: a tree of requests, each with what to do next for every
answer. The state that the application keeps for its own code is of type `σ`. -/
inductive Program (σ α : Type) where
  | done (value : α)
  /-- Calls a command, after changes of the frames that end with the call. -/
  | call (scopes : List Scope) (command : Command) (arguments : List Command) (kinds : List Kind)
      (next : Outcome → Program σ α)
  /-- Runs a text as a command line in the place of the call. -/
  | line (text : String) (kinds : List Kind) (next : Outcome → Program σ α)
  /-- Looks at the bot and at the context. -/
  | look (next : Bot → Context → Program σ α)
  /-- Takes tokens from the budget, and is told whether there were enough. -/
  | spend (tokens : Nat) (next : Bool → Program σ α)
  /-- Asks whether the caller is an administrator. -/
  | administrator (next : Bool → Program σ α)
  /-- Draws a number from `low` up to but not including `high`. -/
  | draw (low high : Int) (next : Int → Program σ α)
  /-- Stores a line under a name. -/
  | addAlias (name text : String) (next : Except CommandError Unit → Program σ α)
  /-- Takes a stored line away. -/
  | removeAlias (name : String) (next : Except CommandError String → Program σ α)
  /-- Changes the state of the application, and is told the state from before. -/
  | change (update : σ → σ) (next : σ → Program σ α)

namespace Program

variable {σ α β : Type}

def bind (program : Program σ α) (next : α → Program σ β) : Program σ β :=
  match program with
  | done value => next value
  | call scopes command arguments kinds after =>
    call scopes command arguments kinds fun outcome => (after outcome).bind next
  | line text kinds after => line text kinds fun outcome => (after outcome).bind next
  | look after => look fun bot context => (after bot context).bind next
  | spend tokens after => spend tokens fun enough => (after enough).bind next
  | administrator after => administrator fun answer => (after answer).bind next
  | draw low high after => draw low high fun value => (after value).bind next
  | addAlias name text after => addAlias name text fun result => (after result).bind next
  | removeAlias name after => removeAlias name fun result => (after result).bind next
  | change update after => change update fun state => (after state).bind next

instance : Monad (Program σ) where
  pure := done
  bind := bind

end Program

/-- Why the code of a function failed: with an error of the command system, or with a message, around
which callers inside the code may have put what they were doing. -/
inductive Failure where
  | error (error : CommandError)
  /-- A message and what was being done, the innermost first. -/
  | message (text : String) (doing : List String)

def Failure.toError : Failure → CommandError
  | error cause => cause
  | message text doing => .native (": ".intercalate (doing.reverse ++ [text]))

/-- The failure with what was being done around it. An error of the command system stays what it is. -/
def Failure.during (failure : Failure) (doing : String) : Failure :=
  match failure with
  | error cause => error cause
  | message text others => message text (others ++ [doing])

abbrev Native (σ : Type) := ExceptT Failure (Program σ)

namespace Native

variable {σ α : Type}

def fail (error : CommandError) : Native σ α := throw (.error error)

def ofExcept : Except CommandError α → Native σ α
  | .ok value => pure value
  | .error error => fail error

/-- Calls a command within changes of the frames, and is told the outcome. -/
def attemptWithin (scopes : List Scope) (command : Command) (arguments : List Command)
    (kinds : List Kind) : Native σ Outcome :=
  ExceptT.lift (.call scopes command arguments kinds .done)

/-- Calls a command within changes of the frames; its error is the error of the code. -/
def callWithin (scopes : List Scope) (command : Command) (arguments : List Command)
    (kinds : List Kind) : Native σ Reply := do
  ofExcept (← attemptWithin scopes command arguments kinds)

def call (command : Command) (arguments : List Command) (kinds : List Kind) : Native σ Reply :=
  callWithin [] command arguments kinds

/-- Runs a text as a command line; its error is the error of the code. -/
def callLine (text : String) (kinds : List Kind) : Native σ Reply := do
  ofExcept (← ExceptT.lift (.line text kinds .done))

def bot : Native σ Bot := ExceptT.lift (.look fun bot _ => .done bot)

def context : Native σ Context := ExceptT.lift (.look fun _ context => .done context)

def text (command : Command) : Native σ String := do
  let reply ← call command [] [.string]
  ofExcept (reply.requireText (Command.describe (← bot).groups) command)

def texts : List Command → Native σ (List String)
  | [] => pure []
  | command :: rest => do
    let first ← text command
    return first :: (← texts rest)

def administrator : Native σ Bool := ExceptT.lift (.administrator .done)

/-- Takes tokens from the budget, and is told whether there were enough. -/
def spend (tokens : Nat) : Native σ Bool := ExceptT.lift (.spend tokens .done)

def draw (low high : Int) : Native σ Int := ExceptT.lift (.draw low high .done)

def addAlias (name text : String) : Native σ Unit := do
  ofExcept (← ExceptT.lift (.addAlias name text .done))

def removeAlias (name : String) : Native σ String := do
  ofExcept (← ExceptT.lift (.removeAlias name .done))

/-- Changes the state of the application, and is told the state from before. -/
def change (update : σ → σ) : Native σ σ := ExceptT.lift (.change update .done)

end Native

end ChatLine
