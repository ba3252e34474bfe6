import ChatLine.Bot.Registry
import ChatLine.Evaluate

set_option autoImplicit false

namespace ChatLine

structure StartError where
  doing : String
  cause : CommandError
  deriving DecidableEq, Repr

def StartError.message (error : StartError) : String :=
  error.doing ++ ": " ++ error.cause.message

namespace Bot

/-- Makes changes in order, up to the first that fails; `doing` says what one does. -/
def startWith {α : Type} (doing : α → String) (update : α → Update Unit) :
    List α → Bot → Except StartError Bot
  | [], bot => .ok bot
  | next :: rest, bot =>
    match (update next).run.run bot with
    | (.error cause, _) => .error ⟨doing next, cause⟩
    | (.ok (), bot) => startWith doing update rest bot

/-- A bot by its configuration: with the built-in commands, unless it has none, and its stored lines
in the order of their names. -/
def start (config : Config) : Except StartError Bot := do
  let builtins := if config.builtins then Builtin.catalog config.name else []
  let bot ← startWith (fun _ => "failed to register builtin commands") register builtins
    (empty config)
  startWith (fun entry => "failed to add alias \"" ++ entry.1 ++ "\"")
    (fun entry => addAlias entry.1 entry.2) config.aliases bot

/-- The context of a new call: the tokens of the configuration, and nobody is an administrator. -/
def freshContext (bot : Bot) : Context :=
  .fresh (.tokens bot.config.budget) none

end Bot

namespace World

variable {σ : Type}

/-- How many calls may be inside each other. -/
def depthLimit : Nat := 1000000

/-- Runs a computation; one that runs too deep fails and changes nothing. -/
def perform {α : Type} (action : Eval σ α) (world : World σ) : Except CommandError α × World σ :=
  match action.run.run world with
  | some result => result
  | none => (.error (.internal "the calls are nested too deeply"), world)

def refresh (world : World σ) : World σ :=
  { world with context := world.bot.freshContext }

def call (host : Host σ) : Caller σ :=
  Evaluate.run host depthLimit

def callExpr (host : Host σ) (expr : Expr) (arguments : List Command) (kinds : List Kind) :
    Eval σ Reply := do
  let command ← Eval.ofExcept expr.toCommand
  call host command arguments kinds

def callLine (host : Host σ) (line : String) (kinds : List Kind) : Eval σ Reply :=
  callExpr host (Expr.read line) [] kinds

/-- Answers a chat line: with text or with nothing. -/
def answer (host : Host σ) (line : String) : Eval σ (Option String) := do
  match ← callLine host line Kind.textOrNothing with
  | .text text => return some text
  | .nothing => return none
  | other => throw (.noMatchingKind ("\"" ++ line ++ "\" (got " ++ other.kind.name ++ ")"))

end World

end ChatLine
