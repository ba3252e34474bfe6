import ChatLine.Bot.Calls

set_option autoImplicit false

namespace ChatLine

/-- The state of a console. -/
structure Console (σ : Type) where
  world : World σ
  /-- The kinds that lines are asked for. -/
  kinds : List Kind
  /-- Whether the tree of each line is shown. -/
  showTree : Bool

inductive Response where
  | output (text : String)
  | silent
  | quit
  deriving DecidableEq, Repr

namespace Console

variable {σ : Type}

def start (config : Config) (application : σ) (seed : Nat) : Except StartError (Console σ) := do
  match Bot.start config with
  | .ok bot => return ⟨.start bot bot.freshContext application seed, Kind.textOrNothing, false⟩
  | .error error => throw { error with doing := "failed to start kernel: " ++ error.doing }

def helpLines : List String :=
  ["chatcmd REPL",
   "",
   "Meta-commands:",
   "  /help, /h, /?       Show this help",
   "  /quit, /q, /exit    Exit the REPL",
   "  /ast                Toggle s-expression display",
   "  /kinds [<kind>...]  Show or set the requested result kinds",
   "                      (string, empty, command, enumerable)",
   "  /aliases            List aliases",
   "",
   "Command lines:",
   "  !print a b          Run a command",
   "  !print (!rng 6)     Nest commands in parentheses",
   "  !take 1 \"a b\"       Quote text that contains spaces",
   "  !help               List all commands"]

def helpText : String :=
  "\n".intercalate helpLines

def replyText? : Reply → Option String
  | .text text => some text
  | .nothing => none
  | .command _ => some "<command>"
  | .items items => some ("\n".intercalate items)
  | .extension kind _ => some ("<" ++ kind ++ ">")

def outcomeText? : Outcome → Option String
  | .ok reply => replyText? reply
  | .error error => some ("error: " ++ error.message)

def runLine (host : Host σ) (console : Console σ) (line : String) : Response × Console σ :=
  let expr := Expr.read line
  let tree := if console.showTree then [expr.render] else []
  let (outcome, world) :=
    World.perform (World.callExpr host expr [] console.kinds) console.world.refresh
  let shown := tree ++ (outcomeText? outcome).toList
  (if shown.isEmpty then .silent else .output ("\n".intercalate shown),
    { console with world := world })

/-- The kinds that words name, or the first word that names none. -/
def readKinds : List String → Except String (List Kind)
  | [] => .ok []
  | word :: rest =>
    match Kind.ofName? word with
    | some kind => (readKinds rest).map (kind :: ·)
    | none => .error word

def chooseKinds (console : Console σ) (words : List String) : Response × Console σ :=
  let shown (kinds : List Kind) : Response := .output ("kinds: " ++ Kind.list kinds)
  if words.isEmpty then (shown console.kinds, console)
  else
    match readKinds words with
    | .ok kinds => (shown kinds, { console with kinds := kinds })
    | .error word => (.output ("unknown kind: " ++ word), console)

def aliasesText (bot : Bot) : String :=
  if bot.aliases.isEmpty then "(no aliases)"
  else "\n".intercalate (bot.aliases.map fun entry => entry.1 ++ " = " ++ entry.2)

/-- Runs a command of the console, by its name and the words after it. -/
def runOwn (console : Console σ) (name : String) (words : List String) : Response × Console σ :=
  match name with
  | "quit" | "q" | "exit" => (.quit, console)
  | "help" | "h" | "?" => (.output helpText, console)
  | "ast" =>
    let on := !console.showTree
    (.output ("AST display: " ++ if on then "on" else "off"), { console with showTree := on })
  | "kinds" => console.chooseKinds words
  | "aliases" => (.output (aliasesText console.world.bot), console)
  | other => (.output ("unknown meta-command: /" ++ other ++ " (try /help)"), console)

/-- Takes a line: a command of the console after a slash, else a chat line. -/
def takeLine (host : Host σ) (console : Console σ) (line : String) : Response × Console σ :=
  let line := Text.trim line
  if line.isEmpty then (.silent, console)
  else
    match Text.afterStart? "/" line with
    | none => console.runLine host line
    | some own =>
      match Text.words own with
      | [] => console.runOwn "" []
      | name :: words => console.runOwn name words

end Console

end ChatLine
