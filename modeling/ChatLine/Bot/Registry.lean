import ChatLine.Bot.Basic

set_option autoImplicit false

namespace ChatLine.Bot

/-- The command in the tree for the commands registered at one path. -/
def commandFor : List Documented → Except CommandError Command
  | [] => .error (.internal "no command to place")
  | [single] => .ok (.documented single)
  | commands =>
    let help := String.join (commands.map Documented.helpText)
    .ok (.overloads ((Overloads.ofList (commands.map Documented.function)).withHelp help))

def registered (bot : Bot) : List Documented :=
  (bot.registry.map Prod.snd).flatten

def registeredAt (bot : Bot) (path : String) : List Documented :=
  (bot.registry.get? path).getD []

/-- Registers a command. Its path must be well formed, its full name new, and its place in the tree
free of all that was not registered. -/
def register (command : Documented) : Update Unit := do
  validatePath command.path
  let bot ← get
  if bot.registered.any fun other => other.fullName == command.fullName then
    throw (.duplicateCommand command.fullName)
  let earlier := bot.registeredAt command.path
  let commands := earlier ++ [command]
  changeTree (.place command.path (← commandFor commands) earlier.isEmpty)
  modify fun bot => { bot with registry := bot.registry.set command.path commands }

/-- Takes all commands of a path away, and tells which they were. -/
def unregister (path : String) : StateM Bot (List Documented) := do
  let bot ← get
  match bot.registry.get? path with
  | none => return []
  | some removed =>
    set { bot with registry := bot.registry.erase path }
    discard (detach path).run
    return removed

/-- Where the first command with a full name is: its path, the commands before it, itself and those
after it. -/
def findOverload? (fullName : String) :
    NameMap (List Documented) → Option (String × List Documented × Documented × List Documented)
  | [] => none
  | (path, commands) :: rest =>
    match commands.span fun command => command.fullName != fullName with
    | (before, found :: after) => some (path, before, found, after)
    | (_, []) => findOverload? fullName rest

/-- Takes one command away by its full name, and tells which it was. -/
def unregisterOverload (fullName : String) : StateM Bot (Option Documented) := do
  let bot ← get
  match findOverload? fullName bot.registry with
  | none => return none
  | some (path, before, removed, after) =>
    let left := before ++ after
    if left.isEmpty then
      set { bot with registry := bot.registry.erase path }
      discard (detach path).run
    else
      set { bot with registry := bot.registry.set path left }
      let rebuild : Update Unit := do changeTree (.place path (← commandFor left) false)
      discard rebuild.run
    return some removed

end ChatLine.Bot
