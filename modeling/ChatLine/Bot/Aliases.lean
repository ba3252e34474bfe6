import ChatLine.Bot.Basic
import ChatLine.Meaning

set_option autoImplicit false

namespace ChatLine

def Command.ofLine (text : String) : Except CommandError Command := do
  return .stored text (← (Expr.read text).toCommand)

namespace Bot

/-- Stores a line under a name, which must be free in the table and in the tree. -/
def addAlias (name text : String) : Update Unit := do
  validatePath name
  if (← get).aliases.has name then throw (.duplicateCommand name)
  let command ← Command.ofLine text
  changeTree (.addAt (Text.spaced name) command)
  modify fun bot => { bot with aliases := bot.aliases.set name text }

def removeAlias (name : String) : Update String := do
  let bot ← get
  match bot.aliases.get? name with
  | none => throw (.nameNotFound name)
  | some text =>
    set { bot with aliases := bot.aliases.erase name }
    detach name
    return text

def addCommand (path : String) (command : Command) : Update Unit := do
  validatePath path
  changeTree (.addAt (Text.spaced path) command)

/-- Takes away whatever is at a path, groups included, and tells whether there was anything. -/
def removeCommand (path : String) : Update Bool := do
  return (← changeTree (.removeAt (Text.spaced path))).isSome

def hasCommand (bot : Bot) (path : String) : Bool :=
  (bot.groups.top.at? (Text.spaced path)).isSome

end Bot

end ChatLine
