import ChatLine.Config
import ChatLine.Tree

set_option autoImplicit false

namespace ChatLine

/-- The state of a bot. -/
structure Bot where
  config : Config
  groups : Groups
  /-- The registered commands, by their paths and in the order of registration. -/
  registry : NameMap (List Documented)
  /-- The texts of the stored lines, by their names. -/
  aliases : NameMap String

abbrev Update := ExceptT CommandError (StateM Bot)

namespace Bot

def empty (config : Config) : Bot := ⟨config, .empty, [], []⟩

def changeTree {α : Type} (change : Change α) : Update α := do
  let bot ← get
  let (result, groups) := bot.groups.change change
  set { bot with groups := groups }
  result

def isPathWord (word : String) : Bool :=
  !word.isEmpty && word.toList.all fun c => 'a' ≤ c && c ≤ 'z'

/-- Checks that a path is words of small letters with single spaces between. -/
def validatePath (path : String) : Except CommandError Unit :=
  if (Text.spaced path).all isPathWord then .ok ()
  else .error (.invalidPath path "expected lowercase words separated by single spaces")

/-- The path of what sits at `path`: its empty name, if a group is there. -/
def slotPath (bot : Bot) (path : String) : List String :=
  let names := Text.spaced path
  match bot.groups.top.at? names with
  | some (.group _ _) => names ++ [""]
  | _ => names

def detach (path : String) : Update Unit := do
  discard (changeTree (.removeAt ((← get).slotPath path)))

end Bot

end ChatLine
