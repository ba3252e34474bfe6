import ChatLine.Config
import ChatLine.Config.Json

set_option autoImplicit false

namespace ChatLine

inductive ConfigError where
  /-- The file cannot be read as text. -/
  | unreadable
  /-- The text is not a configuration. -/
  | malformed
  deriving DecidableEq, Repr

structure Settings where
  name : Option String
  budget : Option Nat
  aliases : Option (NameMap String)
  builtins : Option Bool

namespace Settings

def none : Settings := ⟨.none, .none, .none, .none⟩

/-- The configuration with some settings, and standard ones in the place of the others. -/
def toConfig (settings : Settings) : Config :=
  { name := settings.name.getD Config.standard.name
    budget := settings.budget.getD Config.standard.budget
    aliases := settings.aliases.getD Config.standard.aliases
    builtins := settings.builtins.getD Config.standard.builtins }

def text? : Json → Option String
  | .string text => text
  | _ => .none

/-- A number of tokens, which has 32 bits. -/
def tokens? : Json → Option Nat
  | .natural value => if value < 0x100000000 then some value else .none
  | _ => .none

def flag? : Json → Option Bool
  | .bool value => some value
  | _ => .none

def lines? : List (Option String × Json) → Option (List (String × String))
  | [] => some []
  | (key, value) :: rest => do
    let key ← key
    let text ← text? value
    return (key, text) :: (← lines? rest)

/-- Stored lines by their names; of two with one name the later one counts. -/
def aliases? : Json → Option (NameMap String)
  | .object members => (lines? members).map NameMap.ofPairs
  | _ => .none

def add? (settings : Settings) (key : String) (value : Json) : Option Settings :=
  match key with
  | "name" =>
    if settings.name.isSome then .none
    else (text? value).map fun text => { settings with name := text }
  | "complexity_budget" =>
    if settings.budget.isSome then .none
    else (tokens? value).map fun tokens => { settings with budget := tokens }
  | "aliases" =>
    if settings.aliases.isSome then .none
    else (aliases? value).map fun lines => { settings with aliases := lines }
  | "builtins" =>
    if settings.builtins.isSome then .none
    else (flag? value).map fun flag => { settings with builtins := flag }
  | _ => some settings

/-- The settings with further ones from the members of an object. -/
def addAll? (settings : Settings) : List (Option String × Json) → Option Settings
  | [] => some settings
  | (key, value) :: rest => do
    let more ← settings.add? (← key) value
    more.addAll? rest

/-- The names of the settings in the order in which an array gives them. -/
def order : List String := ["name", "complexity_budget", "aliases", "builtins"]

def ofJson? : Json → Option Settings
  | .object members => none.addAll? members
  | .array elements =>
    if elements.length ≤ order.length then none.addAll? ((order.map some).zip elements) else .none
  | _ => .none

end Settings

inductive ConfigSource where
  /-- No file is named. -/
  | unnamed
  /-- The named file does not exist. -/
  | missing
  | file (contents : ByteArray)

namespace Config

def read (text : String) : Except ConfigError Config :=
  match (Json.read? text).bind Settings.ofJson? with
  | some settings => .ok settings.toConfig
  | none => .error .malformed

/-- Loads a configuration. A file that does not exist is an error only when the user asked for it. -/
def load (source : ConfigSource) (explicit : Bool) : Except ConfigError Config :=
  match source with
  | .unnamed => .ok standard
  | .missing => if explicit then .error .unreadable else .ok standard
  | .file contents =>
    match String.fromUTF8? contents with
    | some text => read text
    | none => .error .unreadable

end Config

end ChatLine
