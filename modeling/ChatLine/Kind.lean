set_option autoImplicit false

namespace ChatLine

/-- The shape of a reply. -/
inductive Kind where
  /-- Plain text. -/
  | string
  /-- Nothing: the command ran for its effects. -/
  | empty
  /-- A command that can be called later. -/
  | command
  /-- A list of texts. -/
  | enumerable
  /-- A shape that the application adds; it is told from others by its name alone. -/
  | extension (name : String)
  deriving DecidableEq, Repr, Inhabited

namespace Kind

def name : Kind → String
  | string => "string"
  | empty => "empty"
  | command => "command"
  | enumerable => "enumerable"
  | extension name => name

/-- Reads the word for a kind; the kinds an application adds cannot be read. -/
def ofName? : String → Option Kind
  | "string" => some string
  | "empty" => some empty
  | "command" => some command
  | "enumerable" => some enumerable
  | _ => none

def textOrNothing : List Kind := [string, empty]

def commandOrText : List Kind := [command, string]

def basic : List Kind := [string, empty, command, enumerable]

/-- The kinds in order with commas between, and a word of its own for no kind at all. -/
def list (kinds : List Kind) : String :=
  if kinds.isEmpty then "nothing" else ", ".intercalate (kinds.map name)

end Kind

end ChatLine
