import ChatLine.Decimal.Written
import ChatLine.Kind
import ChatLine.Error
import ChatLine.Overloads
import ChatLine.Text.Quoted

set_option autoImplicit false

namespace ChatLine

/-- Something that can be called. -/
inductive Command where
  /-- A text; its call answers with it. -/
  | literal (text : String)
  | function (function : Function)
  | documented (command : Documented)
  | overloads (set : Overloads)
  /-- A stored command line and what it means. -/
  | stored (text : String) (body : Command)
  /-- A command that runs at most once; its outcome is kept in a cell. -/
  | lazy (cell : Nat) (inner : Command)
  /-- A command with its first arguments already given. -/
  | applied (callee : Command) (bound : List Command)
  /-- A group of the command tree. -/
  | group (id : Nat)
  /-- The entry of the command tree. -/
  | root
  /-- The entry of a command tree that is gone. -/
  | orphan
  /-- A command of the application, by its number. -/
  | foreign (label : String) (index : Nat)
  deriving Repr, Inhabited

/-- What a call answers. -/
inductive Reply where
  | text (text : String)
  | nothing
  | command (command : Command)
  | items (items : List String)
  /-- A value of a kind that the application adds. -/
  | extension (kind : String) (payload : String)
  deriving Repr, Inhabited

namespace Reply

def kind : Reply → Kind
  | text _ => .string
  | nothing => .empty
  | command _ => .command
  | items _ => .enumerable
  | extension kind _ => .extension kind

def fits (reply : Reply) (kinds : List Kind) : Bool :=
  kinds.contains reply.kind

def asText? : Reply → Option String
  | text content => some content
  | _ => none

def asItems? : Reply → Option (List String)
  | items contents => some contents
  | _ => none

def asCommand? : Reply → Option Command
  | command value => some value
  | _ => none

def mismatch (verb what : String) (got : Kind) (wanted : List Kind) : CommandError :=
  .noMatchingKind (what ++ " (" ++ verb ++ " " ++ got.name ++ ", wanted " ++ Kind.list wanted ++ ")")

def require (reply : Reply) (kinds : List Kind) (what : String) : Except CommandError Reply :=
  if reply.fits kinds then .ok reply else .error (mismatch "got" what reply.kind kinds)

/-- The text of a reply of a command that was asked for text. Only a reply that is no text makes it
describe the command: shared commands can have descriptions far longer than their calls. -/
def requireText (reply : Reply) (describe : Command → String) (asked : Command) :
    Except CommandError String :=
  match reply with
  | text content => .ok content
  | other => .error (mismatch "got" (describe asked) other.kind [.string])

/-- A reply as shown to a developer; `describe` says what a command is. -/
def render (describe : Command → String) : Reply → String
  | text content => "String(" ++ Text.quote content ++ ")"
  | nothing => "Empty"
  | command value => "Command(" ++ describe value ++ ")"
  | items contents => "Enumerable(" ++ Text.quoteList contents ++ ")"
  | extension kind _ => "Extension(" ++ kind ++ ")"

theorem fits_iff (reply : Reply) (kinds : List Kind) : reply.fits kinds ↔ reply.kind ∈ kinds := by
  simp [fits]

end Reply

abbrev Outcome := Except CommandError Reply

/-- What the code of a function hands back. -/
inductive Value where
  | unit
  | string (text : String)
  | int (value : Int)
  | float (value : Float)
  | bool (value : Bool)
  | list (items : List String)
  /-- A complete reply, which is delivered as it is. -/
  | reply (reply : Reply)

namespace Value

def toText? : Value → Option String
  | unit => none
  | string text => some text
  | int value => some (toString value)
  | float value => some (Decimal.plain.write value)
  | bool value => some (if value then "true" else "false")
  | list items => some (" ".intercalate items)
  | reply complete => complete.asText?

end Value

end ChatLine
