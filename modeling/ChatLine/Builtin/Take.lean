import ChatLine.Program

set_option autoImplicit false

namespace ChatLine.Builtin.Take

def documentation : Documentation :=
  ((Documentation.ofPath "take").describedAs "Take a substring from a string.").withUsage
      "<count> <text>" "Take only <count> parts of the text"
    |>.withUsage "<count> <start> <text>" "Take <count> parts, starting with the part at <start>"
    |>.withUsage "<count> <start> <delimiter> <text>"
      "Specify another delimiter for the parts than spaces"

def parts (delimiter : Option String) (text : String) : List String :=
  match delimiter with
  | none => Text.words text
  | some delimiter => if delimiter.isEmpty then [text] else Text.pieces delimiter text

def select? (count start : Nat) (parts : List String) : Option (List String) :=
  if start + count ≤ parts.length then some ((parts.drop start).take count) else none

/-- Parts in the first kind that they can take: one text with delimiters between, or a list. -/
def answer? (delimiter : Option String) (taken : List String) (kinds : List Kind) : Option Reply :=
  kinds.findSome? fun
    | .string => some (.text ((delimiter.getD " ").intercalate taken))
    | .enumerable => some (.items taken)
    | _ => none

/-- Evaluates an argument that must be a whole number without a minus sign. -/
def natural {σ : Type} (argument : Command) (what : String) : Native σ Nat := do
  match Decimal.readNatural? (Text.trim (← Native.text argument)) with
  | some value => return value
  | none => Native.fail (.native (what ++ " must be an integer >= 0"))

/-- Answers with the parts of the text that is the last argument. -/
def deliver {σ : Type} (count start : Nat) (delimiter : Option String) (text : Command)
    (kinds : List Kind) : Native σ Reply := do
  let text ← Native.text text
  match select? count start (parts delimiter text) with
  | none => Native.fail (.native "not enough parts to take")
  | some taken =>
    match answer? delimiter taken kinds with
    | some reply => return reply
    | none => Native.fail (.noMatchingKind ("take (wanted " ++ Kind.list kinds ++ ")"))

/-- Evaluates the arguments in order: the count, the start and the delimiter as far as they are
given, and the text. -/
def run {σ : Type} (arguments : List Command) (kinds : List Kind) : Native σ Reply := do
  match arguments with
  | count :: text :: [] =>
    deliver (← natural count "count") 0 none text kinds
  | count :: start :: text :: [] =>
    let count ← natural count "count"
    deliver count (← natural start "start") none text kinds
  | count :: start :: delimiter :: text :: _ =>
    let count ← natural count "count"
    let start ← natural start "start"
    deliver count start (some (← Native.text delimiter)) text kinds
  | _ => Native.fail (.arity "expected at least 2 arguments")

def code {σ : Type} (bindings : Bindings) : Native σ Value := do
  let arguments ← Native.ofExcept (bindings.arguments 1)
  let kinds ← Native.ofExcept (bindings.kinds 2)
  return .reply (← run arguments kinds)

end ChatLine.Builtin.Take
