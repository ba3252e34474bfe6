import ChatLine.Context
import ChatLine.Decimal.Literal
import ChatLine.Text.Blank

set_option autoImplicit false

namespace ChatLine

/-- What a formal parameter is bound to. The argument of a plain parameter may be missing. -/
inductive Binding where
  | context
  | arguments (arguments : List Command)
  | kinds (kinds : List Kind)
  | text (value : Option String)
  | int (value : Option Int)
  | float (value : Option Float)
  | tail (items : List String)

namespace Binding

def render : Binding → String
  | context => "Context"
  | arguments values => "Arguments(" ++ toString values.length ++ ")"
  | kinds wanted => "Kinds(" ++ Kind.list wanted ++ ")"
  | text value => "Str(" ++ Context.renderOption (value.map Text.quote) ++ ")"
  | int value => "Int(" ++ Context.renderOption (value.map toString) ++ ")"
  | float value => "Float(" ++ Context.renderOption (value.map Decimal.detailed.write) ++ ")"
  | tail items => "Array(" ++ Text.quoteList items ++ ")"

def absent : ParamType → Binding
  | .int => int none
  | .float => float none
  | .double => float none
  | .string => text none
  | .other _ => text none

def unreadable (argument : String) (type : ParamType) : CommandError :=
  .typeCoercion argument type.name

/-- Reads an argument as a type. White space around a number does not count. -/
def coerce (argument : String) (type : ParamType) : Except CommandError Binding :=
  match type with
  | .int =>
    match Decimal.readInteger (Text.trim argument) with
    | .ok value => .ok (int (some value))
    | .error .tooBig => .error (.numberTooBig argument)
    | .error .malformed => .error (unreadable argument type)
  | .float =>
    match Decimal.single.read? (Text.trim argument) with
    | some value => .ok (float (some value))
    | none => .error (unreadable argument type)
  | .double =>
    match Decimal.double.read? (Text.trim argument) with
    | some value => .ok (float (some value))
    | none => .error (unreadable argument type)
  | .string => .ok (text (some argument))
  | .other _ => .ok (text (some argument))

end Binding

abbrev Bindings := List Binding

namespace Bindings

def lookup (bindings : Bindings) (index : Nat) : Except CommandError Binding :=
  match bindings[index]? with
  | some binding => .ok binding
  | none => .error (.internal ("no parameter at index " ++ toString index))

def mismatch (index : Nat) (wanted : String) : CommandError :=
  .internal ("parameter " ++ toString index ++ " is not bound as " ++ wanted)

def demand {α : Type} (index : Nat) : Option α → Except CommandError α
  | some value => .ok value
  | none => .error (.arity ("missing argument " ++ toString index))

def text? (bindings : Bindings) (index : Nat) : Except CommandError (Option String) := do
  match ← bindings.lookup index with
  | .text value => return value
  | _ => throw (mismatch index "string")

def text (bindings : Bindings) (index : Nat) : Except CommandError String := do
  demand index (← bindings.text? index)

def int? (bindings : Bindings) (index : Nat) : Except CommandError (Option Int) := do
  match ← bindings.lookup index with
  | .int value => return value
  | _ => throw (mismatch index "int")

def int (bindings : Bindings) (index : Nat) : Except CommandError Int := do
  demand index (← bindings.int? index)

def float? (bindings : Bindings) (index : Nat) : Except CommandError (Option Float) := do
  match ← bindings.lookup index with
  | .float value => return value
  | _ => throw (mismatch index "float")

def float (bindings : Bindings) (index : Nat) : Except CommandError Float := do
  demand index (← bindings.float? index)

def tail (bindings : Bindings) (index : Nat) : Except CommandError (List String) := do
  match ← bindings.lookup index with
  | .tail items => return items
  | _ => throw (mismatch index "array")

def arguments (bindings : Bindings) (index : Nat) : Except CommandError (List Command) := do
  match ← bindings.lookup index with
  | .arguments values => return values
  | _ => throw (mismatch index "arguments")

def kinds (bindings : Bindings) (index : Nat) : Except CommandError (List Kind) := do
  match ← bindings.lookup index with
  | .kinds wanted => return wanted
  | _ => throw (mismatch index "kinds")

end Bindings

end ChatLine
