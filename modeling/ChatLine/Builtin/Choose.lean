import ChatLine.Program

set_option autoImplicit false

namespace ChatLine

inductive Comparator where
  | less
  | greater
  | atMost
  | atLeast
  | equal
  | different
  deriving DecidableEq, Repr

namespace Comparator

def ofText? : String → Option Comparator
  | "<" => some less
  | ">" => some greater
  | "<=" => some atMost
  | ">=" => some atLeast
  | "==" => some equal
  | "!=" => some different
  | _ => none

/-- Whether a comparison holds of values in some order, or in none. -/
def holds : Comparator → Option Ordering → Bool
  | less, order => order == some .lt
  | greater, order => order == some .gt
  | atMost, order => order == some .lt || order == some .eq
  | atLeast, order => order == some .gt || order == some .eq
  | equal, order => order == some .eq
  | different, order => order != some .eq

end Comparator

namespace Builtin.Choose

def documentation : Documentation :=
  (Documentation.ofPath "if").withUsage "<argument0> <comparator> <argument1> <then>"
      "Compares the two arguments and returns or executes the then-argument"
    |>.withUsage "<argument0> <comparator> <argument1> <then> <else>"
      "Same as before and return the else-arguments if the condition is false"

/-- The order of two numbers; there is none if either is no number. -/
def orderNumbers (left right : Float) : Option Ordering :=
  if left < right then some .lt
  else if left == right then some .eq
  else if right < left then some .gt
  else none

/-- The number that a text is, if white space around it does not count. -/
def number? (text : String) : Option Float :=
  Decimal.double.readChars? (Text.trimChars text.toList)

/-- The order of two texts: as numbers if both are numbers, and else by their characters. -/
def order (left right : String) : Option Ordering :=
  match number? left, number? right with
  | some first, some second => orderNumbers first second
  | _, _ => some (compare left right)

/-- Runs the branch that the comparison selects. Without a branch there is nothing to answer. -/
def run {σ : Type} (arguments : List Command) (kinds : List Kind) : Native σ Reply := do
  match arguments with
  | left :: comparator :: right :: onTrue :: others =>
    let left ← Native.text left
    let comparator ← Native.text comparator
    let right ← Native.text right
    match Comparator.ofText? comparator with
    | none => Native.fail (.native ("unknown comparison operator \"" ++ comparator ++ "\""))
    | some comparator =>
      let branch := if comparator.holds (order left right) then some onTrue else others.head?
      match branch with
      | some command => Native.call command [] kinds
      | none =>
        if kinds.contains .empty then return .nothing
        else Native.fail (.arity "if found nothing to return")
  | _ => Native.fail (.arity "expected at least 4 arguments")

def code {σ : Type} (bindings : Bindings) : Native σ Value := do
  let arguments ← Native.ofExcept (bindings.arguments 1)
  let kinds ← Native.ofExcept (bindings.kinds 2)
  return .reply (← run arguments kinds)

end Builtin.Choose

end ChatLine
