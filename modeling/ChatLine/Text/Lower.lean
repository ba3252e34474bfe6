import ChatLine.Text.Cased
import ChatLine.Text.LowerMapping

set_option autoImplicit false

namespace ChatLine.Text

def lowerChar (c : Char) : Char :=
  let code := c.toNat
  match lowerRuns.find? (fun run => code ≤ run.2.1) with
  | some (first, _, step, target) =>
    if first ≤ code && (code - first) % step = 0 then Char.ofNat (target + (code - first)) else c
  | none => c

/-- Whether the first character that is not ignored for case is a cased one. -/
def meetsCased (chars : List Char) : Bool :=
  match chars.dropWhile caseIgnorable.contains with
  | c :: _ => cased.contains c
  | [] => false

/-- The lower-case form of one character between the characters before it, the nearest first, and
those after it. -/
def lowerBetween (before : List Char) (c : Char) (after : List Char) : List Char :=
  if c = 'Σ' then
    if meetsCased before && !meetsCased after then ['ς'] else ['σ']
  else if c = '\u0130' then ['i', '\u0307']
  else [lowerChar c]

/-- The lower-case form of characters that follow `before`, of which the nearest comes first. -/
def lowerAfter (before : List Char) : List Char → List Char
  | [] => []
  | c :: rest => lowerBetween before c rest ++ lowerAfter (c :: before) rest

def lower (text : String) : List Char :=
  lowerAfter [] text.toList

end ChatLine.Text
