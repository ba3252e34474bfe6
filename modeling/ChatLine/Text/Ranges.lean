set_option autoImplicit false

namespace ChatLine.Text

abbrev Ranges := List (Nat × Nat)

/-- Whether a character is in the set. The first run that does not end before it decides. -/
def Ranges.contains (ranges : Ranges) (c : Char) : Bool :=
  match ranges.find? (fun range => c.toNat ≤ range.2) with
  | some range => range.1 ≤ c.toNat
  | none => false

end ChatLine.Text
