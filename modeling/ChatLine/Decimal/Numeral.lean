set_option autoImplicit false

namespace ChatLine.Decimal

/-- Joins neighbouring digits, of which the lowest comes first, to digits of the square of the base. -/
def joinPairs (base : Nat) : List Nat → List Nat
  | low :: high :: rest => (low + base * high) :: joinPairs base rest
  | short => short

theorem joinPairs_length_le (base : Nat) (digits : List Nat) :
    (joinPairs base digits).length ≤ digits.length := by
  fun_induction joinPairs base digits with
  | case1 low high rest ih =>
    simp only [List.length_cons]
    omega
  | case2 => exact Nat.le_refl _

/-- The number that digits write in a base, the lowest digit first. -/
def numeral (base : Nat) : List Nat → Nat
  | [] => 0
  | [digit] => digit
  | low :: high :: rest => numeral (base * base) (joinPairs base (low :: high :: rest))
termination_by digits => digits.length
decreasing_by
  have shorter := joinPairs_length_le base rest
  simp only [joinPairs, List.length_cons]
  omega

end ChatLine.Decimal
