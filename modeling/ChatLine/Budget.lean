set_option autoImplicit false

namespace ChatLine

/-- The tokens left; nothing for a budget without limit. -/
structure Budget where
  remaining : Option Nat
  deriving DecidableEq, Repr, Inhabited

namespace Budget

def unlimited : Budget := ⟨none⟩

def tokens (count : Nat) : Budget := ⟨some count⟩

def take? (budget : Budget) (count : Nat) : Option Budget :=
  match budget.remaining with
  | none => some budget
  | some left => if count ≤ left then some ⟨some (left - count)⟩ else none

theorem remaining_of_take? {left count : Nat} {after : Budget}
    (taken : (tokens left).take? count = some after) :
    ∃ rest, after = tokens rest ∧ rest + count = left := by
  simp only [take?, tokens] at taken
  split at taken
  · cases taken
    exact ⟨left - count, rfl, by omega⟩
  · cases taken

end Budget

end ChatLine
