set_option autoImplicit false

namespace ChatLine

structure Generator where
  state : UInt64
  deriving DecidableEq, Repr

namespace Generator

def ofSeed (seed : Nat) : Generator := ⟨UInt64.ofNat seed⟩

/-- Mixes the bits of a state, so that near states give far numbers. -/
def mix (state : UInt64) : UInt64 :=
  let first := (state ^^^ (state >>> 30)) * 0xBF58476D1CE4E5B9
  let second := (first ^^^ (first >>> 27)) * 0x94D049BB133111EB
  second ^^^ (second >>> 31)

def next (generator : Generator) : UInt64 × Generator :=
  let state := generator.state + 0x9E3779B97F4A7C15
  (mix state, ⟨state⟩)

/-- A number from `low` up to but not including `high`, or `low` if there is none. -/
def draw (generator : Generator) (low high : Int) : Int × Generator :=
  let (bits, generator) := generator.next
  (low + (bits.toNat % (high - low).toNat : Nat) * (if low < high then 1 else 0), generator)

/-- What is drawn lies between its bounds. -/
theorem draw_bounds (generator : Generator) {low high : Int} (room : low < high) :
    low ≤ (generator.draw low high).1 ∧ (generator.draw low high).1 < high := by
  have below := Nat.mod_lt generator.next.1.toNat (show (high - low).toNat > 0 by omega)
  simp only [draw, room, ↓reduceIte, Int.mul_one]
  omega

end Generator

end ChatLine
