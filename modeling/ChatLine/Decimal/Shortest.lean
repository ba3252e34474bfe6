import ChatLine.Decimal.Binary

set_option autoImplicit false

namespace ChatLine.Decimal

/-- The value `0.d₁d₂… * 10 ^ point`, by its digits without zeros at either end. Zero has none. -/
structure Scientific where
  digits : List Char
  point : Int
  deriving DecidableEq, Repr

/-- Four times a significand and four times the ends of the interval of reals that round to it. The
interval is narrower below a power of two. -/
structure Rounding where
  low : Fraction
  value : Fraction
  high : Fraction
  /-- Whether the ends of the interval belong to it. -/
  closed : Bool

def Binary.rounding (b : Binary) : Rounding where
  low := Binary.toFraction
    ⟨4 * b.significand - (if b.significand = leadingBit then 1 else 2), b.exponent - 2⟩
  value := b.toFraction
  high := Binary.toFraction ⟨4 * b.significand + 2, b.exponent - 2⟩
  closed := b.significand % 2 = 0

def Fraction.less (f g : Fraction) : Bool :=
  f.numerator * g.denominator < g.numerator * f.denominator

def Rounding.contains (r : Rounding) (f : Fraction) : Bool :=
  if r.closed then !f.less r.low && !r.high.less f
  else r.low.less f && f.less r.high

/-- The least power of ten that is greater than a positive fraction, as its exponent. -/
def Fraction.magnitude (f : Fraction) : Int :=
  let guess := f.log2 * 30103 / 100000
  let reaches (power : Int) : Bool := !f.less (Fraction.scale ⟨1, 1⟩ 10 power)
  if reaches (guess + 1) then guess + 2 else if reaches guess then guess + 1 else guess

/-- The nearer of the two neighbours of the value on a decimal grid, if one is in the interval. Of two
that are equally near it is the greater. -/
def Rounding.onGrid? (r : Rounding) (power : Int) : Option Nat :=
  let scaled := r.value.scale 10 (-power)
  let below := scaled.numerator / scaled.denominator
  let rest := scaled.numerator % scaled.denominator
  let lower := r.contains (Fraction.scale ⟨below, 1⟩ 10 power)
  let upper := r.contains (Fraction.scale ⟨below + 1, 1⟩ 10 power)
  if lower && upper then some (if 2 * rest < scaled.denominator then below else below + 1)
  else if lower then some below
  else if upper then some (below + 1)
  else none

/-- Tries grids of one digit more in turn. -/
def Rounding.shortestFrom (r : Rounding) (magnitude : Int) (digits : Nat) : Nat → Nat × Int
  | 0 => ((r.value.scale 10 (digits - magnitude)).nearest, magnitude - digits)
  | tries + 1 =>
    match r.onGrid? (magnitude - digits) with
    | some found => (found, magnitude - digits)
    | none => r.shortestFrom magnitude (digits + 1) tries

def significantDigits (n : Nat) : List Char :=
  ((Nat.toDigits 10 n).reverse.dropWhile (· == '0')).reverse

def Binary.shortest (b : Binary) : Scientific :=
  if b.significand = 0 then ⟨[], 0⟩
  else
    let (found, power) := b.rounding.shortestFrom b.toFraction.magnitude 1 17
    ⟨significantDigits found, power + ((Nat.toDigits 10 found).length : Nat)⟩

end ChatLine.Decimal
