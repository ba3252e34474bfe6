set_option autoImplicit false

namespace ChatLine.Decimal

/-- A binary floating point format, by the bits of its significand and the exponents of the last bit
of its smallest and of its greatest values. -/
structure Format where
  precision : Nat
  lowest : Int
  highest : Int

def single : Format := ⟨24, -149, 104⟩

def double : Format := ⟨53, -1074, 971⟩

/-- The value `significand * 2 ^ exponent`. -/
structure Binary where
  significand : Nat
  exponent : Int
  deriving DecidableEq, Repr

structure Fraction where
  numerator : Nat
  denominator : Nat
  deriving DecidableEq, Repr

def Fraction.scale (f : Fraction) (base : Nat) (power : Int) : Fraction :=
  ⟨f.numerator * base.pow power.toNat, f.denominator * base.pow (-power).toNat⟩

def Binary.toFraction (b : Binary) : Fraction :=
  Fraction.scale ⟨b.significand, 1⟩ 2 b.exponent

/-- The whole number nearest to a fraction, the even one of two. -/
def Fraction.nearest (f : Fraction) : Nat :=
  let quotient := f.numerator / f.denominator
  let rest := f.numerator % f.denominator
  if f.denominator < 2 * rest ∨ (2 * rest = f.denominator ∧ quotient % 2 = 1) then quotient + 1
  else quotient

/-- The exponent of the greatest power of two that is at most the fraction. -/
def Fraction.log2 (f : Fraction) : Int :=
  let guess : Int := (f.numerator.log2 : Int) - (f.denominator.log2 : Int)
  let scaled := f.scale 2 (-guess)
  if scaled.denominator ≤ scaled.numerator then guess else guess - 1

/-- The value of the format nearest to a fraction, the one with the even significand of two; nothing
when it is beyond the greatest. -/
def Format.round? (format : Format) (f : Fraction) : Option Binary :=
  if f.numerator = 0 then some ⟨0, format.lowest⟩
  else
    let exponent := max (f.log2 - (format.precision - 1 : Nat)) format.lowest
    let significand := (f.scale 2 (-exponent)).nearest
    let value : Binary :=
      if significand = Nat.pow 2 format.precision then
        ⟨Nat.pow 2 (format.precision - 1), exponent + 1⟩
      else ⟨significand, exponent⟩
    if format.highest < value.exponent then none else some value

def signBit : Nat := 0x8000000000000000

/-- The leading bit of a significand, which is not stored. -/
def leadingBit : Nat := 0x10000000000000

/-- The bits of a double that is not negative: one with a leading bit is stored without it, and its
exponent counts from one. -/
def Binary.toBits (b : Binary) : Nat :=
  if b.significand < leadingBit then b.significand
  else (b.exponent + 1075).toNat * leadingBit + (b.significand - leadingBit)

def infinityBits : Nat := 0x7FF0000000000000

def nanBits : Nat := 0x7FF8000000000000

def floatOfBits (negative : Bool) (bits : Nat) : Float :=
  Float.ofBits (UInt64.ofNat (if negative then bits + signBit else bits))

inductive Parts where
  | nan
  | infinite (negative : Bool)
  | finite (negative : Bool) (magnitude : Binary)
  deriving DecidableEq, Repr

def Parts.ofBits (bits : Nat) : Parts :=
  let negative : Bool := signBit ≤ bits
  let exponent : Nat := bits / leadingBit % 2048
  let fraction : Nat := bits % leadingBit
  if exponent = 2047 then
    if fraction = 0 then .infinite negative else .nan
  else if exponent = 0 then .finite negative ⟨fraction, -1074⟩
  else .finite negative ⟨fraction + leadingBit, (exponent : Int) - 1075⟩

def Parts.ofFloat (x : Float) : Parts :=
  Parts.ofBits x.toBits.toNat

end ChatLine.Decimal
