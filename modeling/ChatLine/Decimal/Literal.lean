import ChatLine.Decimal.Binary
import ChatLine.Decimal.Numeral
import ChatLine.Decimal.Whole

set_option autoImplicit false

namespace ChatLine.Decimal

/-- What a floating point text stands for, before rounding. -/
inductive Literal where
  | nan
  | infinite
  /-- The value `digits * 10 ^ exponent`. -/
  | finite (digits : Nat) (exponent : Int)
  deriving DecidableEq, Repr

/-- Reads the digits at the start, after those of `seen`, of which the last comes first, and leaves the
rest. -/
def takeDigits (seen : List Nat) : List Char → List Nat × List Char
  | [] => (seen, [])
  | c :: rest =>
    match digit? c with
    | some digit => takeDigits (digit :: seen) rest
    | none => (seen, c :: rest)

def takeSign : List Char → Bool × List Char
  | '-' :: rest => (true, rest)
  | '+' :: rest => (false, rest)
  | chars => (false, chars)

def powerLimit : Nat := 0x10000

/-- Reads the digits of a power of ten after those of `power`. Once the power has reached its limit,
further digits change nothing. -/
def readPowerDigits? (power : Nat) : List Char → Option Nat
  | [] => some power
  | c :: rest =>
    match digit? c with
    | none => none
    | some digit =>
      readPowerDigits? (if power < powerLimit then power * 10 + digit else power) rest

def readPower? : List Char → Option Int
  | [] => some 0
  | c :: rest =>
    if c = 'e' ∨ c = 'E' then
      let (negative, digits) := takeSign rest
      if digits.isEmpty then none
      else
        (readPowerDigits? 0 digits).map fun power =>
          if negative then -Int.ofNat power else Int.ofNat power
    else none

/-- Reads the digits of a number with an optional point, the last one first; one digit at least stands
on either side of it. Tells also how many stand after the point. -/
def takeMantissa (chars : List Char) : List Nat × Nat × List Char :=
  match takeDigits [] chars with
  | (whole, '.' :: rest) =>
    let (all, left) := takeDigits whole rest
    (all, all.length - whole.length, left)
  | (whole, left) => (whole, 0, left)

def smallLetter (c : Char) : Char :=
  if 'A' ≤ c ∧ c ≤ 'Z' then Char.ofNat (c.toNat + 32) else c

/-- Whether characters are those of a word, whatever the case of their letters. -/
def isWord : List Char → List Char → Bool
  | [], [] => true
  | letter :: letters, c :: rest => smallLetter c = letter && isWord letters rest
  | _, _ => false

def readWord? (chars : List Char) : Option Literal :=
  if isWord "inf".toList chars || isWord "infinity".toList chars then some .infinite
  else if isWord "nan".toList chars then some .nan
  else none

def readMagnitude? (chars : List Char) : Option Literal :=
  let (digits, places, rest) := takeMantissa chars
  if digits.isEmpty then readWord? chars
  else (readPower? rest).map fun power => .finite (numeral 10 digits) (power - Int.ofNat places)

/-- The bits of the double that is nearest to `digits * 10 ^ exponent` among the values of a format.
A power beyond four hundred places is decided without being computed. -/
def Format.bitsOf (format : Format) (digits : Nat) (exponent : Int) : Nat :=
  if digits = 0 then 0
  else if 400 < exponent then infinityBits
  else if exponent + ((digits.log2 + 1) / 3 + 1 : Nat) < -400 then 0
  else
    match format.round? (Fraction.scale ⟨digits, 1⟩ 10 exponent) with
    | none => infinityBits
    | some value =>
      match double.round? value.toFraction with
      | none => infinityBits
      | some wide => wide.toBits

/-- Reads characters as the nearest value of a format, held in a double. -/
def Format.readChars? (format : Format) (chars : List Char) : Option Float :=
  let (negative, chars) := takeSign chars
  (readMagnitude? chars).map fun
    | .nan => floatOfBits negative nanBits
    | .infinite => floatOfBits negative infinityBits
    | .finite digits exponent => floatOfBits negative (format.bitsOf digits exponent)

def Format.read? (format : Format) (text : String) : Option Float :=
  format.readChars? text.toList

end ChatLine.Decimal
