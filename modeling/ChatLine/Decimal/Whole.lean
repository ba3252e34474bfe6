set_option autoImplicit false

namespace ChatLine.Decimal

inductive WholeError where
  /-- The text is not a sign and digits. -/
  | malformed
  /-- The digits read so far are already outside the range. -/
  | tooBig
  deriving DecidableEq, Repr

def digit? (c : Char) : Option Nat :=
  if '0' ≤ c ∧ c ≤ '9' then some (c.toNat - '0'.toNat) else none

/-- Reads digits after those that have the value `value`, as long as each value fits. -/
def readDigits (fits : Nat → Bool) (value : Nat) : List Char → Except WholeError Nat
  | [] => .ok value
  | c :: rest =>
    match digit? c with
    | none => .error .malformed
    | some digit =>
      let next := value * 10 + digit
      if fits next then readDigits fits next rest else .error .tooBig

def readUnsigned (fits : Nat → Bool) : List Char → Except WholeError Nat
  | [] => .error .malformed
  | c :: rest => readDigits fits 0 (c :: rest)

/-- The least power of two that a signed whole number of 64 bits cannot reach. -/
def integerLimit : Nat := 0x8000000000000000

def readInteger (text : String) : Except WholeError Int :=
  match text.toList with
  | '-' :: digits => (readUnsigned (· ≤ integerLimit) digits).map fun value => -Int.ofNat value
  | '+' :: digits => (readUnsigned (· < integerLimit) digits).map Int.ofNat
  | digits => (readUnsigned (· < integerLimit) digits).map Int.ofNat

def readNatural? (text : String) : Option Nat :=
  match text.toList with
  | '+' :: digits => (readUnsigned (· < 2 * integerLimit) digits).toOption
  | digits => (readUnsigned (· < 2 * integerLimit) digits).toOption

/-- Every value read so far fits, so the value of all digits does. -/
theorem fits_of_readDigits {fits : Nat → Bool} {digits : List Char} {start value : Nat}
    (start_fits : fits start) (read : readDigits fits start digits = .ok value) : fits value := by
  induction digits generalizing start with
  | nil => cases read; exact start_fits
  | cons c rest ih =>
    unfold readDigits at read
    split at read
    · cases read
    · dsimp only at read
      split at read
      · next next_fits => exact ih next_fits read
      · cases read

end ChatLine.Decimal
