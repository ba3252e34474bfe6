import ChatLine.Decimal.Shortest

set_option autoImplicit false

namespace ChatLine.Decimal

structure Style where
  /-- Whether a whole number ends in a point and a zero. -/
  pointed : Bool
  /-- Whether a value with this place of the point is written with a power of ten. -/
  scientific : Int → Bool

/-- Numbers as plain text: never with a power of ten, and whole numbers without a point. -/
def plain : Style := ⟨false, fun _ => false⟩

/-- Numbers as shown inside a value: below a ten-thousandth and from ten to the sixteenth on with a
power of ten, and otherwise always with a point. -/
def detailed : Style := ⟨true, fun point => point < -3 || 16 < point⟩

def positional (pointed : Bool) (s : Scientific) : List Char :=
  let count : Int := s.digits.length
  if s.digits.isEmpty then if pointed then ['0', '.', '0'] else ['0']
  else if s.point ≤ 0 then '0' :: '.' :: (List.replicate (-s.point).toNat '0' ++ s.digits)
  else if count ≤ s.point then
    s.digits ++ List.replicate (s.point - count).toNat '0' ++ (if pointed then ['.', '0'] else [])
  else s.digits.take s.point.toNat ++ '.' :: s.digits.drop s.point.toNat

def withPower (s : Scientific) : List Char :=
  let others := s.digits.drop 1
  s.digits.take 1 ++ (if others.isEmpty then [] else '.' :: others)
    ++ 'e' :: (toString (s.point - 1)).toList

def Style.scientificText (style : Style) (s : Scientific) : List Char :=
  if !s.digits.isEmpty && style.scientific s.point then withPower s
  else positional style.pointed s

def Style.write (style : Style) (x : Float) : String :=
  match Parts.ofFloat x with
  | .nan => "NaN"
  | .infinite negative => if negative then "-inf" else "inf"
  | .finite negative magnitude =>
    String.ofList ((if negative then ['-'] else []) ++ style.scientificText magnitude.shortest)

end ChatLine.Decimal
