import ChatLine.Text.Blank

set_option autoImplicit false

namespace ChatLine.Scan

def commandMark : Char := '!'

/-- A text at the start of some characters: its value, the number of characters that it covers, and
the characters after it. -/
structure Scanned where
  value : List Char
  length : Nat
  rest : List Char

def Scanned.cons (c : Char) (scan : Scanned) : Scanned :=
  ⟨c :: scan.value, scan.length + 1, scan.rest⟩

def opensCall : List Char → Bool
  | '(' :: '!' :: _ => true
  | _ => false

/-- Whether a free text ends before the character `c` with `rest` after it. -/
def endsFree (c : Char) (rest : List Char) : Bool :=
  c = ')' || Text.isBlank c || opensCall (c :: rest)

/-- A free text: it runs to white space, to a closing parenthesis or to the opening of a call. -/
def scanFree : List Char → Scanned
  | [] => ⟨[], 0, []⟩
  | c :: rest => if endsFree c rest then ⟨[], 0, c :: rest⟩ else (scanFree rest).cons c

/-- The rest of a quoted text up to its closing quote, after the characters of `value`, of which the
last comes first. A quote ends it unless the character before was a backslash, which then gives way to
the quote. -/
def scanQuoted (value : List Char) (length : Nat) (escaped : Bool) : List Char → Scanned
  | [] => ⟨value.reverse, length, []⟩
  | c :: rest =>
    if c = '"' then
      if escaped then scanQuoted ('"' :: value.tail) (length + 1) false rest
      else ⟨value.reverse, length, c :: rest⟩
    else scanQuoted (c :: value) (length + 1) (c = '\\') rest

theorem scanFree_rest_length (chars : List Char) :
    (scanFree chars).rest.length ≤ chars.length := by
  fun_induction scanFree chars with
  | case1 => simp
  | case2 => simp
  | case3 c rest _ ih =>
    simp only [Scanned.cons, List.length_cons]
    omega

/-- A character that ends no free text makes the free text at it longer than nothing. -/
theorem scanFree_rest_length_lt {c : Char} {rest : List Char} (goes_on : ¬ endsFree c rest) :
    (scanFree (c :: rest)).rest.length < (c :: rest).length := by
  have shorter := scanFree_rest_length rest
  simp only [scanFree, goes_on, Bool.false_eq_true, ↓reduceIte, Scanned.cons, List.length_cons]
  omega

theorem scanQuoted_rest_length (value : List Char) (length : Nat) (escaped : Bool)
    (chars : List Char) : (scanQuoted value length escaped chars).rest.length ≤ chars.length := by
  fun_induction scanQuoted value length escaped chars with
  | case1 => simp
  | case2 => simp_all; omega
  | case3 => simp
  | case4 => simp_all; omega

end ChatLine.Scan
