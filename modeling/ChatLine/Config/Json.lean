set_option autoImplicit false

namespace ChatLine

/-- A JSON value. -/
inductive Json where
  | null
  | bool (value : Bool)
  /-- A number without a sign, a point or a power. -/
  | natural (value : Nat)
  /-- Any other number. -/
  | number
  /-- A string with its text. One that escapes half of a character is well formed, but has none. -/
  | string (text : Option String)
  | array (elements : List Json)
  | object (members : List (Option String × Json))
  deriving Repr, Inhabited

namespace Json

def skipSpace (chars : List Char) : List Char :=
  chars.dropWhile fun c => c = ' ' || c = '\n' || c = '\t' || c = '\r'

def isDigit (c : Char) : Bool :=
  '0' ≤ c && c ≤ '9'

def hexDigit? (c : Char) : Option Nat :=
  if isDigit c then some (c.toNat - '0'.toNat)
  else if 'a' ≤ c ∧ c ≤ 'f' then some (c.toNat - 'a'.toNat + 10)
  else if 'A' ≤ c ∧ c ≤ 'F' then some (c.toNat - 'A'.toNat + 10)
  else none

def readUnit? : List Char → Option (Nat × List Char)
  | a :: b :: c :: d :: rest =>
    match hexDigit? a, hexDigit? b, hexDigit? c, hexDigit? d with
    | some a, some b, some c, some d => some (((a * 16 + b) * 16 + c) * 16 + d, rest)
    | _, _, _, _ => none
  | _ => none

/-- The character that a backslash and another character stand for. -/
def escaped? : Char → Option Char
  | '"' => some '"'
  | '\\' => some '\\'
  | '/' => some '/'
  | 'b' => some '\x08'
  | 'f' => some '\x0c'
  | 'n' => some '\n'
  | 'r' => some '\r'
  | 't' => some '\t'
  | _ => none

inductive Piece where
  | char (c : Char)
  | unit (value : Nat)

def readPieces? (fuel : Nat) (chars : List Char) : Option (List Piece × List Char) :=
  match fuel with
  | 0 => none
  | fuel + 1 =>
    match chars with
    | [] => none
    | '"' :: rest => some ([], rest)
    | '\\' :: 'u' :: rest => do
      let (unit, rest) ← readUnit? rest
      let (pieces, rest) ← readPieces? fuel rest
      return (.unit unit :: pieces, rest)
    | '\\' :: c :: rest => do
      let c ← escaped? c
      let (pieces, rest) ← readPieces? fuel rest
      return (.char c :: pieces, rest)
    | c :: rest =>
      if c.toNat < 0x20 ∨ c = '\\' then none
      else do
        let (pieces, rest) ← readPieces? fuel rest
        return (.char c :: pieces, rest)

/-- The characters that pieces stand for. Halves of a character must meet. -/
def charsOf? : List Piece → Option (List Char)
  | [] => some []
  | .char c :: rest => (charsOf? rest).map (c :: ·)
  | .unit high :: .unit low :: rest =>
    if 0xD800 ≤ high ∧ high < 0xDC00 then
      if 0xDC00 ≤ low ∧ low < 0xE000 then
        let code := 0x10000 + (high - 0xD800) * 0x400 + (low - 0xDC00)
        (charsOf? rest).map (Char.ofNat code :: ·)
      else none
    else if 0xDC00 ≤ high ∧ high < 0xE000 then none
    else (charsOf? (.unit low :: rest)).map (Char.ofNat high :: ·)
  | .unit unit :: rest =>
    if 0xD800 ≤ unit ∧ unit < 0xE000 then none
    else (charsOf? rest).map (Char.ofNat unit :: ·)

def readString? (chars : List Char) : Option (Option String × List Char) := do
  let (pieces, rest) ← readPieces? (chars.length + 1) chars
  return ((charsOf? pieces).map String.ofList, rest)

def skipDigits? (chars : List Char) : Option (List Char) :=
  match chars with
  | c :: rest => if isDigit c then some (rest.dropWhile isDigit) else none
  | [] => none

def skipFraction? : List Char → Option (List Char)
  | '.' :: rest => skipDigits? rest
  | chars => some chars

/-- Leaves the characters after a power of ten, if there is one. -/
def skipPower? : List Char → Option (List Char)
  | c :: rest =>
    if c = 'e' ∨ c = 'E' then
      match rest with
      | '+' :: digits => skipDigits? digits
      | '-' :: digits => skipDigits? digits
      | digits => skipDigits? digits
    else some (c :: rest)
  | [] => some []

/-- Reads the digits before the point: a zero alone, or digits that do not begin with one. -/
def readWhole? : List Char → Option (Nat × List Char)
  | '0' :: rest => some (0, rest)
  | c :: rest =>
    if isDigit c then
      let digits := (c :: rest).takeWhile isDigit
      let value := digits.foldl (fun value d => value * 10 + (d.toNat - '0'.toNat)) 0
      some (value, (c :: rest).dropWhile isDigit)
    else none
  | [] => none

def readNumber? (chars : List Char) : Option (Json × List Char) := do
  let digits := match chars with
    | '-' :: rest => rest
    | other => other
  let (whole, afterWhole) ← readWhole? digits
  let rest ← skipPower? (← skipFraction? afterWhole)
  let plain := chars.head? != some '-' && rest.length == afterWhole.length
  return (if plain then .natural whole else .number, rest)

mutual

/-- Reads a value, down to a depth that `fuel` bounds. -/
def readValue? (fuel : Nat) (chars : List Char) : Option (Json × List Char) :=
  match fuel with
  | 0 => none
  | fuel + 1 =>
    match skipSpace chars with
    | 'n' :: 'u' :: 'l' :: 'l' :: rest => some (.null, rest)
    | 't' :: 'r' :: 'u' :: 'e' :: rest => some (.bool true, rest)
    | 'f' :: 'a' :: 'l' :: 's' :: 'e' :: rest => some (.bool false, rest)
    | '"' :: rest => (readString? rest).map fun (text, rest) => (.string text, rest)
    | '[' :: rest =>
      match skipSpace rest with
      | ']' :: rest => some (.array [], rest)
      | first => (readElements? fuel first).map fun (elements, rest) => (.array elements, rest)
    | '\x7b' :: rest =>
      match skipSpace rest with
      | '\x7d' :: rest => some (.object [], rest)
      | first => (readMembers? fuel first).map fun (members, rest) => (.object members, rest)
    | other => readNumber? other

def readElements? (fuel : Nat) (chars : List Char) : Option (List Json × List Char) :=
  match fuel with
  | 0 => none
  | fuel + 1 => do
    let (element, rest) ← readValue? fuel chars
    match skipSpace rest with
    | ']' :: rest => return ([element], rest)
    | ',' :: rest =>
      let (elements, rest) ← readElements? fuel rest
      return (element :: elements, rest)
    | _ => none

def readMembers? (fuel : Nat) (chars : List Char) : Option (List (Option String × Json) × List Char) :=
  match fuel with
  | 0 => none
  | fuel + 1 =>
    match skipSpace chars with
    | '"' :: rest => do
      let (key, rest) ← readString? rest
      match skipSpace rest with
      | ':' :: rest =>
        let (value, rest) ← readValue? fuel rest
        match skipSpace rest with
        | '\x7d' :: rest => return ([(key, value)], rest)
        | ',' :: rest =>
          let (members, rest) ← readMembers? fuel rest
          return ((key, value) :: members, rest)
        | _ => none
      | _ => none
    | _ => none

end

def read? (text : String) : Option Json := do
  let chars := text.toList
  let (value, rest) ← readValue? (2 * chars.length + 2) chars
  if (skipSpace rest).isEmpty then return value else none

end Json

end ChatLine
