set_option autoImplicit false

namespace ChatLine.Text

/-- The characters with the property `White_Space`. -/
def isBlank (c : Char) : Bool :=
  let code := c.toNat
  (9 ≤ code && code ≤ 13) || code = 0x20 || code = 0x85 || code = 0xA0 || code = 0x1680
    || (0x2000 ≤ code && code ≤ 0x200A) || code = 0x2028 || code = 0x2029 || code = 0x202F
    || code = 0x205F || code = 0x3000

def trimStart (text : String) : String :=
  String.ofList (text.toList.dropWhile isBlank)

def trimChars (chars : List Char) : List Char :=
  ((chars.dropWhile isBlank).reverse.dropWhile isBlank).reverse

def trim (text : String) : String :=
  String.ofList (trimChars text.toList)

/-- The pieces between the characters that `cut` picks, empty ones included. -/
def cutAt (cut : Char → Bool) : List Char → List (List Char)
  | [] => [[]]
  | c :: rest =>
    if cut c then [] :: cutAt cut rest
    else
      match cutAt cut rest with
      | [] => [[c]]
      | piece :: pieces => (c :: piece) :: pieces

/-- The words of a text: its longest runs without white space, in order. -/
def words (text : String) : List String :=
  ((cutAt isBlank text.toList).filter (fun piece => !piece.isEmpty)).map String.ofList

theorem cutAt_ne_nil (cut : Char → Bool) (chars : List Char) : cutAt cut chars ≠ [] := by
  cases chars with
  | nil => simp [cutAt]
  | cons c rest =>
    unfold cutAt
    split
    · simp
    · split <;> simp

theorem cut_eq_false_of_mem_cutAt {cut : Char → Bool} {chars piece : List Char} {c : Char}
    (piece_mem : piece ∈ cutAt cut chars) (c_mem : c ∈ piece) : cut c = false := by
  induction chars generalizing piece with
  | nil => simp_all [cutAt]
  | cons d rest ih =>
    unfold cutAt at piece_mem
    split at piece_mem
    · rcases List.mem_cons.1 piece_mem with rfl | tail_mem
      · simp at c_mem
      · exact ih tail_mem c_mem
    · next kept =>
      split at piece_mem
      · next none_left => exact absurd none_left (cutAt_ne_nil cut rest)
      · next first others split_rest =>
        rcases List.mem_cons.1 piece_mem with rfl | tail_mem
        · rcases List.mem_cons.1 c_mem with rfl | first_mem
          · simpa using kept
          · exact ih (by rw [split_rest]; simp) first_mem
        · exact ih (by rw [split_rest]; simp [tail_mem]) c_mem

end ChatLine.Text
