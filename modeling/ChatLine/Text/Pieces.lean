import ChatLine.Text.Blank
import ChatLine.Text.Fingerprint

set_option autoImplicit false

namespace ChatLine.Text

/-- The pieces between the occurrences of a delimiter, found from left to right without overlap. -/
def cutAtDelimiter (delimiter : List Char) : List Char → List (List Char)
  | [] => [[]]
  | c :: rest =>
    if delimiter.isPrefixOf (c :: rest) then
      [] :: cutAtDelimiter delimiter (rest.drop (delimiter.length - 1))
    else
      match cutAtDelimiter delimiter rest with
      | [] => [[c]]
      | piece :: pieces => (c :: piece) :: pieces
termination_by chars => chars.length
decreasing_by
  · simp only [List.length_drop, List.length_cons]; omega
  · simp

/-- The pieces between the occurrences of a delimiter, found with fingerprints: `here` are those of the
characters from each place on, and `ahead` those from as much further on as the delimiter is long. -/
def cutAtPrinted (delimiter : List Char) (print weight : UInt32) (here ahead : List UInt32) :
    List Char → List (List Char)
  | [] => [[]]
  | c :: rest =>
    if here.head? = ahead.head?.map (print + weight * ·) && delimiter.isPrefixOf (c :: rest) then
      let skipped := delimiter.length - 1
      [] :: cutAtPrinted delimiter print weight (here.tail.drop skipped) (ahead.tail.drop skipped)
        (rest.drop skipped)
    else
      match cutAtPrinted delimiter print weight here.tail ahead.tail rest with
      | [] => [[c]]
      | piece :: pieces => (c :: piece) :: pieces
termination_by chars => chars.length
decreasing_by
  · simp only [List.length_drop, List.length_cons]; omega
  · simp

/-- The pieces of a text between the occurrences of a delimiter that is not empty. -/
def pieces (delimiter text : String) : List String :=
  let sought := delimiter.toList
  let prints := fingerprints text.toList
  (cutAtPrinted sought (fingerprint sought) (fingerprintWeight sought) prints
    (prints.drop sought.length) text.toList).map String.ofList

/-- A delimiter that the characters begin with has the fingerprint that is sought. -/
theorem print_eq_of_isPrefixOf {delimiter chars : List Char}
    (starts : delimiter.isPrefixOf chars) :
    (fingerprints chars).head? = ((fingerprints chars).drop delimiter.length).head?.map
      (fingerprint delimiter + fingerprintWeight delimiter * ·) := by
  obtain ⟨rest, rfl⟩ := List.isPrefixOf_iff_prefix.1 starts
  rw [drop_fingerprints (by simp), List.drop_left, head?_fingerprints, head?_fingerprints,
    fingerprint_append]
  rfl

/-- Fingerprints find every occurrence of a delimiter. -/
theorem cutAtPrinted_eq (delimiter chars : List Char) :
    cutAtPrinted delimiter (fingerprint delimiter) (fingerprintWeight delimiter)
      (fingerprints chars) ((fingerprints chars).drop delimiter.length) chars =
        cutAtDelimiter delimiter chars := by
  fun_induction cutAtDelimiter delimiter chars with
  | case1 => unfold cutAtPrinted; rfl
  | case2 c rest starts ih =>
    have skipped_le : delimiter.length - 1 ≤ rest.length := by
      have bound := (List.isPrefixOf_iff_prefix.1 starts).length_le
      simp only [List.length_cons] at bound
      omega
    have ahead : ((fingerprints (c :: rest)).drop delimiter.length).tail.drop
        (delimiter.length - 1) =
          (fingerprints (rest.drop (delimiter.length - 1))).drop delimiter.length := by
      rw [tail_drop_fingerprints, List.drop_drop, Nat.add_comm, ← List.drop_drop,
        drop_fingerprints skipped_le]
    unfold cutAtPrinted
    rw [if_pos (by simp [print_eq_of_isPrefixOf starts, starts])]
    simp only [ahead, fingerprints_cons, drop_fingerprints skipped_le, ih]
  | case3 c rest other none_left ih =>
    unfold cutAtPrinted
    rw [if_neg (by simp [other])]
    simp only [tail_drop_fingerprints, fingerprints_cons, ih, none_left]
  | case4 c rest other first others split_rest ih =>
    unfold cutAtPrinted
    rw [if_neg (by simp [other])]
    simp only [tail_drop_fingerprints, fingerprints_cons, ih, split_rest]

/-- The pieces are those between the occurrences of the delimiter. -/
theorem pieces_eq (delimiter text : String) :
    pieces delimiter text =
      (cutAtDelimiter delimiter.toList text.toList).map String.ofList := by
  simp only [pieces, cutAtPrinted_eq]

/-- The pieces of a text between single spaces, empty ones included. -/
def spaced (text : String) : List String :=
  (cutAt (· == ' ') text.toList).map String.ofList

/-- A line without the carriage return that may stand before its line feed. -/
def withoutReturn (line : List Char) : List Char :=
  if line.getLast? = some '\r' then line.dropLast else line

/-- Lines from the pieces between line feeds: each but the last was ended by a line feed, and an
empty last piece is no line. -/
def linesOfPieces : List (List Char) → List (List Char)
  | [] => []
  | [last] => if last.isEmpty then [] else [last]
  | line :: next :: more => withoutReturn line :: linesOfPieces (next :: more)

def lines (text : String) : List String :=
  (linesOfPieces (cutAt (· == '\n') text.toList)).map String.ofList

def afterStart? (beginning text : String) : Option String :=
  if beginning.toList.isPrefixOf text.toList then
    some (String.ofList (text.toList.drop beginning.length))
  else none

end ChatLine.Text
