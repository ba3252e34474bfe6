import ChatLine.Text.Blank

set_option autoImplicit false

namespace ChatLine.Text

def wordsIn (chars : List Char) : List (List Char) :=
  (cutAt isBlank chars).filter fun piece => !piece.isEmpty

theorem words_eq (text : String) : words text = (wordsIn text.toList).map String.ofList := rfl

theorem cutAt_eq_splitOnP (cut : Char → Bool) (chars : List Char) :
    cutAt cut chars = chars.splitOnP cut := by
  induction chars with
  | nil => rfl
  | cons c rest ih =>
    rw [List.splitOnP_cons_eq_if_modifyHead, cutAt, ih]
    by_cases here : cut c
    · simp only [here, ↓reduceIte]
    · simp only [here, Bool.false_eq_true, ↓reduceIte]
      cases same : rest.splitOnP cut with
      | nil => exact absurd same (List.splitOnP_ne_nil cut rest)
      | cons piece pieces => rfl

theorem cutAt_cons_visible {c : Char} (visible : isBlank c = false) {rest piece : List Char}
    {pieces : List (List Char)} (same : cutAt isBlank rest = piece :: pieces) :
    cutAt isBlank (c :: rest) = (c :: piece) :: pieces := by
  rw [cutAt, if_neg (by simp [visible]), same]

theorem wordsIn_append_blank {c : Char} (white : isBlank c) (first rest : List Char) :
    wordsIn (first ++ c :: rest) = wordsIn first ++ wordsIn rest := by
  simp only [wordsIn, cutAt_eq_splitOnP, List.splitOnP_append_cons first rest white,
    List.filter_append]

theorem wordsIn_blank {c : Char} (white : isBlank c) (rest : List Char) :
    wordsIn (c :: rest) = wordsIn rest :=
  wordsIn_append_blank white [] rest

theorem wordsIn_visible {c : Char} (visible : isBlank c = false) {rest piece : List Char}
    {pieces : List (List Char)} (same : cutAt isBlank rest = piece :: pieces) :
    wordsIn (c :: rest) = (c :: piece) :: pieces.filter fun piece => !piece.isEmpty := by
  rw [wordsIn, cutAt_cons_visible visible same, List.filter_cons_of_pos (by simp)]

theorem wordsIn_single {c : Char} (visible : isBlank c = false) : wordsIn [c] = [[c]] := by
  have nothing : cutAt isBlank [] = [[]] := rfl
  exact wordsIn_visible visible nothing

theorem wordsIn_visible_blank {c d : Char} (visible : isBlank c = false) (white : isBlank d)
    (rest : List Char) : wordsIn (c :: d :: rest) = [c] :: wordsIn rest := by
  rw [← List.singleton_append (x := c), wordsIn_append_blank white, wordsIn_single visible]
  rfl

theorem wordsIn_blanks_append {blanks : List Char} (white : ∀ c ∈ blanks, isBlank c)
    (rest : List Char) : wordsIn (blanks ++ rest) = wordsIn rest := by
  induction blanks with
  | nil => rfl
  | cons c blanks ih =>
    rw [List.forall_mem_cons] at white
    exact (wordsIn_blank white.1 (blanks ++ rest)).trans (ih white.2)

theorem wordsIn_blanks {blanks : List Char} (white : ∀ c ∈ blanks, isBlank c) :
    wordsIn blanks = [] := by
  have same := wordsIn_blanks_append white []
  rwa [List.append_nil] at same

theorem wordsIn_ne_nil {c : Char} {chars : List Char} (inside : c ∈ chars)
    (visible : isBlank c = false) : wordsIn chars ≠ [] := by
  induction chars with
  | nil => cases inside
  | cons d rest ih =>
    cases white : isBlank d with
    | true =>
      rw [wordsIn_blank white]
      rcases List.mem_cons.1 inside with rfl | later
      · rw [visible] at white
        cases white
      · exact ih later
    | false =>
      obtain ⟨piece, pieces, same⟩ := List.exists_cons_of_ne_nil (cutAt_ne_nil isBlank rest)
      rw [wordsIn_visible white same]
      exact List.cons_ne_nil _ _

def joined (chars : List Char) : List Char := [' '].intercalate (wordsIn chars)

theorem joined_blanks_append {blanks : List Char} (white : ∀ c ∈ blanks, isBlank c)
    (rest : List Char) : joined (blanks ++ rest) = joined rest := by
  rw [joined, joined, wordsIn_blanks_append white]

theorem joined_blanks {blanks : List Char} (white : ∀ c ∈ blanks, isBlank c) :
    joined blanks = [] := by
  rw [joined, wordsIn_blanks white]
  rfl

/-- What is left of the white space at the start of some characters when something visible stands
before it: one space, if something visible follows as well. -/
def gapBefore (chars : List Char) : List Char :=
  if chars.head?.any isBlank ∧ wordsIn chars ≠ [] then [' '] else []

theorem gapBefore_visible {c : Char} (visible : isBlank c = false) (rest : List Char) :
    gapBefore (c :: rest) = [] := by
  rw [gapBefore, if_neg (by simp [visible])]

theorem gapBefore_blanks {blanks : List Char} (white : ∀ c ∈ blanks, isBlank c) :
    gapBefore blanks = [] := by
  rw [gapBefore, if_neg (by simp [wordsIn_blanks white])]

theorem gapBefore_blanks_append {blanks : List Char} (white : ∀ c ∈ blanks, isBlank c)
    {c : Char} (visible : isBlank c = false) (rest : List Char) :
    gapBefore (blanks ++ c :: rest) = if blanks.isEmpty then [] else [' '] := by
  cases blanks with
  | nil => exact gapBefore_visible visible rest
  | cons d blanks =>
    have more : wordsIn (d :: blanks ++ c :: rest) ≠ [] := wordsIn_ne_nil (by simp) visible
    rw [gapBefore, if_pos ⟨by simp [white], more⟩]
    rfl

/-- What is visible stays, and one space of the white space after it. -/
theorem joined_visible {c : Char} (visible : isBlank c = false) (rest : List Char) :
    joined (c :: rest) = c :: (gapBefore rest ++ joined rest) := by
  cases rest with
  | nil =>
    rw [joined, wordsIn_single visible]
    rfl
  | cons d rest =>
    cases white : isBlank d with
    | true =>
      rw [joined, joined, gapBefore, wordsIn_visible_blank visible white, wordsIn_blank white]
      by_cases more : wordsIn rest = []
      · rw [more, if_neg (by simp)]
        rfl
      · rw [List.intercalate_cons_of_ne_nil more, if_pos ⟨by simp [white], more⟩]
        rfl
    | false =>
      obtain ⟨piece, pieces, same⟩ := List.exists_cons_of_ne_nil (cutAt_ne_nil isBlank rest)
      rw [gapBefore_visible white, joined, joined,
        wordsIn_visible visible (cutAt_cons_visible white same), wordsIn_visible white same,
        List.intercalate_cons_cons_left]
      rfl

theorem joined_append {word : List Char} (present : word ≠ [])
    (visible : ∀ c ∈ word, isBlank c = false) (rest : List Char) :
    joined (word ++ rest) = word ++ (gapBefore rest ++ joined rest) := by
  induction word with
  | nil => exact absurd rfl present
  | cons c word ih =>
    rw [List.forall_mem_cons] at visible
    rw [List.cons_append, joined_visible visible.1]
    cases word with
    | nil => rfl
    | cons d word =>
      have next : isBlank d = false := visible.2 d List.mem_cons_self
      rw [ih (List.cons_ne_nil d word) visible.2, List.cons_append, gapBefore_visible next]
      rfl

end ChatLine.Text
