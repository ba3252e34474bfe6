import ChatLine.Proofs.Text.Quoting
import ChatLine.Proofs.Text.Words

set_option autoImplicit false

namespace ChatLine.Text

def blankCodes : List Nat :=
  [9, 10, 11, 12, 13, 0x20, 0x85, 0xA0, 0x1680, 0x2000, 0x2001, 0x2002, 0x2003, 0x2004, 0x2005,
    0x2006, 0x2007, 0x2008, 0x2009, 0x200A, 0x2028, 0x2029, 0x202F, 0x205F, 0x3000]

theorem mem_blankCodes {c : Char} (white : isBlank c) : c.toNat ∈ blankCodes := by
  simp only [isBlank, Bool.or_eq_true, Bool.and_eq_true, decide_eq_true_eq] at white
  simp only [blankCodes, List.mem_cons, List.not_mem_nil, or_false]
  omega

/-- Of the white space only the space stands for itself between quotes. -/
theorem eq_space_of_isPlain {c : Char} (plain : isPlain c) (white : isBlank c) : c = ' ' := by
  have table : ∀ code ∈ blankCodes, isPlain (Char.ofNat code) → Char.ofNat code = ' ' := by
    decide +kernel
  have same := table c.toNat (mem_blankCodes white)
  rw [Char.ofNat_toNat] at same
  exact same plain

theorem visible_of_shortEscape? {c mark : Char} (short : shortEscape? c = some mark) :
    isBlank mark = false := by
  unfold shortEscape? at short
  split at short
  case h_7 => cases short
  all_goals
    cases short
    decide

theorem visible_of_mem_quoteCharBy {c d : Char} (other : c ≠ ' ')
    (inside : d ∈ quoteCharBy isPlain c) : isBlank d = false := by
  unfold quoteCharBy at inside
  split at inside
  · rename_i mark short
    simp only [List.mem_cons, List.not_mem_nil, or_false] at inside
    rcases inside with rfl | rfl
    · rfl
    · exact visible_of_shortEscape? short
  · split at inside
    · rename_i plain
      rw [List.mem_singleton.1 inside, ← Bool.not_eq_true]
      exact fun white => other (eq_space_of_isPlain plain white)
    · have digits : ∀ digit < 16, isBlank (Nat.digitChar digit) = false := by decide
      simp only [List.mem_cons, List.mem_append, List.not_mem_nil, or_false] at inside
      rcases inside with rfl | rfl | rfl | digit | rfl
      · rfl
      · rfl
      · rfl
      · obtain ⟨value, small, rfl⟩ := mem_toDigits digit
        exact digits value small
      · rfl

theorem quoteCharBy_ne_nil (plain : Char → Bool) (c : Char) : quoteCharBy plain c ≠ [] := by
  unfold quoteCharBy
  split
  · simp
  · split <;> simp

theorem quoteCharBy_space : quoteCharBy isPlain ' ' = [' '] := by decide +kernel

/-- The characters with one space in the place of each run of spaces. -/
def squeeze : List Char → List Char
  | [] => []
  | c :: rest => if c = ' ' ∧ rest.head? = some ' ' then squeeze rest else c :: squeeze rest

theorem squeeze_cons {c : Char} (other : c ≠ ' ') (rest : List Char) :
    squeeze (c :: rest) = c :: squeeze rest := by
  rw [squeeze, if_neg (by simp [other])]

/-- A text that begins with a space has white space after its quote, and no other text has. -/
theorem gapBefore_quoted (chars after : List Char) :
    gapBefore (chars.flatMap (quoteCharBy isPlain) ++ '"' :: after) =
      if chars.head? = some ' ' then [' '] else [] := by
  cases chars with
  | nil => exact gapBefore_visible rfl after
  | cons c rest =>
    rw [List.flatMap_cons, List.append_assoc]
    by_cases space : c = ' '
    · subst space
      rw [quoteCharBy_space, if_pos List.head?_cons, gapBefore,
        if_pos ⟨rfl, wordsIn_ne_nil (c := '"') (by simp) rfl⟩]
    · obtain ⟨d, others, same⟩ := List.exists_cons_of_ne_nil (quoteCharBy_ne_nil isPlain c)
      have visible : isBlank d = false := visible_of_mem_quoteCharBy space (by simp [same])
      rw [same, List.cons_append, gapBefore_visible visible, if_neg (by simpa using space)]

/-- Between quotes one space of each run of spaces stays, at the ends as well, since the quotes are
visible. -/
theorem joined_quoted (chars after : List Char) :
    gapBefore (chars.flatMap (quoteCharBy isPlain) ++ '"' :: after) ++
        joined (chars.flatMap (quoteCharBy isPlain) ++ '"' :: after) =
      (squeeze chars).flatMap (quoteCharBy isPlain) ++ joined ('"' :: after) := by
  induction chars with
  | nil => rw [gapBefore_quoted, if_neg (by simp)]; rfl
  | cons c rest ih =>
    rw [gapBefore_quoted, List.flatMap_cons, List.append_assoc]
    by_cases space : c = ' '
    · subst space
      rw [gapBefore_quoted] at ih
      rw [quoteCharBy_space, joined_blanks_append (by simp [isBlank]),
        if_pos List.head?_cons, squeeze]
      by_cases again : rest.head? = some ' '
      · rw [if_pos again] at ih
        rw [if_pos ⟨rfl, again⟩, ih]
      · rw [if_neg again, List.nil_append] at ih
        rw [if_neg (fun both => again both.2), ih, List.flatMap_cons, quoteCharBy_space]
        rfl
    · rw [if_neg (by simpa using space),
        joined_append (quoteCharBy_ne_nil isPlain c) (fun d => visible_of_mem_quoteCharBy space), ih,
        squeeze_cons space, List.flatMap_cons, List.append_assoc]
      rfl

end ChatLine.Text
