import ChatLine.Text.Quoted

set_option autoImplicit false

namespace ChatLine.Text

/-- One character of quoted text, where `plain` tells which characters stand for themselves. -/
def quoteCharBy (plain : Char → Bool) (c : Char) : List Char :=
  match shortEscape? c with
  | some mark => ['\\', mark]
  | none =>
    if plain c then [c]
    else '\\' :: 'u' :: '\x7b' :: (Nat.toDigits 16 c.toNat ++ ['\x7d'])

/-- A text in double quotes, where `plain` tells which characters stand for themselves. -/
def quoteBy (plain : Char → Bool) (text : String) : List Char :=
  '"' :: (text.toList.flatMap (quoteCharBy plain) ++ ['"'])

theorem toList_quote (text : String) : (quote text).toList = quoteBy isPlain text := by
  rw [quote, String.toList_ofList]
  rfl

def digitValue (c : Char) : Nat := if c.isDigit then c.toNat - 48 else c.toNat - 87

def hexValue (digits : List Char) : Nat :=
  digits.foldl (fun value c => 16 * value + digitValue c) 0

theorem digitValue_digitChar : ∀ digit < 16, digitValue (Nat.digitChar digit) = digit := by
  decide

theorem mem_toDigits {number : Nat} {c : Char} (inside : c ∈ Nat.toDigits 16 number) :
    ∃ digit < 16, c = Nat.digitChar digit := by
  induction number using Nat.strongRecOn with
  | _ number ih =>
    rw [Nat.toDigits_eq_if (by decide)] at inside
    split at inside
    · rename_i small
      exact ⟨number, small, List.mem_singleton.1 inside⟩
    · rename_i large
      rcases List.mem_append.1 inside with front | last
      · exact ih (number / 16) (by omega) front
      · exact ⟨number % 16, Nat.mod_lt _ (by decide), List.mem_singleton.1 last⟩

theorem hexValue_toDigits (number : Nat) : hexValue (Nat.toDigits 16 number) = number := by
  induction number using Nat.strongRecOn with
  | _ number ih =>
    rw [Nat.toDigits_eq_if (by decide)]
    split
    · rename_i small
      simp [hexValue, digitValue_digitChar number small]
    · rename_i large
      have front := ih (number / 16) (by omega)
      have last := digitValue_digitChar (number % 16) (Nat.mod_lt _ (by decide))
      rw [hexValue] at front
      rw [hexValue, List.foldl_append, front, List.foldl_cons, List.foldl_nil, last]
      omega

def markedChar : Char → Char
  | '0' => '\x00'
  | 't' => '\t'
  | 'n' => '\n'
  | 'r' => '\r'
  | mark => mark

/-- Reads one character of quoted text, and leaves what stands after it. -/
def unquoteChar? : List Char → Option (Char × List Char)
  | '\\' :: 'u' :: '\x7b' :: rest =>
    some (Char.ofNat (hexValue (rest.takeWhile (· != '\x7d'))),
      (rest.dropWhile (· != '\x7d')).tail)
  | '\\' :: mark :: rest => some (markedChar mark, rest)
  | c :: rest => some (c, rest)
  | [] => none

theorem markedChar_of_shortEscape? {c mark : Char} (short : shortEscape? c = some mark) :
    markedChar mark = c ∧ mark ≠ 'u' := by
  unfold shortEscape? at short
  split at short
  case h_7 => cases short
  all_goals
    cases short
    decide

theorem ne_of_shortEscape?_eq_none {c : Char} (long : shortEscape? c = none) :
    c ≠ '"' ∧ c ≠ '\\' := by
  constructor
  · rintro rfl
    cases long
  · rintro rfl
    cases long

/-- A character that was written is read back, whatever stands after it. -/
theorem unquoteChar?_quoteCharBy (plain : Char → Bool) (c : Char) (rest : List Char) :
    unquoteChar? (quoteCharBy plain c ++ rest) = some (c, rest) := by
  unfold quoteCharBy
  split
  · rename_i mark short
    obtain ⟨back, other⟩ := markedChar_of_shortEscape? short
    simp [unquoteChar?, other, back]
  · rename_i long
    obtain ⟨-, other⟩ := ne_of_shortEscape?_eq_none long
    split
    · simp [unquoteChar?, other]
    · have no_brace : ∀ digit < 16, (Nat.digitChar digit != '\x7d') = true := by decide
      have digits : ∀ d ∈ Nat.toDigits 16 c.toNat, (d != '\x7d') = true := by
        intro d inside
        obtain ⟨digit, small, rfl⟩ := mem_toDigits inside
        exact no_brace digit small
      simp [unquoteChar?, List.takeWhile_append_of_pos digits, List.dropWhile_append_of_pos digits,
        hexValue_toDigits]

/-- No character is written so that it could be taken for the quote at the end. -/
theorem quoteCharBy_append_ne (plain : Char → Bool) (c : Char) (rest more : List Char) :
    quoteCharBy plain c ++ rest ≠ '"' :: more := by
  unfold quoteCharBy
  split
  · simp
  · rename_i long
    obtain ⟨other, -⟩ := ne_of_shortEscape?_eq_none long
    split
    · simp [other]
    · simp

theorem quoteCharBy_append_inj {plain : Char → Bool} {c d : Char} {rest more : List Char}
    (same : quoteCharBy plain c ++ rest = quoteCharBy plain d ++ more) : c = d ∧ rest = more := by
  have read := congrArg unquoteChar? same
  rw [unquoteChar?_quoteCharBy, unquoteChar?_quoteCharBy] at read
  simpa using read

/-- What stands before the quote at the end tells all characters of the text. -/
theorem flatMap_quoteCharBy_append_inj {plain : Char → Bool} {first second rest more : List Char}
    (same : first.flatMap (quoteCharBy plain) ++ '"' :: rest =
      second.flatMap (quoteCharBy plain) ++ '"' :: more) : first = second ∧ rest = more := by
  induction first generalizing second with
  | nil =>
    cases second with
    | nil => exact ⟨rfl, List.tail_eq_of_cons_eq same⟩
    | cons d second =>
      rw [List.flatMap_cons, List.append_assoc] at same
      exact absurd same.symm (quoteCharBy_append_ne plain d _ _)
  | cons c first ih =>
    cases second with
    | nil =>
      rw [List.flatMap_cons, List.append_assoc] at same
      exact absurd same (quoteCharBy_append_ne plain c _ _)
    | cons d second =>
      rw [List.flatMap_cons, List.flatMap_cons, List.append_assoc, List.append_assoc] at same
      obtain ⟨rfl, behind⟩ := quoteCharBy_append_inj same
      obtain ⟨rfl, left⟩ := ih behind
      exact ⟨rfl, left⟩

/-- A quoted text ends where its characters say, and tells them. -/
theorem quoteBy_append_inj {plain : Char → Bool} {first second : String} {rest more : List Char}
    (same : quoteBy plain first ++ rest = quoteBy plain second ++ more) :
    first = second ∧ rest = more := by
  simp only [quoteBy, List.cons_append, List.append_assoc, List.nil_append, List.cons.injEq,
    true_and] at same
  obtain ⟨chars, left⟩ := flatMap_quoteCharBy_append_inj same
  exact ⟨String.toList_inj.1 chars, left⟩

end ChatLine.Text
