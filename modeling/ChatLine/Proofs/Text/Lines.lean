import ChatLine.Proofs.Text.Words
import ChatLine.Text.Pieces
import Mathlib.Data.List.DropRight
import Mathlib.Data.List.Forall2

set_option autoImplicit false

namespace ChatLine.Text

section Trimming

variable {chars blanks : List Char}

theorem trimChars_eq_rdropWhile (chars : List Char) :
    trimChars chars = (chars.dropWhile isBlank).rdropWhile isBlank := rfl

theorem trimChars_blanks_append (white : ∀ c ∈ blanks, isBlank c) (chars : List Char) :
    trimChars (blanks ++ chars) = trimChars chars := by
  unfold trimChars
  rw [List.dropWhile_append_of_pos white]

theorem trimChars_append_blanks (white : ∀ c ∈ blanks, isBlank c) (chars : List Char) :
    trimChars (chars ++ blanks) = trimChars chars := by
  have behind : ∀ c ∈ blanks.reverse, isBlank c :=
    fun c inside => white c (List.mem_reverse.1 inside)
  unfold trimChars
  rw [List.dropWhile_append]
  split
  · rename_i nothing
    rw [List.isEmpty_iff.1 nothing, List.dropWhile_eq_nil_iff.2 white]
  · rw [List.reverse_append, List.dropWhile_append_of_pos behind]

/-- Characters with something visible at both ends have no white space to lose. -/
theorem trimChars_eq_self (first : ∀ c ∈ chars.head?, isBlank c = false)
    (last : ∀ c ∈ chars.getLast?, isBlank c = false) : trimChars chars = chars := by
  have front : chars.dropWhile isBlank = chars := by
    cases chars with
    | nil => rfl
    | cons c rest => exact List.dropWhile_cons_of_neg (by simp [first c rfl])
  rw [trimChars_eq_rdropWhile, front]
  refine List.rdropWhile_eq_self_iff.2 fun present => ?_
  simp [last _ (List.getLast?_eq_getLast_of_ne_nil present)]

end Trimming

theorem toList_trim (text : String) : (trim text).toList = trimChars text.toList :=
  String.toList_ofList

/-- A text with no white space to lose ends with something visible. -/
theorem visible_of_trim {text : String} (trimmed : trim text = text) {c : Char}
    (last : text.toList.getLast? = some c) : isBlank c = false := by
  rw [← trimmed, toList_trim, trimChars_eq_rdropWhile] at last
  obtain ⟨present, rfl⟩ := List.mem_getLast?_eq_getLast last
  simpa using List.rdropWhile_last_not isBlank _ present

theorem trimChars_withoutReturn (line : List Char) :
    trimChars (withoutReturn line) = trimChars line := by
  unfold withoutReturn
  split
  · rename_i last
    obtain ⟨front, rfl⟩ := List.getLast?_eq_some_iff.1 last
    rw [List.dropLast_concat, trimChars_append_blanks (by simp [isBlank])]
  · rfl

theorem mem_of_mem_cutAt {cut : Char → Bool} {chars piece : List Char} {c : Char}
    (among : piece ∈ cutAt cut chars) (inside : c ∈ piece) : c ∈ chars := by
  induction chars generalizing piece with
  | nil => simp_all [cutAt]
  | cons d rest ih =>
    obtain ⟨first, others, pieces⟩ := List.exists_cons_of_ne_nil (cutAt_ne_nil cut rest)
    rw [pieces] at ih
    rw [cutAt, pieces] at among
    split at among
    · rcases List.mem_cons.1 among with rfl | among
      · cases inside
      · exact List.mem_cons_of_mem d (ih among inside)
    · rcases List.mem_cons.1 among with rfl | among
      · rcases List.mem_cons.1 inside with rfl | inside
        · exact List.mem_cons_self
        · exact List.mem_cons_of_mem d (ih List.mem_cons_self inside)
      · exact List.mem_cons_of_mem d (ih (List.mem_cons_of_mem first among) inside)

/-- What reading makes of a line that was written: a carriage return at its end may go. -/
def KeptAs (line read : String) : Prop :=
  trim read = trim line ∧ (line.toList.getLast? ≠ some '\r' → read = line)

/-- What reading makes of lines that were written: an empty last line is none. -/
inductive ReadAs : List String → List String → Prop where
  | nothing : ReadAs [] []
  | empty : ReadAs [""] []
  | line {line read : String} {lines others : List String} (kept : KeptAs line read)
      (rest : ReadAs lines others) : ReadAs (line :: lines) (read :: others)

theorem KeptAs.refl (line : String) : KeptAs line line := ⟨rfl, fun _ => rfl⟩

theorem keptAs_withoutReturn (line : String) :
    KeptAs line (String.ofList (withoutReturn line.toList)) := by
  refine ⟨?_, fun other => ?_⟩
  · rw [trim, trim, String.toList_ofList, trimChars_withoutReturn]
  · rw [withoutReturn, if_neg other, String.ofList_toList]

theorem readAs_linesOfPieces (lines : List String) :
    ReadAs lines ((linesOfPieces (lines.map String.toList)).map String.ofList) := by
  match lines with
  | [] => exact .nothing
  | [last] =>
    simp only [List.map_cons, List.map_nil, linesOfPieces]
    by_cases empty : last = ""
    · subst empty
      exact .empty
    · rw [if_neg (by simpa using empty), List.map_singleton, String.ofList_toList]
      exact .line (.refl last) .nothing
  | line :: next :: more =>
    exact .line (keptAs_withoutReturn line) (readAs_linesOfPieces (next :: more))

/-- Lines that are joined with line feeds are read again. -/
theorem readAs_lines {lines : List String} (single : ∀ line ∈ lines, '\n' ∉ line.toList) :
    ReadAs lines (Text.lines ("\n".intercalate lines)) := by
  cases lines with
  | nil => exact .nothing
  | cons line rest =>
    have pieces : cutAt (· == '\n') ("\n".intercalate (line :: rest)).toList =
        (line :: rest).map String.toList := by
      rw [cutAt_eq_splitOnP, String.toList_intercalate]
      exact List.splitOn_intercalate '\n' (by simpa using single) (by simp)
    rw [Text.lines, pieces]
    exact readAs_linesOfPieces (line :: rest)

theorem readAs_of_keptAs {lines read : List String} (kept : List.Forall₂ KeptAs lines read) :
    ReadAs lines read := by
  induction kept with
  | nil => exact .nothing
  | cons first _ ih => exact .line first ih

theorem ReadAs.exists_keptAs {lines others : List String} (reads : ReadAs lines others)
    {read : String} (inside : read ∈ others) : ∃ line ∈ lines, KeptAs line read := by
  induction reads with
  | nothing => cases inside
  | empty => cases inside
  | line kept _ ih =>
    rcases List.mem_cons.1 inside with rfl | inside
    · exact ⟨_, List.mem_cons_self, kept⟩
    · obtain ⟨line, among, same⟩ := ih inside
      exact ⟨line, List.mem_cons_of_mem _ among, same⟩

/-- Lines are read one by one, if the last of them is not an empty one at the end. -/
theorem ReadAs.exists_append {first rest read : List String} (reads : ReadAs (first ++ rest) read)
    (ends : rest = [] → first.getLast? ≠ some "") :
    ∃ before after, read = before ++ after ∧ List.Forall₂ KeptAs first before ∧
      ReadAs rest after := by
  induction first generalizing read with
  | nil => exact ⟨[], read, rfl, .nil, reads⟩
  | cons line first ih =>
    rw [List.cons_append] at reads
    generalize same : first ++ rest = others at reads
    cases reads with
    | empty =>
      obtain ⟨rfl, rfl⟩ := List.append_eq_nil_iff.1 same
      exact absurd rfl (ends rfl)
    | line kept tail =>
      subst same
      have endsRest : rest = [] → first.getLast? ≠ some "" := by
        intro nothing last
        exact ends nothing (by rw [List.getLast?_cons, last]; rfl)
      obtain ⟨before, after, rfl, both, last⟩ := ih tail endsRest
      exact ⟨_ :: before, after, rfl, .cons kept both, last⟩

/-- Lines without a carriage return at the end are read as they are. -/
theorem eq_of_keptAs {lines read : List String} (kept : List.Forall₂ KeptAs lines read)
    (plain : ∀ line ∈ lines, line.toList.getLast? ≠ some '\r') : read = lines := by
  induction kept with
  | nil => rfl
  | cons first _ ih =>
    rw [List.forall_mem_cons] at plain
    rw [first.2 plain.1, ih plain.2]

end ChatLine.Text
