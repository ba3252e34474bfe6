import ChatLine.Proofs.Line.Rendering
import ChatLine.Proofs.Line.Writing

set_option autoImplicit false

namespace ChatLine

namespace Grammar

variable {chars rest after : List Char} {shapes others : List Shape} {left right : Option (List Char)}

/-- The same characters say the same parameters. -/
theorem Parameters.unique (parameters : Parameters chars shapes left)
    (same : Parameters chars others right) : shapes = others := by
  have first : Line (String.ofList ('!' :: chars)).toList (.call shapes) := by
    rw [String.toList_ofList]
    exact .marked parameters
  have second : Line (String.ofList ('!' :: chars)).toList (.call others) := by
    rw [String.toList_ofList]
    exact .marked same
  exact Shape.call.inj ((Expr.shape_read_of_line first).symm.trans (Expr.shape_read_of_line second))

theorem length_unescape_le (raw : List Char) : (unescape raw).length ≤ raw.length := by
  fun_induction unescape raw with
  | case1 rest ih =>
    simp only [List.length_cons]
    omega
  | case2 c rest other ih =>
    simp only [List.length_cons]
    omega
  | case3 => exact Nat.le_refl _

theorem count_unescape {c : Char} (other : c ≠ '\\') (raw : List Char) :
    (unescape raw).count c = raw.count c := by
  fun_induction unescape raw with
  | case1 rest ih => rw [List.count_cons, ih, List.count_cons_of_ne other.symm, List.count_cons]
  | case2 d rest apart ih => rw [List.count_cons, ih, List.count_cons]
  | case3 => rfl

theorem Unbroken.marked {word : List Char} (unbroken : Unbroken word rest) :
    Unbroken ('!' :: word) rest := by
  intro last present suffix
  rcases List.suffix_cons_iff.1 suffix with rfl | inner
  · intro ends
    cases ends with
    | blank _ white => exact absurd white (by decide)
  · exact unbroken last present inner

theorem EndsText.other {c d : Char} (ends : EndsText (c :: rest))
    (special : d = '!' ∨ d = '"' ∨ d = '\\') : c ≠ d := by
  rintro rfl
  cases ends with
  | blank _ white => rcases special with rfl | rfl | rfl <;> exact absurd white (by decide)
  | closing => simp at special
  | opening => simp at special

/-- A text between quotes is not the word that stands there, its quote included, with a mark before
it: either it is too short, or it has what ends the word once more than the word. -/
theorem unescape_ne_marked {raw word : List Char} (ends : EndsText after)
    (starts : raw <+: word ++ after) : unescape raw ≠ '!' :: '"' :: word := by
  intro same
  have long : word.length + 2 ≤ raw.length := by
    have length := length_unescape_le raw
    rwa [same] at length
  rcases List.prefix_or_prefix_of_prefix starts (List.prefix_append word after) with
    short | ⟨x, rfl⟩
  · have length := short.length_le
    omega
  · rw [List.prefix_append_right_inj] at starts
    cases x with
    | nil =>
      rw [List.append_nil] at long
      omega
    | cons c more =>
      obtain ⟨others, rfl⟩ := starts
      have count := count_unescape (ends.other (.inr (.inr rfl))) (word ++ c :: more)
      rw [same, List.count_cons_of_ne (ends.other (.inl rfl)).symm,
        List.count_cons_of_ne (ends.other (.inr (.inl rfl))).symm, List.count_append,
        List.count_cons_self] at count
      omega

/-- A mark that is not the mark of its call makes a difference, whatever comes after it. -/
theorem Parameters.ne_of_marked (parameters : Parameters ('!' :: rest) shapes left)
    (without : Parameters rest others right) : shapes ≠ others := by
  obtain ⟨word, after, rfl, unbroken, ends⟩ := exists_word rest
  obtain ⟨behind, _, follow⟩ := exists_parameters after
  have marked : shapes = .text (String.ofList ('!' :: word)) :: behind :=
    parameters.unique (.free (List.cons_ne_nil '!' word) (by simp) unbroken.marked ends follow)
  subst marked
  rintro rfl
  cases word with
  | nil =>
    have length := congrArg List.length (without.unique follow)
    simp at length
  | cons c word =>
    by_cases quote : c = '"'
    · subst quote
      have apart {raw : List Char} {shapes : List Shape} (starts : raw <+: word ++ after)
          (same : .text (String.ofList ('!' :: '"' :: word)) :: behind =
            Shape.text (String.ofList (unescape raw)) :: shapes) : False := by
        obtain ⟨value, -⟩ := List.cons.inj same
        exact unescape_ne_marked ends starts (String.ofList_inj.1 (Shape.text.inj value)).symm
      rcases exists_closing_quote (word ++ after) with ⟨raw, rest, whole, escaped, closes⟩ | escaped
      · obtain ⟨shapes, _, others⟩ := exists_parameters rest
        have quoted := Parameters.quoted escaped closes others
        rw [← whole] at quoted
        exact apart ⟨_, whole.symm⟩ (without.unique quoted)
      · exact apart (List.prefix_refl _) (without.unique (.quotedToEnd escaped))
    · have free := without.unique
        (.free (List.cons_ne_nil c word) (by simpa using quote) unbroken ends follow)
      simp at free

end Grammar

open Grammar

namespace Expr

variable {blanks : String}

/-- Parts that are the same but for their stretches are shown alike, and no others. -/
theorem render_inj_shape {first second : Expr} :
    first.render = second.render ↔ first.shape = second.shape := by
  rw [← String.toList_inj, toList_render, toList_render]
  exact Shape.spell_inj

theorem shape_read_blanks (white : ∀ c ∈ blanks.toList, Text.isBlank c) (present : blanks ≠ "")
    (text : String) : (read (blanks ++ text)).shape = (read ("!" ++ text)).shape := by
  obtain ⟨shapes, _, parameters⟩ := exists_parameters text.toList
  have bare : (blanks.toList ++ text.toList).head? ≠ some '!' := by
    obtain ⟨c, rest, same⟩ :=
      List.exists_cons_of_ne_nil fun none => present (String.toList_eq_nil_iff.1 none)
    have blank := white c (same ▸ List.mem_cons_self)
    rw [same, List.cons_append, List.head?_cons]
    rintro ⟨⟩
    exact absurd blank (by decide)
  have apart : Line (blanks ++ text).toList (.call shapes) := by
    rw [String.toList_append]
    exact .unmarked bare (.blanks white parameters)
  have marked : Line ("!" ++ text).toList (.call shapes) := by
    rw [String.toList_append]
    exact .marked parameters
  rw [shape_read_of_line apart, shape_read_of_line marked]

theorem shape_read_mark_iff (text : String) :
    (read ("!" ++ text)).shape = (read text).shape ↔ text.toList.head? ≠ some '!' := by
  obtain ⟨shapes, _, parameters⟩ := exists_parameters text.toList
  have marked : Line ("!" ++ text).toList (.call shapes) := by
    rw [String.toList_append]
    exact .marked parameters
  rw [shape_read_of_line marked]
  constructor
  · intro same starts
    obtain ⟨rest, whole⟩ := List.head?_eq_some_iff.1 starts
    obtain ⟨others, _, without⟩ := exists_parameters rest
    have line : Line text.toList (.call others) := by
      rw [whole]
      exact .marked without
    rw [shape_read_of_line line] at same
    rw [whole] at parameters
    exact parameters.ne_of_marked without (Shape.call.inj same)
  · exact fun bare => (shape_read_of_line (.unmarked bare parameters)).symm

end Expr

end ChatLine
