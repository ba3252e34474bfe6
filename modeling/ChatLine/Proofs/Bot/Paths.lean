import ChatLine.Bot.Basic
import Mathlib.Logic.Function.Basic

set_option autoImplicit false

namespace ChatLine

namespace Text

/-- The pieces with the character between them at which they were cut are what was cut. -/
theorem intercalate_cutAt (separator : Char) (chars : List Char) :
    [separator].intercalate (cutAt (· == separator) chars) = chars := by
  induction chars with
  | nil => rfl
  | cons c rest ih =>
    obtain ⟨piece, pieces, cut⟩ := List.exists_cons_of_ne_nil (cutAt_ne_nil (· == separator) rest)
    unfold cutAt
    rw [cut] at ih ⊢
    by_cases here : (c == separator) = true
    · rw [if_pos here, List.intercalate_cons_cons, ih, eq_of_beq here, List.nil_append,
        List.singleton_append]
    · rw [if_neg here]
      dsimp only
      cases pieces with
      | nil =>
        rw [List.intercalate_singleton] at ih ⊢
        rw [ih]
      | cons next others =>
        rw [List.intercalate_cons_cons] at ih ⊢
        rw [List.cons_append, List.cons_append, ← ih]

theorem spaced_injective : Function.Injective spaced := by
  intro first second same
  have pieces : cutAt (· == ' ') first.toList = cutAt (· == ' ') second.toList :=
    (List.map_inj_right fun _ _ => String.ofList_injective).1 same
  apply String.toList_injective
  rw [← intercalate_cutAt ' ' first.toList, pieces, intercalate_cutAt]

theorem toList_spaced (text : String) :
    (spaced text).map String.toList = cutAt (· == ' ') text.toList := by
  unfold spaced
  rw [List.map_map]
  exact (List.map_congr_left fun chars _ => String.toList_ofList).trans (List.map_id _)

end Text

namespace Bot

theorem ne_empty_of_isPathWord {word : String} (valid : isPathWord word = true) : word ≠ "" := by
  rintro rfl
  simp [isPathWord] at valid

theorem small_of_isPathWord {word : String} (valid : isPathWord word = true) :
    ∀ c ∈ word.toList, 'a' ≤ c ∧ c ≤ 'z' := by
  intro c inside
  have all := (Bool.and_eq_true_iff.1 valid).2
  simpa using List.all_eq_true.1 all c inside

theorem isPathWord_of_validatePath {path : String} (valid : validatePath path = .ok ()) :
    ∀ word ∈ Text.spaced path, isPathWord word = true := by
  unfold validatePath at valid
  split at valid
  · rename_i words
    exact List.all_eq_true.1 words
  · cases valid

end Bot

end ChatLine
