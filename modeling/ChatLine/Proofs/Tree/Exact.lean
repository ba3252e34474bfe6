import ChatLine.Proofs.Bot.Paths
import ChatLine.Proofs.Names.BestMatches
import ChatLine.Proofs.Tree.SortedMap
import Mathlib.Data.List.Nodup

set_option autoImplicit false

namespace ChatLine

namespace Text

theorem lowerChar_small {c : Char} (first : 'a' ≤ c) (last : c ≤ 'z') : lowerChar c = c := by
  have lower : 97 ≤ c.toNat := first
  have upper : c.toNat ≤ 122 := last
  have past : ¬ c.toNat ≤ 90 := by omega
  have before : c.toNat ≤ 214 := by omega
  have found : lowerRuns.find? (fun run => decide (c.toNat ≤ run.2.1)) = some (192, 214, 1, 224) := by
    simp only [lowerRuns, List.find?_cons, past, before, decide_false, decide_true]
  have outside : ¬ 192 ≤ c.toNat := by omega
  simp only [lowerChar, found, outside, decide_false, Bool.false_and, Bool.false_eq_true, ↓reduceIte]

theorem lowerAfter_small {before chars : List Char} (small : ∀ c ∈ chars, 'a' ≤ c ∧ c ≤ 'z') :
    lowerAfter before chars = chars := by
  induction chars generalizing before with
  | nil => rfl
  | cons c rest ih =>
    obtain ⟨⟨first, last⟩, others⟩ := List.forall_mem_cons.1 small
    have sigma : c ≠ 'Σ' := by
      rintro rfl
      exact absurd last (by decide)
    have dotted : c ≠ '\u0130' := by
      rintro rfl
      exact absurd last (by decide)
    simp only [lowerAfter, lowerBetween, sigma, dotted, lowerChar_small first last, ih others,
      ↓reduceIte, List.singleton_append]

theorem lower_small {text : String} (small : ∀ c ∈ text.toList, 'a' ≤ c ∧ c ≤ 'z') :
    lower text = text.toList :=
  lowerAfter_small small

end Text

/-- A list in which one thing is listed, only once and nothing else. -/
theorem eq_singleton {α : Type} {values : List α} {value : α} (distinct : values.Nodup)
    (inside : value ∈ values) (alone : ∀ other ∈ values, other = value) : values = [value] := by
  have perm : values.Perm [value] := by
    refine (List.perm_ext_iff_of_nodup distinct (List.nodup_singleton value)).2 fun other => ?_
    rw [List.mem_singleton]
    exact ⟨alone other, fun same => same ▸ inside⟩
  exact List.perm_singleton.1 perm

/-- A name typed in full is the only best match, among names of small letters. -/
theorem bestMatches_exact {names : List String} (distinct : names.Nodup)
    (small : ∀ name ∈ names, ∀ c ∈ name.toList, 'a' ≤ c ∧ c ≤ 'z') {name : String}
    (inside : name ∈ names) : bestMatches names name = [name] := by
  have whole : (Text.lower name).Sublist (Text.lower name) := List.Sublist.refl _
  apply eq_singleton ((bestMatches_sublist names name).nodup distinct)
  · rw [mem_bestMatches_iff, heeded_of_contains inside whole]
    refine ⟨inside, whole, fun other _ contained => ?_, fun other _ contained _ => ?_⟩
    · rw [span_self]
      exact length_le_span contained
    · exact contained.length_le
  · intro other best
    rw [mem_bestMatches_iff, heeded_of_contains inside whole] at best
    obtain ⟨listed, best⟩ := best
    have near := best.nearest name inside whole
    have far := length_le_span best.contains
    rw [span_self] at near
    have short := best.shortest name inside whole (by rw [span_self]; omega)
    have same := best.contains.eq_of_length_le short
    rw [Text.lower_small (small name inside), Text.lower_small (small other listed)] at same
    exact (String.toList_injective same).symm

namespace Children

/-- A name stands for a child if the full name of the child is its one best match. -/
theorem of_resolve {children : Children} {name full : String} {node : Node}
    (found : children.resolve name = .ok (full, node)) :
    bestMatches children.names name = [full] ∧ children.get? full = some node := by
  unfold resolve at found
  split at found
  · cases found
  · rename_i single best
    split at found
    · rename_i present
      cases found
      exact ⟨best, present⟩
    · cases found
  · cases found

/-- A name typed in full stands for what it is mapped to. -/
theorem resolve_exact {children : Children} (sorted : NameMap.Sorted children)
    (words : ∀ name node, children.get? name = some node →
      name = "" ∨ Bot.isPathWord name = true)
    {name : String} {node : Node} (found : children.get? name = some node) :
    children.resolve name = .ok (name, node) := by
  have distinct : children.names.Nodup := by
    refine (List.pairwise_map.2 (List.Pairwise.imp ?_ sorted) : List.Pairwise _ _)
    intro first second before same
    rw [same] at before
    exact String.lt_irrefl _ before
  have small : ∀ name ∈ children.names, ∀ c ∈ name.toList, 'a' ≤ c ∧ c ≤ 'z' := by
    intro name listed
    obtain ⟨node, found⟩ := (NameMap.mem_names_iff children name).1 listed
    rcases words name node found with rfl | valid
    · intro c inside
      cases inside
    · exact Bot.small_of_isPathWord valid
  have listed := (NameMap.mem_names_iff children name).2 ⟨node, found⟩
  unfold resolve
  rw [bestMatches_exact distinct small listed]
  dsimp only
  rw [found]

end Children

end ChatLine
