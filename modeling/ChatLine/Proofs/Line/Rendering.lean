import ChatLine.Proofs.Line.Grammar
import ChatLine.Proofs.Text.Quoting

set_option autoImplicit false

namespace ChatLine

namespace Shape

mutual

/-- A tree as a bracketed expression, where `plain` tells which characters of its texts stand for
themselves. -/
def spell (plain : Char → Bool) : Shape → List Char
  | call parameters => '(' :: 'c' :: 'm' :: 'd' :: (spellAll plain parameters ++ [')'])
  | text value => Text.quoteBy plain value
  | fault description =>
    '(' :: 'e' :: 'r' :: 'r' :: 'o' :: 'r' :: ' ' :: (Text.quoteBy plain description ++ [')'])

def spellAll (plain : Char → Bool) : List Shape → List Char
  | [] => []
  | shape :: rest => ' ' :: (spell plain shape ++ spellAll plain rest)

end

mutual

/-- What was written for a tree is written for no other one, whatever stands after it. -/
theorem spell_append_inj {plain : Char → Bool} {first second : Shape} {rest more : List Char}
    (same : spell plain first ++ rest = spell plain second ++ more) :
    first = second ∧ rest = more := by
  match first, second with
  | .call parameters, .call others =>
    simp only [spell, List.cons_append, List.append_assoc, List.nil_append, List.cons.injEq,
      true_and] at same
    obtain ⟨rfl, left⟩ := spellAll_append_inj same
    exact ⟨rfl, left⟩
  | .text value, .text other =>
    obtain ⟨rfl, left⟩ := Text.quoteBy_append_inj same
    exact ⟨rfl, left⟩
  | .fault description, .fault other =>
    simp only [spell, List.cons_append, List.append_assoc, List.nil_append, List.cons.injEq,
      true_and] at same
    obtain ⟨rfl, left⟩ := Text.quoteBy_append_inj same
    exact ⟨rfl, List.tail_eq_of_cons_eq left⟩
  | .call _, .text _ => simp [spell, Text.quoteBy] at same
  | .call _, .fault _ => simp [spell] at same
  | .text _, .call _ => simp [spell, Text.quoteBy] at same
  | .text _, .fault _ => simp [spell, Text.quoteBy] at same
  | .fault _, .call _ => simp [spell] at same
  | .fault _, .text _ => simp [spell, Text.quoteBy] at same

/-- The parameters of a call are told by what was written up to the bracket that closes it. -/
theorem spellAll_append_inj {plain : Char → Bool} {first second : List Shape}
    {rest more : List Char}
    (same : spellAll plain first ++ ')' :: rest = spellAll plain second ++ ')' :: more) :
    first = second ∧ rest = more := by
  match first, second with
  | [], [] => exact ⟨rfl, List.tail_eq_of_cons_eq same⟩
  | [], _ :: _ => simp [spellAll] at same
  | _ :: _, [] => simp [spellAll] at same
  | shape :: shapes, other :: others =>
    simp only [spellAll, List.cons_append, List.append_assoc, List.cons.injEq, true_and] at same
    obtain ⟨rfl, behind⟩ := spell_append_inj same
    obtain ⟨rfl, left⟩ := spellAll_append_inj behind
    exact ⟨rfl, left⟩

end

theorem spell_inj {plain : Char → Bool} {first second : Shape} :
    spell plain first = spell plain second ↔ first = second := by
  constructor
  · intro same
    exact (spell_append_inj (congrArg (· ++ []) same)).1
  · exact fun same => congrArg (spell plain) same

instance : DecidableEq Shape := fun first second =>
  decidable_of_iff _ (@spell_inj Text.isPlain first second)

end Shape

namespace Expr

mutual

theorem toList_render (expr : Expr) : expr.render.toList = expr.shape.spell Text.isPlain := by
  match expr with
  | .call parameters span =>
    rw [render_call, String.toList_append, String.toList_append, toList_renderAll parameters]
    rfl
  | .text value span =>
    rw [render_text, Text.toList_quote]
    rfl
  | .fault description span =>
    rw [render_fault, String.toList_append, String.toList_append, Text.toList_quote]
    rfl

theorem toList_renderAll (exprs : List Expr) :
    (renderAll exprs).toList = Shape.spellAll Text.isPlain (shapes exprs) := by
  match exprs with
  | [] =>
    rw [renderAll_nil]
    rfl
  | expr :: rest =>
    rw [renderAll_cons, String.toList_append, String.toList_append, toList_render expr,
      toList_renderAll rest]
    rfl

end

/-- Two parts are written as the same expression just if they are the same tree, their stretches
apart. It makes no difference which characters of a text stand for themselves. -/
theorem render_eq_iff (first second : Expr) :
    (first.render = second.render ↔ first.shape = second.shape) ∧
      (first.render.toList = first.shape.spell Text.isPlain ∧
        ∀ plain, first.shape.spell plain = second.shape.spell plain ↔
          first.shape = second.shape) := by
  refine ⟨?_, toList_render first, fun plain => Shape.spell_inj⟩
  rw [← String.toList_inj, toList_render, toList_render]
  exact Shape.spell_inj

end Expr

end ChatLine
