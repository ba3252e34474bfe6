import ChatLine.Bot.Calls
import ChatLine.Proofs.Calls.Steps
import ChatLine.Proofs.Tree.Exact
import ChatLine.Proofs.Tree.PathMap

set_option autoImplicit false

namespace ChatLine

theorem Text.lower_eq_nil_iff {text : String} : Text.lower text = [] ↔ text = "" := by
  rw [← String.toList_eq_nil_iff, Text.lower]
  cases text.toList with
  | nil => simp [Text.lowerAfter]
  | cons c rest =>
    simp only [Text.lowerAfter, Text.lowerBetween, List.append_eq_nil_iff, reduceCtorEq, iff_false,
      not_and]
    intro nothing
    split at nothing
    · split at nothing <;> cases nothing
    · split at nothing <;> cases nothing

/-- A text has a character in common with one of some names, all in lower case. -/
def Shares (names : List String) (text : String) : Prop :=
  ∃ c ∈ Text.lower text, ∃ name ∈ names, c ∈ Text.lower name

section BestMatches

variable {names : List String} {text : String}

theorem heeded_eq_nil_iff_not_shares :
    heeded names (Text.lower text) = [] ↔ ¬ Shares names text := by
  rw [heeded_eq_nil_iff, Shares]
  push Not
  rfl

/-- The empty name is no best match for a text that has a character of a name. -/
theorem ne_empty_of_mem_bestMatches (shares : Shares names text) {full : String}
    (inside : full ∈ bestMatches names text) : full ≠ "" := by
  rintro rfl
  have contained := (mem_bestMatches_iff.1 inside).2.contains
  rw [Text.lower_eq_nil_iff.2 rfl, List.sublist_nil, heeded_eq_nil_iff_not_shares] at contained
  exact contained shares

/-- The empty name is the best match for every text that has no character of a name. -/
theorem bestMatches_of_not_shares (distinct : names.Nodup) (listed : "" ∈ names)
    (strange : ¬ Shares names text) : bestMatches names text = [""] := by
  have nothing := heeded_eq_nil_iff_not_shares.2 strange
  have nearby : ∀ chars, span [] chars = 0 := fun chars =>
    span_eq (Nat.zero_le _) fun count => by simp
  have empty : Text.lower "" = [] := Text.lower_eq_nil_iff.2 rfl
  apply eq_singleton ((bestMatches_sublist names text).nodup distinct)
  · rw [mem_bestMatches_iff, nothing]
    refine ⟨listed, List.nil_sublist _, fun other _ _ => ?_, fun other _ _ _ => ?_⟩
    · rw [nearby, nearby]
    · simp [empty]
  · intro full best
    rw [mem_bestMatches_iff, nothing] at best
    have short := best.2.shortest "" listed (List.nil_sublist _) (by rw [nearby, nearby])
    rw [empty, List.length_nil, Nat.le_zero, List.length_eq_zero_iff] at short
    exact Text.lower_eq_nil_iff.1 short

end BestMatches

namespace Evaluate

variable {σ : Type} {call : Caller σ} {world after : World σ} {id : Nat} {first : Command}
  {rest : List Command} {kinds : List Kind} {name : String} {slot : Node}

/-- A group that has an empty name, called with a text: where the text has a character in common with
a name of the group, in lower case, the call fails or is one of a child with another name. With every
other text it is a call of the child under the empty name on the other arguments, and the text is
lost. -/
theorem run_callGroup_empty_name
    (named : (Eval.text call first).run.run world = some (.ok name, after))
    (distinct : (after.bot.groups.children id).names.Nodup)
    (found : (after.bot.groups.children id).get? "" = some slot) :
    let children := after.bot.groups.children id
    let outcome := (callGroup call id (first :: rest) kinds).run.run world
    (Shares children.names name →
      (∃ error, outcome = some (.error error, after)) ∨
        ∃ full node, full ≠ "" ∧ children.get? full = some node ∧
          outcome = (call node.command rest kinds).run.run after) ∧
      (¬ Shares children.names name → outcome = (call slot.command rest kinds).run.run after) := by
  intro children outcome
  have dispatched : outcome = (dispatch call id name rest kinds).run.run after := by
    simp only [outcome, callGroup, Eval.run_bind, named]
  constructor
  · intro shares
    cases resolved : children.resolve name with
    | error error =>
      refine .inl ⟨error, ?_⟩
      rw [dispatched, dispatch, Eval.run_bind, Eval.run_get]
      dsimp only
      rw [resolved, Eval.run_bind, Eval.run_ofExcept]
    | ok meant =>
      obtain ⟨full, node⟩ := meant
      obtain ⟨best, stands⟩ := Children.of_resolve resolved
      refine .inr ⟨full, node, ?_, stands, ?_⟩
      · exact ne_empty_of_mem_bestMatches shares (best ▸ List.mem_singleton_self full)
      · rw [dispatched, run_dispatch_of_resolve resolved]
  · intro strange
    have listed : "" ∈ children.names := (NameMap.mem_names_iff children "").2 ⟨slot, found⟩
    have resolved : children.resolve name = .ok ("", slot) := by
      unfold Children.resolve
      rw [bestMatches_of_not_shares distinct listed strange]
      dsimp only
      rw [found]
    rw [dispatched, run_dispatch_of_resolve resolved]

/-- A bot with a group in which one of two commands is under the empty name. -/
def absorbing : World Unit :=
  let bot : Bot := ⟨.bare, .absorbed, [], []⟩
  World.start bot bot.freshContext () 0

/-- The text `d` is in common with the name `add`, and does not call the command under the empty
name. -/
theorem run_callGroup_empty_name_add :
    let call := run Host.none 9
    let children := absorbing.bot.groups.children 1
    (Eval.text call (.literal "d")).run.run absorbing = some (.ok "d", absorbing) ∧
      children.names.Nodup ∧ children.get? "" = some (.leaf (.literal "all")) ∧
      ((∃ error, (callGroup call 1 [.literal "d"] [.string]).run.run absorbing =
          some (.error error, absorbing)) ∨
        ∃ full node, full ≠ "" ∧ children.get? full = some node ∧
          (callGroup call 1 [.literal "d"] [.string]).run.run absorbing =
            (call node.command [] [.string]).run.run absorbing) := by
  intro call children
  have named : (Eval.text call (.literal "d")).run.run absorbing = some (.ok "d", absorbing) := rfl
  have distinct : children.names.Nodup := by decide +kernel
  have found : children.get? "" = some (.leaf (.literal "all")) := rfl
  refine ⟨named, distinct, found, (run_callGroup_empty_name named distinct found).1 ?_⟩
  exact ⟨'d', by decide +kernel, "add", by decide +kernel, by decide +kernel⟩

/-- The text `zz` calls the command under the empty name, which answers as if there were no text. -/
theorem run_callGroup_drops_text :
    let call := run Host.none 9
    "zz" ≠ "" ∧ (Eval.text call (.literal "zz")).run.run absorbing = some (.ok "zz", absorbing) ∧
      (callGroup call 1 [.literal "zz"] [.string]).run.run absorbing =
        (call (.literal "all") [] [.string]).run.run absorbing ∧
      (callGroup call 1 [.literal "zz"] [.string]).run.run absorbing =
        some (.ok (.text "all"), absorbing) ∧
      (call (.literal "one") [] [.string]).run.run absorbing =
        some (.ok (.text "one"), absorbing) := by
  refine ⟨by decide, rfl, ?_, ?_, rfl⟩
  · rfl
  · rfl

end Evaluate

end ChatLine
