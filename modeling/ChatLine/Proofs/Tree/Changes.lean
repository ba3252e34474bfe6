import ChatLine.Proofs.Tree.Effects
import ChatLine.Proofs.Tree.Places

set_option autoImplicit false

namespace ChatLine.Change

open Effects Children

/-- The change puts a command at some names of the group. Only a `fresh` command can fail to be put,
and only in a group that is not empty. -/
def PutsIn (change : Change Unit) (names : List String) (command : Command) (fresh : Bool)
    (growth : Growth) : Prop :=
  match change.run.run growth with
  | (.ok _, after) =>
    Sound after.children ∧
      sits? after.children = Function.update (sits? growth.children) names (some command) ∧
      (fresh = true → sits? growth.children names = none)
  | (.error _, after) =>
    fresh = true ∧ growth.children ≠ [] ∧ after.children ≠ [] ∧ Sound after.children ∧
      sits? after.children = sits? growth.children

/-- The change puts a command at some names of every group in good order. -/
def Puts (change : Change Unit) (names : List String) (command : Command) (fresh : Bool) : Prop :=
  ∀ growth, Sound growth.children → change.PutsIn names command fresh growth

/-- The group under a name holds what sits at the names that begin with it. Only a command that may
not be absorbed is in the way of the group. -/
theorem childGroup_spec {name : String} (named : name ≠ "") (absorb : Bool) {growth : Growth}
    (sound : Sound growth.children) :
    match (childGroup name absorb).run.run growth with
    | (.error _, after) =>
      absorb = false ∧ (∃ command, growth.children.get? name = some (.leaf command)) ∧
        after = growth
    | (.ok (_, below), outer) =>
      Sound below ∧ (∀ names, sits? growth.children (name :: names) = sits? below names) ∧
        (∀ node, outer.children.set name node = growth.children.set name node) ∧
        (growth.children = [] → below = []) := by
  rw [run_childGroup]
  cases found : growth.children.get? name with
  | none =>
    refine ⟨sound_nil, ?_, ?_, fun _ => rfl⟩
    · intro names
      rw [sits?_absent found, sits?_nil]
    · exact fun node => NameMap.set_set growth.children name _ node
  | some node =>
    cases node with
    | group id below =>
      refine ⟨(sound.inner found).2, sits?_group named found, fun _ => rfl, ?_⟩
      intro empty
      rw [empty] at found
      cases found
    | leaf command =>
      cases absorb with
      | false => exact ⟨rfl, ⟨command, rfl⟩, rfl⟩
      | true =>
        refine ⟨sound_singleton command, ?_, ?_, ?_⟩
        · intro names
          rw [sits?_leaf named found, sits?_singleton]
        · exact fun node => NameMap.set_set growth.children name _ node
        · intro empty
          rw [empty] at found
          cases found

theorem PutsIn.congr {change other : Change Unit} {names : List String} {command : Command}
    {fresh : Bool} {growth : Growth} (puts : other.PutsIn names command fresh growth)
    (same : change.run.run growth = other.run.run growth) :
    change.PutsIn names command fresh growth := by
  unfold PutsIn at puts ⊢
  rwa [same]

/-- What puts a command at some names of a group puts it at these names after that of the group. -/
theorem putsIn_within {name : String} (named : name ≠ "") (absorb : Bool) {change : Change Unit}
    {names : List String} {command : Command} {fresh : Bool}
    (puts : Puts change names command fresh) {growth : Growth} (sound : Sound growth.children)
    (passes : absorb = false →
      fresh = true ∨ ∀ other, growth.children.get? name ≠ some (.leaf other)) :
    (within name absorb change).PutsIn (name :: names) command fresh growth := by
  unfold PutsIn
  rw [run_within]
  have opened := childGroup_spec named absorb sound
  generalize (childGroup name absorb).run.run growth = made at opened ⊢
  rcases made with ⟨error | ⟨id, below⟩, outer⟩
  · obtain ⟨kept, ⟨other, found⟩, rfl⟩ := opened
    have present : outer.children ≠ [] := by
      intro empty
      rw [empty] at found
      cases found
    refine ⟨?_, present, present, sound, rfl⟩
    rcases passes kept with fresh_true | free
    · exact fresh_true
    · exact absurd found (free other)
  · obtain ⟨inner_sound, inside, refill, bare⟩ := opened
    have inner_puts := puts { outer with children := below } inner_sound
    unfold PutsIn at inner_puts
    dsimp only
    generalize change.run.run { outer with children := below } = made at inner_puts ⊢
    rcases made with ⟨error | done, inner⟩
    · obtain ⟨fresh_true, present, left, after_sound, same⟩ := inner_puts
      dsimp only at present same ⊢
      refine ⟨fresh_true, fun empty => present (bare empty), NameMap.set_ne_nil _ _ _, ?_, ?_⟩
      · rw [refill]
        exact sound.set (.group id left after_sound) fun empty => absurd empty named
      · have changed : sits? inner.children =
            Function.update (sits? below) names (sits? below names) := by
          rw [same, Function.update_eq_self]
        rw [refill, sits?_set_group named inside changed, ← inside, Function.update_eq_self]
    · obtain ⟨after_sound, changed, free⟩ := inner_puts
      dsimp only at changed free ⊢
      have left : inner.children ≠ [] := by
        have put : sits? inner.children names = some command := by
          rw [changed, Function.update_self]
        exact ne_nil_of_sits? put
      refine ⟨?_, ?_, ?_⟩
      · rw [refill]
        exact sound.set (.group id left after_sound) fun empty => absurd empty named
      · rw [refill, sits?_set_group named inside changed]
      · intro fresh_true
        rw [inside]
        exact free fresh_true

/-- Going down a path, a command is put after the names of the path. -/
theorem puts_descend {absorb : Bool} {change : Change Unit} {names : List String}
    {command : Command} {fresh : Bool} (puts : Puts change names command fresh)
    (passes : absorb = false → fresh = true) (path : List String)
    (named : ∀ name ∈ path, name ≠ "") :
    Puts (descend absorb change path) (path ++ names) command fresh := by
  induction path with
  | nil => exact puts
  | cons name path ih =>
    have below := ih fun other inside => named other (List.mem_cons_of_mem _ inside)
    intro growth sound
    exact putsIn_within (named name List.mem_cons_self) absorb below sound fun kept =>
      .inl (passes kept)

theorem puts_insert {last : String} (named : last ≠ "") (command : Command) (taken : CommandError) :
    Puts (tryCatch (insert last (.leaf command)) fun _ => throw taken) [last] command true := by
  intro growth sound
  unfold PutsIn
  rw [run_tryCatch, run_insert]
  by_cases has : growth.children.has last = true
  · have present : growth.children ≠ [] := by
      intro empty
      rw [empty] at has
      cases has
    rw [if_pos has]
    exact ⟨rfl, present, present, sound, rfl⟩
  · have absent : growth.children.get? last = none :=
      Decidable.byContradiction fun found => has (NameMap.has_iff.2 found)
    rw [if_neg has]
    refine ⟨sound.set (.leaf command) fun _ => rfl, ?_, fun _ => sits?_absent absent []⟩
    refine sits?_set_leaf command named fun id below found => ?_
    rw [absent] at found
    cases found

theorem run_settleAt (path : String) (command : Command) (fresh : Bool) (slot : String)
    (growth : Growth) :
    (settleAt path command fresh slot).run.run growth =
      if fresh && growth.children.has slot then (.error (.duplicateCommand path), growth)
      else (.ok (), { growth with
        children := growth.children.set slot (.leaf command)
        dropped := (growth.children.get? slot).toList ++ growth.dropped }) := by
  unfold settleAt
  rw [run_bind, run_get]
  dsimp only
  split <;> rfl

/-- A command is put under a name that is no group, and there only. -/
theorem putsIn_settleAt (path : String) (command : Command) (fresh : Bool) {slot : String}
    {names : List String} {growth : Growth} (sound : Sound growth.children)
    (absent : growth.children.get? slot = none → sits? growth.children names = none)
    (moved : sits? (growth.children.set slot (.leaf command)) =
      Function.update (sits? growth.children) names (some command)) :
    (settleAt path command fresh slot).PutsIn names command fresh growth := by
  unfold PutsIn
  rw [run_settleAt]
  by_cases blocked : (fresh && growth.children.has slot) = true
  · rw [if_pos blocked]
    rw [Bool.and_eq_true] at blocked
    obtain ⟨fresh_true, has⟩ := blocked
    have present : growth.children ≠ [] := by
      intro empty
      rw [empty] at has
      cases has
    exact ⟨fresh_true, present, present, sound, rfl⟩
  · rw [if_neg blocked]
    refine ⟨sound.set (.leaf command) fun _ => rfl, moved, ?_⟩
    intro fresh_true
    rw [fresh_true, Bool.true_and] at blocked
    exact absent (Decidable.byContradiction fun found => blocked (NameMap.has_iff.2 found))

theorem puts_settleAt_empty (path : String) (command : Command) (fresh : Bool) :
    Puts (settleAt path command fresh "") [] command fresh := by
  intro growth sound
  refine putsIn_settleAt path command fresh sound ?_ (sits?_set_empty command)
  intro absent
  simp only [sits?, absent]

theorem run_settle (path last : String) (command : Command) (fresh : Bool) (growth : Growth) :
    (settle path last command fresh).run.run growth =
      match growth.children.get? last with
      | some (.group _ _) => (within last false (settleAt path command fresh "")).run.run growth
      | _ => (settleAt path command fresh last).run.run growth := by
  unfold settle
  rw [run_bind, run_get]
  dsimp only
  rcases growth.children.get? last with _ | ⟨_ | _⟩ <;> rfl

theorem puts_settle (path : String) {last : String} (named : last ≠ "") (command : Command)
    (fresh : Bool) : Puts (settle path last command fresh) [last] command fresh := by
  intro growth sound
  have settles := run_settle path last command fresh growth
  have beside (plain : ∀ id below, growth.children.get? last ≠ some (.group id below)) :
      (settleAt path command fresh last).PutsIn [last] command fresh growth :=
    putsIn_settleAt path command fresh sound (fun absent => sits?_absent absent [])
      (sits?_set_leaf command named plain)
  cases found : growth.children.get? last with
  | none =>
    rw [found] at settles
    exact PutsIn.congr (beside fun id below => by simp [found]) settles
  | some node =>
    rw [found] at settles
    cases node with
    | leaf old => exact PutsIn.congr (beside fun id below => by simp [found]) settles
    | group id below =>
      refine PutsIn.congr ?_ settles
      refine putsIn_within named false (puts_settleAt_empty path command fresh) sound fun _ =>
        .inr ?_
      exact fun other leaf => by simp [found] at leaf

theorem puts_addAt {path : List String} (present : path ≠ []) (named : ∀ name ∈ path, name ≠ "")
    (command : Command) : Puts (addAt path command) path command true := by
  rcases List.eq_nil_or_concat path with empty | ⟨front, last, same⟩
  · exact absurd empty present
  · rw [List.concat_eq_append] at same
    subst same
    simp only [addAt, List.getLast?_concat, List.dropLast_concat]
    have last_named := named last (by simp)
    exact puts_descend (puts_insert last_named command _) (fun _ => rfl) front fun name inside =>
      named name (by simp [inside])

/-- Placing a command puts it at its path, which must be free of it only if the command is fresh. -/
theorem puts_place {path : String} (named : ∀ name ∈ Text.spaced path, name ≠ "")
    (present : Text.spaced path ≠ []) (command : Command) (fresh : Bool) :
    Puts (place path command fresh) (Text.spaced path) command fresh := by
  unfold place
  generalize Text.spaced path = names at named present
  rcases List.eq_nil_or_concat names with empty | ⟨front, last, same⟩
  · exact absurd empty present
  · rw [List.concat_eq_append] at same
    subst same
    simp only [List.getLast?_concat, List.dropLast_concat]
    have last_named := named last (by simp)
    have absorbs : true = false → fresh = true := by
      intro kept
      cases kept
    exact puts_descend (puts_settle path last_named command fresh) absorbs front fun name inside =>
      named name (by simp [inside])

end ChatLine.Change

namespace ChatLine.Children

/-- What sits at some names is removed at its slot, and no other command moves. -/
theorem removeAt_slot {children : Children} (sound : Sound children) {names : List String}
    {command : Command} (sits : children.sits? names = some command) :
    (children.removeAt (children.slot names)).1.isSome ∧
      Sound (children.removeAt (children.slot names)).2 ∧
      sits? (children.removeAt (children.slot names)).2 =
        Function.update children.sits? names none := by
  induction names generalizing children with
  | nil =>
    refine ⟨?_, sound.erase "", sits?_erase_empty⟩
    simp only [sits?] at sits
    split at sits
    · rename_i found
      simp only [slot, removeAt, found, Option.isSome_some]
    · cases sits
  | cons name rest ih =>
    have named : name ≠ "" := by
      intro empty
      rw [sits?_empty_name name rest empty] at sits
      cases sits
    cases found : children.get? name with
    | none =>
      rw [sits?_absent found] at sits
      cases sits
    | some node =>
      cases node with
      | leaf old =>
        rw [sits?_leaf named found] at sits
        split at sits
        · rename_i ends
          subst ends
          simp only [slot, found, removeAt, Option.isSome_some, true_and]
          refine ⟨sound.erase name, sits?_erase named ?_⟩
          intro names longer
          rw [sits?_leaf named found, if_neg longer]
        · cases sits
      | group id below =>
        rw [sits?_group named found] at sits
        obtain ⟨removed, left_sound, changed⟩ := ih (sound.inner found).2 sits
        have longer : ∃ next more, slot below rest = next :: more := by
          cases rest with
          | nil => exact ⟨"", [], rfl⟩
          | cons next more => exact ⟨next, _, rfl⟩
        obtain ⟨next, more, slot_same⟩ := longer
        rw [slot_same] at removed left_sound changed
        simp only [slot, found, slot_same, removeAt]
        generalize removeAt below (next :: more) = parts at removed left_sound changed
        obtain ⟨gone, left⟩ := parts
        obtain ⟨node, rfl⟩ := Option.isSome_iff_exists.1 removed
        dsimp only at left_sound changed ⊢
        split
        · rename_i empty
          refine ⟨rfl, sound.erase name, sits?_erase named ?_⟩
          intro names different
          rw [sits?_group named found, ← Function.update_of_ne different none (sits? below),
            ← changed,
            List.isEmpty_iff.1 empty, sits?_nil]
        · rename_i present
          refine ⟨rfl, ?_, sits?_set_group named (sits?_group named found) changed⟩
          refine sound.set (.group id ?_ left_sound) fun empty => absurd empty named
          intro empty
          exact present (List.isEmpty_iff.2 empty)

end ChatLine.Children
