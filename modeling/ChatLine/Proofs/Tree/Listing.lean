import ChatLine.Proofs.Tree.Tidy

set_option autoImplicit false

namespace ChatLine

namespace Children

theorem named_of_sits? {children : Children} {names : List String} {command : Command}
    (sits : children.sits? names = some command) : ∀ name ∈ names, name ≠ "" := by
  induction names generalizing children with
  | nil => exact fun name inside => nomatch inside
  | cons first rest ih =>
    have named : first ≠ "" := by
      intro empty
      rw [sits?_empty_name first rest empty] at sits
      cases sits
    intro name inside
    rcases List.mem_cons.1 inside with rfl | later
    · exact named
    · cases found : children.get? first with
      | none =>
        rw [sits?_absent found] at sits
        cases sits
      | some node =>
        cases node with
        | leaf old =>
          rw [sits?_leaf named found] at sits
          split at sits
          · rename_i ends
            rw [ends] at later
            cases later
          · cases sits
        | group id below =>
          rw [sits?_group named found] at sits
          exact ih sits name later

/-- The slot of names is the names, and after them the empty name if they lead to a group. -/
theorem slot_eq (children : Children) {names : List String} (present : names ≠ []) :
    slot children names =
      match children.at? names with
      | some (.group _ _) => names ++ [""]
      | _ => names := by
  induction names generalizing children with
  | nil => exact absurd rfl present
  | cons name rest ih =>
    cases rest with
    | nil =>
      unfold slot at?
      cases children.get? name with
      | none => rfl
      | some node => cases node <;> rfl
    | cons next more =>
      unfold slot at?
      cases children.get? name with
      | none => rfl
      | some node =>
        cases node with
        | leaf command => rfl
        | group id below =>
          dsimp only
          rw [ih below (List.cons_ne_nil _ _)]
          cases at? below (next :: more) with
          | none => rfl
          | some node => cases node <;> rfl

theorem filter_slot (children : Children) {names : List String}
    (named : ∀ name ∈ names, name ≠ "") :
    (slot children names).filter (fun name => name != "") = names := by
  by_cases present : names = []
  · subst present
    rfl
  · have kept : names.filter (fun name => name != "") = names :=
      List.filter_eq_self.2 fun name inside => by simpa using named name inside
    rw [slot_eq children present]
    split
    · rw [List.filter_append, kept]
      simp
    · exact kept

/-- The leaves of a tree in good order are what sits in it, at the slots of the names. -/
theorem mem_leavesBelow_iff {children : Children} (sound : Sound children) (path : List String)
    (command : Command) :
    (path, command) ∈ leavesBelow children ↔
      ∃ names, sits? children names = some command ∧ slot children names = path := by
  induction path generalizing children with
  | nil =>
    refine ⟨fun inside => absurd inside (not_mem_leavesBelow_nil children command), ?_⟩
    rintro ⟨names, -, same⟩
    cases names <;> cases same
  | cons name rest ih =>
    rw [mem_leavesBelow_cons sound.sorted]
    constructor
    · rintro ⟨node, found, inside⟩
      cases node with
      | leaf old =>
        simp only [Node.leaves, List.mem_singleton, Prod.mk.injEq] at inside
        obtain ⟨rfl, rfl⟩ := inside
        by_cases empty : name = ""
        · subst empty
          refine ⟨[], ?_, rfl⟩
          simp only [sits?, found]
        · refine ⟨[name], ?_, ?_⟩
          · rw [sits?_leaf empty found, if_pos rfl]
          · simp only [slot, found]
      | group id below =>
        have named : name ≠ "" := by
          rintro rfl
          exact sound.plain id below found
        obtain ⟨names, sits, same⟩ := (ih (sound.inner found).2).1 inside
        refine ⟨name :: names, ?_, ?_⟩
        · rw [sits?_group named found, sits]
        · simp only [slot, found, same]
    · rintro ⟨names, sits, same⟩
      cases names with
      | nil =>
        simp only [slot, List.cons.injEq] at same
        obtain ⟨rfl, rfl⟩ := same
        simp only [sits?] at sits
        split at sits
        · rename_i old found
          cases sits
          exact ⟨.leaf command, found, by simp [Node.leaves]⟩
        · cases sits
      | cons first others =>
        have named := named_of_sits? sits first List.mem_cons_self
        simp only [slot, List.cons.injEq] at same
        obtain ⟨rfl, same⟩ := same
        cases found : children.get? first with
        | none =>
          rw [sits?_absent found] at sits
          cases sits
        | some node =>
          refine ⟨node, rfl, ?_⟩
          cases node with
          | leaf old =>
            rw [sits?_leaf named found] at sits
            split at sits
            · rename_i ends
              cases sits
              simp only [found] at same
              rw [← same, ends]
              simp [Node.leaves]
            · cases sits
          | group id below =>
            rw [sits?_group named found] at sits
            simp only [found] at same
            exact (ih (sound.inner found).2).2 ⟨others, sits, same⟩

end Children

theorem nodup_leavesBelow (children : List (String × Node)) (sorted : NameMap.Sorted children)
    (sound : ∀ entry ∈ children, entry.2.Sound) : ((leavesBelow children).map Prod.fst).Nodup :=
  nodup_leaves_of_sorted children sorted (tidy_of_sound children sound)

theorem ne_nil_of_mem_groupsBelow (children : List (String × Node))
    (sound : ∀ entry ∈ children, entry.2.Sound) : ∀ group ∈ groupsBelow children, group ≠ [] := by
  intro group inside
  rw [Children.groupsBelow_eq, List.mem_flatMap] at inside
  obtain ⟨entry, listed, below⟩ := inside
  exact (tidy_of_sound children sound entry listed group below).2

namespace Children

/-- The tree holds the commands of a list, each at its names, and no others. -/
structure Holds (children : Children) (entries : List (List String × Except CommandError Command)) :
    Prop where
  sound : Sound children
  nodup : (entries.map Prod.fst).Nodup
  meant : ∀ entry ∈ entries, ∃ command, entry.2 = .ok command
  present : ∀ entry ∈ entries, entry.1 ≠ []
  sits_iff : ∀ names command, sits? children names = some command ↔ (names, .ok command) ∈ entries

namespace Holds

variable {children after : Children}
  {entries others : List (List String × Except CommandError Command)}
  {names : List String} {command : Command}

theorem nil : Holds [] [] where
  sound := sound_nil
  nodup := .nil
  meant := fun _ inside => nomatch inside
  present := fun _ inside => nomatch inside
  sits_iff := by
    intro names command
    rw [sits?_nil]
    simp

theorem perm (holds : children.Holds entries) (same : entries.Perm others) :
    children.Holds others where
  sound := holds.sound
  nodup := (same.map Prod.fst).nodup_iff.1 holds.nodup
  meant := fun entry inside => holds.meant entry (same.mem_iff.2 inside)
  present := fun entry inside => holds.present entry (same.mem_iff.2 inside)
  sits_iff := fun names command => (holds.sits_iff names command).trans same.mem_iff

theorem unmoved (holds : children.Holds entries) (sound : Sound after)
    (same : sits? after = sits? children) : after.Holds entries :=
  { holds with
    sound := sound
    sits_iff := by
      rw [same]
      exact holds.sits_iff }

theorem named (holds : children.Holds entries) {entry : List String × Except CommandError Command}
    (inside : entry ∈ entries) : ∀ name ∈ entry.1, name ≠ "" := by
  obtain ⟨command, meant⟩ := holds.meant entry inside
  have sits := (holds.sits_iff entry.1 command).2 (by rw [← meant]; exact inside)
  exact named_of_sits? sits

theorem sits_of_mem (holds : children.Holds entries)
    {entry : List String × Except CommandError Command} (inside : entry ∈ entries) :
    ∃ command, entry.2 = .ok command ∧ sits? children entry.1 = some command := by
  obtain ⟨command, meant⟩ := holds.meant entry inside
  refine ⟨command, meant, (holds.sits_iff entry.1 command).2 ?_⟩
  rw [← meant]
  exact inside

theorem not_mem_of_sits?_eq_none (holds : children.Holds entries)
    (free : sits? children names = none) : names ∉ entries.map Prod.fst := by
  intro listed
  obtain ⟨entry, inside, rfl⟩ := List.mem_map.1 listed
  obtain ⟨command, -, sits⟩ := holds.sits_of_mem inside
  rw [free] at sits
  cases sits

/-- A command that is put at names where none sits is one more. -/
theorem put (holds : children.Holds entries) (sound : Sound after) (present : names ≠ [])
    (free : sits? children names = none)
    (moved : sits? after = Function.update (sits? children) names (some command)) :
    after.Holds ((names, .ok command) :: entries) where
  sound := sound
  nodup := by
    rw [List.map_cons]
    exact List.nodup_cons.2 ⟨holds.not_mem_of_sits?_eq_none free, holds.nodup⟩
  meant := by
    intro entry inside
    rcases List.mem_cons.1 inside with rfl | old
    · exact ⟨command, rfl⟩
    · exact holds.meant entry old
  present := by
    intro entry inside
    rcases List.mem_cons.1 inside with rfl | old
    · exact present
    · exact holds.present entry old
  sits_iff := by
    intro other found
    rw [moved, Function.update_apply, List.mem_cons]
    by_cases same : other = names
    · subst same
      rw [if_pos rfl]
      have unlisted : (other, Except.ok found) ∉ entries := fun inside =>
        holds.not_mem_of_sits?_eq_none free (List.mem_map_of_mem inside)
      simp [unlisted, eq_comm]
    · rw [if_neg same, holds.sits_iff]
      simp [same]

/-- Names at which no command sits any more are one entry less. -/
theorem drop {value : Except CommandError Command}
    (holds : children.Holds ((names, value) :: entries))
    (sound : Sound after) (moved : sits? after = Function.update (sits? children) names none) :
    after.Holds entries where
  sound := sound
  nodup := (List.nodup_cons.1 holds.nodup).2
  meant := fun entry inside => holds.meant entry (List.mem_cons_of_mem _ inside)
  present := fun entry inside => holds.present entry (List.mem_cons_of_mem _ inside)
  sits_iff := by
    intro other found
    have alone : names ∉ entries.map Prod.fst := (List.nodup_cons.1 holds.nodup).1
    rw [moved, Function.update_apply]
    by_cases same : other = names
    · subst same
      rw [if_pos rfl]
      have unlisted : (other, Except.ok found) ∉ entries := fun inside =>
        alone (List.mem_map_of_mem inside)
      simp [unlisted]
    · rw [if_neg same, holds.sits_iff, List.mem_cons]
      simp [same]

/-- A command that is put at names where another one sits takes its place in the list. -/
theorem replace {value : Except CommandError Command}
    (holds : children.Holds ((names, value) :: entries)) (sound : Sound after)
    (moved : sits? after = Function.update (sits? children) names (some command)) :
    after.Holds ((names, .ok command) :: entries) where
  sound := sound
  nodup := holds.nodup
  meant := by
    intro entry inside
    rcases List.mem_cons.1 inside with rfl | old
    · exact ⟨command, rfl⟩
    · exact holds.meant entry (List.mem_cons_of_mem _ old)
  present := by
    intro entry inside
    rcases List.mem_cons.1 inside with rfl | old
    · exact holds.present (names, value) List.mem_cons_self
    · exact holds.present entry (List.mem_cons_of_mem _ old)
  sits_iff := by
    intro other found
    have alone : names ∉ entries.map Prod.fst := (List.nodup_cons.1 holds.nodup).1
    rw [moved, Function.update_apply, List.mem_cons]
    by_cases same : other = names
    · subst same
      rw [if_pos rfl]
      have unlisted : (other, Except.ok found) ∉ entries := fun inside =>
        alone (List.mem_map_of_mem inside)
      simp [unlisted, eq_comm]
    · rw [if_neg same, holds.sits_iff, List.mem_cons]
      simp [same]

/-- The leaves of the tree are the commands of the list, each at the slot of its names. -/
theorem leaves_perm (holds : children.Holds entries) :
    ((leavesBelow children).map fun leaf =>
      (leaf.1, (.ok leaf.2 : Except CommandError Command))).Perm
      (entries.map fun entry => (slot children entry.1, entry.2)) := by
  have leaf_paths : ((leavesBelow children).map Prod.fst).Nodup :=
    nodup_leavesBelow children holds.sound.sorted holds.sound.nodes
  have slots : (entries.map fun entry => slot children entry.1).Nodup := by
    have names_back : (entries.map fun entry => slot children entry.1).map
        (fun path => path.filter fun name => name != "") = entries.map Prod.fst := by
      rw [List.map_map]
      apply List.map_congr_left
      intro entry inside
      exact filter_slot children (holds.named inside)
    refine List.Nodup.of_map (fun path => path.filter fun name => name != "") ?_
    rw [names_back]
    exact holds.nodup
  refine (List.perm_ext_iff_of_nodup ?_ ?_).2 ?_
  · apply List.Nodup.of_map Prod.fst
    rwa [List.map_map]
  · apply List.Nodup.of_map Prod.fst
    rwa [List.map_map]
  · rintro ⟨path, value⟩
    simp only [List.mem_map, Prod.mk.injEq]
    constructor
    · rintro ⟨⟨leaf_path, found⟩, inside, rfl, rfl⟩
      obtain ⟨names, sits, same⟩ := (mem_leavesBelow_iff holds.sound leaf_path found).1 inside
      exact ⟨(names, .ok found), (holds.sits_iff names found).1 sits, same, rfl⟩
    · rintro ⟨entry, inside, rfl, rfl⟩
      obtain ⟨found, meant, sits⟩ := holds.sits_of_mem inside
      refine ⟨(slot children entry.1, found), ?_, rfl, meant.symm⟩
      exact (mem_leavesBelow_iff holds.sound _ found).2 ⟨entry.1, sits, rfl⟩

end Holds

end Children

end ChatLine
