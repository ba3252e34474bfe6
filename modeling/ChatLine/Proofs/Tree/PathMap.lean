import ChatLine.Proofs.Tree.Layout
import Mathlib.Data.List.Infix

set_option autoImplicit false

namespace ChatLine

namespace Children

variable {children : Children} {name : String} {path : List String} {command : Command}

/-- Nothing is in the way of a new command at a path: no command stands on the way there, and
nothing at its end. -/
structure Free (children : Children) (path : List String) : Prop where
  present : path ≠ []
  passable : ∀ front, front <+: path → front ≠ path → ∀ old, children.at? front ≠ some (.leaf old)
  vacant : children.at? path = none

theorem free_singleton_iff : Free children [name] ↔ children.get? name = none := by
  refine ⟨Free.vacant, fun absent => ⟨List.cons_ne_nil _ _, ?_, absent⟩⟩
  intro front begins shorter old found
  rcases List.prefix_cons_iff.1 begins with rfl | ⟨rest, rfl, empty⟩
  · cases found
  · rw [List.prefix_nil.1 empty] at shorter
    exact shorter rfl

theorem free_of_absent (absent : children.get? name = none) (rest : List String) :
    Free children (name :: rest) := by
  have nothing : ∀ more, children.at? (name :: more) = none := by
    intro more
    cases more with
    | nil => exact absent
    | cons next others => exact at?_cons_plain (plain_of_absent absent) (List.cons_ne_nil _ _)
  refine ⟨List.cons_ne_nil _ _, fun front begins _ old found => ?_, nothing rest⟩
  rcases List.prefix_cons_iff.1 begins with rfl | ⟨more, rfl, -⟩
  · cases found
  · rw [nothing] at found
    cases found

theorem not_free_of_leaf {old : Command} (found : children.get? name = some (.leaf old))
    (rest : List String) : ¬ Free children (name :: rest) := by
  intro free
  by_cases ends : rest = []
  · subst ends
    have vacant : children.get? name = none := free.vacant
    rw [found] at vacant
    cases vacant
  · exact free.passable [name] ⟨rest, rfl⟩ (fun same => ends (List.cons.inj same).2.symm) old found

theorem free_group_iff {id : Nat} {below : Children}
    (found : children.get? name = some (.group id below)) {rest : List String}
    (longer : rest ≠ []) : Free children (name :: rest) ↔ Free below rest := by
  constructor
  · intro free
    refine ⟨longer, ?_, by rw [← at?_cons_group found longer]; exact free.vacant⟩
    intro front begins shorter old stands
    have present : front ≠ [] := by
      rintro rfl
      cases stands
    refine free.passable (name :: front) (List.cons_prefix_cons.2 ⟨rfl, begins⟩)
      (fun same => shorter (List.cons.inj same).2) old ?_
    rw [at?_cons_group found present]
    exact stands
  · intro free
    refine ⟨List.cons_ne_nil _ _, ?_, by rw [at?_cons_group found longer]; exact free.vacant⟩
    intro front begins shorter old stands
    rcases List.prefix_cons_iff.1 begins with rfl | ⟨more, rfl, further⟩
    · cases stands
    · by_cases ends : more = []
      · subst ends
        have leaf : children.get? name = some (.leaf old) := stands
        rw [found] at leaf
        cases leaf
      · rw [at?_cons_group found ends] at stands
        exact free.passable more further (fun same => shorter (same ▸ rfl)) old stands

end Children

namespace Change

open Effects Children

/-- In a tidy group the change adds a command at a path, if the path is free: the leaves are one
more. If it is not, the change fails and nothing happens. -/
def Adds (change : Change Unit) (path : List String) (command : Command) : Prop :=
  ∀ growth : Growth, Tidy growth.children →
    match change.run.run growth with
    | (.ok _, after) =>
      Free growth.children path ∧ Tidy after.children ∧ after.children ≠ [] ∧
        (leavesBelow after.children).Perm ((path, command) :: leavesBelow growth.children)
    | (.error _, after) => ¬ Free growth.children path ∧ after = growth

theorem adds_insert (last : String) (command : Command) (taken : CommandError) :
    Adds (tryCatch (insert last (.leaf command)) fun _ => throw taken) [last] command := by
  intro growth tidy
  rw [run_tryCatch, run_insert, NameMap.has]
  cases found : growth.children.get? last with
  | none =>
    refine ⟨free_singleton_iff.2 found, tidy.set last (tidy_leaf command),
      NameMap.set_ne_nil _ _ _, ?_⟩
    have leaves := leavesBelow_set tidy.sorted last (.leaf command)
    rwa [NameMap.erase_eq_self found] at leaves
  | some node =>
    refine ⟨fun free => ?_, rfl⟩
    rw [free_singleton_iff.1 free] at found
    cases found

/-- What adds a command at a path of a group adds it in the group under a name. -/
theorem Adds.within {change : Change Unit} {path : List String} {command : Command}
    (adds : change.Adds path command) (present : path ≠ []) (name : String) :
    (Change.within name false change).Adds (name :: path) command := by
  intro growth tidy
  rcases group_or_plain growth.children name with ⟨id, below, found⟩ | plain
  · have inside := adds { growth with children := below } (tidy.inner found).2
    rw [run_within_group change found]
    generalize change.run.run { growth with children := below } = ran at inside ⊢
    obtain ⟨error | done, inner⟩ := ran
    · obtain ⟨blocked, rfl⟩ := inside
      refine ⟨fun free => blocked ((free_group_iff found present).1 free), ?_⟩
      dsimp only
      rw [tidy.sorted.set_eq_self found]
    · obtain ⟨free, inner_tidy, inner_present, leaves⟩ := inside
      refine ⟨(free_group_iff found present).2 free,
        tidy.set name (tidy_group_iff.2 ⟨inner_present, inner_tidy⟩), NameMap.set_ne_nil _ _ _, ?_⟩
      -- the leaves below the name are one more, and those at the other names stay
      have after := leavesBelow_set tidy.sorted name (.group id inner.children)
      have before := leavesBelow_of_get? tidy.sorted found
      refine after.trans (.trans ?_ (before.symm.cons _))
      exact (leaves.map _).append_right _
  · rcases plain.absent_or_leaf with absent | ⟨old, leaf⟩
    · have inside := adds { growth with children := [], next := growth.next + 1 } tidy_nil
      rw [run_within_plain change plain (.inr absent), absent]
      dsimp only [moved]
      generalize change.run.run _ = ran at inside ⊢
      obtain ⟨error | done, inner⟩ := ran
      · -- nothing is in the way in a group that was just made
        obtain ⟨next, rest, rfl⟩ := List.exists_cons_of_ne_nil present
        exact absurd (free_of_absent (NameMap.get?_nil next) rest) inside.1
      · obtain ⟨-, inner_tidy, inner_present, leaves⟩ := inside
        refine ⟨free_of_absent absent _,
          tidy.set name (tidy_group_iff.2 ⟨inner_present, inner_tidy⟩),
          NameMap.set_ne_nil _ _ _, ?_⟩
        have after := leavesBelow_set tidy.sorted name (.group growth.next inner.children)
        rw [NameMap.erase_eq_self absent] at after
        exact after.trans ((leaves.map _).append_right _)
    · rw [run_within, run_childGroup, leaf]
      exact ⟨not_free_of_leaf leaf path, rfl⟩

theorem Adds.descend {change : Change Unit} {path : List String} {command : Command}
    (adds : change.Adds path command) (present : path ≠ []) (front : List String) :
    (Change.descend false change front).Adds (front ++ path) command := by
  induction front with
  | nil => exact adds
  | cons name front ih => exact ih.within (by simp [present]) name

/-- Adding a command at a path adds it there if the path is free, whatever its names are. -/
theorem adds_addAt (path : List String) (command : Command) :
    (addAt path command).Adds path command := by
  rcases List.eq_nil_or_concat path with rfl | ⟨front, last, rfl⟩
  · exact fun growth tidy => ⟨fun free => free.present rfl, rfl⟩
  · rw [List.concat_eq_append]
    simp only [addAt, List.getLast?_concat, List.dropLast_concat]
    exact (adds_insert last command _).descend (List.cons_ne_nil _ _) front

end Change

namespace Children

variable {children : Children}

theorem fst_removeAt (children : Children) (path : List String) :
    (children.removeAt path).1 = children.at? path := by
  induction path generalizing children with
  | nil => rfl
  | cons name rest ih =>
    cases rest with
    | nil => rfl
    | cons next more =>
      unfold removeAt at?
      split
      · rename_i id below found
        rw [← ih below]
        rcases removeAt below (next :: more) with ⟨_ | removed, left⟩
        · rfl
        · dsimp only
          split <;> rfl
      · rfl

theorem snd_removeAt_of_vacant {path : List String} (vacant : children.at? path = none) :
    (children.removeAt path).2 = children := by
  cases path with
  | nil => rfl
  | cons name rest =>
    cases rest with
    | nil => exact NameMap.erase_eq_self vacant
    | cons next more =>
      rcases group_or_plain children name with ⟨id, below, found⟩ | plain
      · rw [at?_cons_group found (List.cons_ne_nil _ _), ← fst_removeAt below] at vacant
        simp only [removeAt, found]
        generalize removeAt below (next :: more) = parts at vacant
        obtain ⟨_ | removed, left⟩ := parts
        · rfl
        · cases vacant
      · unfold removeAt
        split
        · rename_i id below found
          exact absurd found (plain id below)
        · rfl

theorem filter_leavesBelow_of_absent {name : String} (absent : children.get? name = none)
    (path : List String) :
    ((leavesBelow children).filter fun leaf => !(name :: path).isPrefixOf leaf.1) =
      leavesBelow children := by
  apply List.filter_eq_self.2
  intro leaf inside
  rw [leavesBelow_eq, List.mem_flatMap] at inside
  obtain ⟨entry, listed, below⟩ := inside
  obtain ⟨leaf, -, rfl⟩ := List.mem_map.1 below
  have other : name ≠ entry.1 := by
    rintro rfl
    have named : entry.1 ∈ NameMap.names children := List.mem_map_of_mem listed
    obtain ⟨node, found⟩ := (NameMap.mem_names_iff children entry.1).1 named
    rw [absent] at found
    cases found
  simp [List.isPrefixOf, other]

/-- The leaves that do not go on from a path are, at its first name, those that do not go on from
the rest of it, and all those at other names. -/
theorem filter_leavesBelow_of_get? (sorted : NameMap.Sorted children) {name : String} {node : Node}
    (found : children.get? name = some node) (path : List String) :
    ((leavesBelow children).filter fun leaf => !(name :: path).isPrefixOf leaf.1).Perm
      (((node.leaves.filter fun leaf => !path.isPrefixOf leaf.1).map
        fun leaf => (name :: leaf.1, leaf.2)) ++ leavesBelow (children.erase name)) := by
  have gone : NameMap.get? (children.erase name) name = none := by
    rw [NameMap.get?_erase, if_pos rfl]
  have parts := (leavesBelow_of_get? sorted found).filter
    fun leaf => !(name :: path).isPrefixOf leaf.1
  rw [List.filter_append, filter_leavesBelow_of_absent gone, List.filter_map] at parts
  simpa [Function.comp_def, List.isPrefixOf] using parts

/-- The leaves that are left are those whose paths do not go on from the path. -/
theorem leavesBelow_removeAt (tidy : Tidy children) {path : List String} (present : path ≠ []) :
    (leavesBelow (children.removeAt path).2).Perm
      ((leavesBelow children).filter fun leaf => !path.isPrefixOf leaf.1) := by
  induction path generalizing children with
  | nil => exact absurd rfl present
  | cons name rest ih =>
    cases found : children.get? name with
    | none =>
      have vacant : children.at? (name :: rest) = none := (free_of_absent found rest).vacant
      rw [snd_removeAt_of_vacant vacant, filter_leavesBelow_of_absent found]
    | some node =>
      refine .trans ?_ (filter_leavesBelow_of_get? tidy.sorted found rest).symm
      cases rest with
      | nil =>
        have none_left : (node.leaves.filter fun leaf => !([].isPrefixOf leaf.1)) = [] := by simp
        rw [none_left]
        exact .refl _
      | cons next more =>
        cases node with
        | leaf old =>
          simp only [removeAt, found]
          exact leavesBelow_of_get? tidy.sorted found
        | group id below =>
          have inner := ih (tidy.inner found).2 (List.cons_ne_nil next more)
          refine .trans ?_ ((inner.map _).append_right _)
          have unchanged : (removeAt below (next :: more)).1 = none →
              (removeAt below (next :: more)).2 = below := by
            rw [fst_removeAt]
            exact snd_removeAt_of_vacant
          simp only [removeAt, found]
          generalize removeAt below (next :: more) = parts at unchanged
          obtain ⟨_ | removed, left⟩ := parts
          · rw [unchanged rfl]
            exact leavesBelow_of_get? tidy.sorted found
          · dsimp only
            split
            · rename_i empty
              rw [List.isEmpty_iff.1 empty]
              exact .refl _
            · exact leavesBelow_set tidy.sorted name (.group id left)

/-- No path of a leaf goes on from the path of another. -/
theorem eq_of_isPrefix (tidy : Tidy children) {leaf other : List String × Command}
    (inside : leaf ∈ leavesBelow children) (listed : other ∈ leavesBelow children)
    (begins : leaf.1 <+: other.1) : leaf = other := by
  obtain ⟨path, command⟩ := leaf
  obtain ⟨longer, further⟩ := other
  obtain ⟨rest, rfl⟩ : ∃ rest, path ++ rest = longer := begins
  have stands := (at?_eq_leaf_iff tidy).2 inside
  have present : path ≠ [] := by
    rintro rfl
    cases stands
  obtain ⟨node, found, below⟩ := (mem_leavesBelow_append tidy present rest further).1 listed
  rw [stands] at found
  cases found
  obtain ⟨rfl, rfl⟩ := Prod.mk.inj (List.mem_singleton.1 below)
  rw [List.append_nil]

theorem Tidy.of_at? (tidy : Tidy children) {path : List String} {node : Node}
    (found : children.at? path = some node) : node.Tidy := by
  induction path generalizing children with
  | nil => cases found
  | cons name rest ih =>
    by_cases ends : rest = []
    · subst ends
      exact tidy.node found
    · rcases group_or_plain children name with ⟨id, below, here⟩ | plain
      · rw [at?_cons_group here ends] at found
        exact ih (tidy.inner here).2 found
      · rw [at?_cons_plain plain ends] at found
        cases found

/-- Something stands at a path when a leaf has it or goes on from it. -/
theorem at?_isSome_iff (tidy : Tidy children) {path : List String} (present : path ≠ []) :
    (∃ node, children.at? path = some node) ↔ ∃ leaf ∈ leavesBelow children, path <+: leaf.1 := by
  constructor
  · rintro ⟨node, found⟩
    obtain ⟨⟨rest, command⟩, more, leaves⟩ :=
      List.exists_cons_of_ne_nil (Node.Tidy.leaves_ne_nil node (tidy.of_at? found))
    have below : (rest, command) ∈ node.leaves := by
      rw [leaves]
      exact List.mem_cons_self
    exact ⟨(path ++ rest, command),
      (mem_leavesBelow_append tidy present rest command).2 ⟨node, found, below⟩, rest, rfl⟩
  · rintro ⟨⟨longer, command⟩, listed, rest, rfl⟩
    obtain ⟨node, found, -⟩ := (mem_leavesBelow_append tidy present rest command).1 listed
    exact ⟨node, found⟩

/-- A group stands at a path when a leaf goes on from it and does not end there. -/
theorem at?_eq_group_iff_properPrefix (tidy : Tidy children) {path : List String}
    (present : path ≠ []) :
    (∃ id below, children.at? path = some (.group id below)) ↔
      ∃ leaf ∈ leavesBelow children, path <+: leaf.1 ∧ path ≠ leaf.1 := by
  constructor
  · rintro ⟨id, below, found⟩
    obtain ⟨leaf, listed, begins⟩ := (at?_isSome_iff tidy present).1 ⟨_, found⟩
    refine ⟨leaf, listed, begins, ?_⟩
    rintro rfl
    rw [(at?_eq_leaf_iff tidy).2 listed] at found
    cases found
  · rintro ⟨leaf, listed, begins, different⟩
    obtain ⟨node, found⟩ := (at?_isSome_iff tidy present).2 ⟨leaf, listed, begins⟩
    cases node with
    | group id below => exact ⟨id, below, found⟩
    | leaf command =>
      have here := (at?_eq_leaf_iff tidy).1 found
      exact absurd (congrArg Prod.fst (eq_of_isPrefix tidy here listed begins)) different

end Children

/-- A change of the tree at a path, as the tree itself makes it. -/
inductive PathChange where
  | add (path : List String) (command : Command)
  | remove (path : List String)

namespace Groups

/-- The groups after a change at a path, which may succeed or fail. -/
def after (groups : Groups) : PathChange → Groups
  | .add path command => (groups.change (.addAt path command)).2
  | .remove path => (groups.change (.removeAt path)).2

/-- The tree behaves as a finite map from paths to commands, whose pairs are its leaves. -/
structure IsPathMap (groups : Groups) : Prop where
  /-- A path is mapped to one command. -/
  distinct : ((leavesBelow groups.top).map Prod.fst).Nodup
  /-- The empty path is mapped to nothing. -/
  present : ∀ leaf ∈ leavesBelow groups.top, leaf.1 ≠ []
  /-- No path is a proper prefix of another. -/
  apart : ∀ leaf ∈ leavesBelow groups.top, ∀ other ∈ leavesBelow groups.top,
    leaf.1 <+: other.1 → leaf.1 = other.1
  /-- A command is added where nothing is in its way. -/
  add_iff : ∀ path command,
    (∃ later, groups.change (.addAt path command) = (.ok (), later)) ↔ groups.top.Free path
  /-- What is added is one pair. -/
  added : ∀ path command later, groups.change (.addAt path command) = (.ok (), later) →
    (leavesBelow later.top).Perm ((path, command) :: leavesBelow groups.top)
  /-- What is not added changes nothing. -/
  refused : ∀ path command error later,
    groups.change (.addAt path command) = (.error error, later) → later = groups
  /-- There is something to remove where a path of the map is or goes on. -/
  remove_iff : ∀ path, path ≠ [] →
    ((∃ node later, groups.change (.removeAt path) = (.ok (some node), later)) ↔
      ∃ leaf ∈ leavesBelow groups.top, path <+: leaf.1)
  /-- What is removed are the pairs whose paths are the path or go on from it. -/
  removed : ∀ path, path ≠ [] →
    (leavesBelow (groups.change (.removeAt path)).2.top).Perm
      ((leavesBelow groups.top).filter fun leaf => !path.isPrefixOf leaf.1)
  /-- A command is found at the paths that are mapped to it. -/
  found_leaf : ∀ path command,
    groups.top.at? path = some (.leaf command) ↔ (path, command) ∈ leavesBelow groups.top
  /-- A group is found at the proper prefixes of the paths. -/
  found_group : ∀ path, path ≠ [] →
    ((∃ id below, groups.top.at? path = some (.group id below)) ↔
      ∃ leaf ∈ leavesBelow groups.top, path <+: leaf.1 ∧ path ≠ leaf.1)
  /-- At the empty path nothing is found, and nothing is removed there. -/
  empty_path : groups.top.at? [] = none ∧ groups.change (.removeAt []) = (.ok none, groups)
  /-- No group below the top is empty. -/
  pruned : ∀ group ∈ groupsBelow groups.top, group ≠ []

open Children

variable {groups : Groups}

theorem change_removeAt (groups : Groups) (path : List String) :
    groups.change (.removeAt path) = (.ok (groups.top.at? path), groups.without path) := by
  unfold change without
  rw [Change.run_removeAt, fst_removeAt]

/-- A command is added to a tidy tree where its path is free; elsewhere nothing happens. -/
theorem change_addAt (tidy : Tidy groups.top) (path : List String) (command : Command) :
    (∃ later, groups.change (.addAt path command) = (.ok (), later) ∧ groups.top.Free path ∧
        Tidy later.top ∧
        (leavesBelow later.top).Perm ((path, command) :: leavesBelow groups.top)) ∨
      ∃ error, groups.change (.addAt path command) = (.error error, groups) ∧
        ¬ groups.top.Free path := by
  have adds := Change.adds_addAt path command ⟨groups.top, groups.next, groups.dropped⟩ tidy
  unfold change
  generalize (Change.addAt path command).run.run _ = ran at adds ⊢
  obtain ⟨error | done, growth⟩ := ran
  · obtain ⟨blocked, rfl⟩ := adds
    exact .inr ⟨error, rfl, blocked⟩
  · obtain ⟨free, growth_tidy, -, leaves⟩ := adds
    exact .inl ⟨_, rfl, free, growth_tidy, leaves⟩

/-- A change at a path leaves a tidy tree. -/
theorem tidy_after (tidy : Tidy groups.top) (made : PathChange) : Tidy (groups.after made).top := by
  cases made with
  | remove path => exact tidy.removeAt path
  | add path command =>
    unfold after
    rcases change_addAt tidy path command with ⟨later, runs, -, later_tidy, -⟩ | ⟨error, runs, -⟩
    · simpa only [runs] using later_tidy
    · simpa only [runs] using tidy

theorem isPathMap_of_tidy (tidy : Tidy groups.top) : groups.IsPathMap where
  distinct := tidy.nodup_leaves
  present := by
    rintro ⟨path, command⟩ inside rfl
    exact not_mem_leavesBelow_nil groups.top command inside
  apart := fun _ inside _ listed begins =>
    congrArg Prod.fst (eq_of_isPrefix tidy inside listed begins)
  add_iff := by
    intro path command
    rcases change_addAt tidy path command with ⟨later, runs, free, -⟩ | ⟨error, runs, blocked⟩
    · exact ⟨fun _ => free, fun _ => ⟨later, runs⟩⟩
    · simp [runs, blocked]
  added := by
    intro path command later same
    rcases change_addAt tidy path command with ⟨after, runs, -, -, leaves⟩ | ⟨error, runs, -⟩
    · rw [runs] at same
      cases same
      exact leaves
    · rw [runs] at same
      cases same
  refused := by
    intro path command error later same
    rcases change_addAt tidy path command with ⟨after, runs, -⟩ | ⟨other, runs, -⟩
    · rw [runs] at same
      cases same
    · rw [runs] at same
      cases same
      rfl
  remove_iff := by
    intro path present
    rw [change_removeAt, ← at?_isSome_iff tidy present]
    simp
  removed := fun path present => leavesBelow_removeAt tidy present
  found_leaf := fun path command => at?_eq_leaf_iff tidy
  found_group := fun path present => at?_eq_group_iff_properPrefix tidy present
  empty_path := ⟨rfl, rfl⟩
  pruned := fun group inside => (tidy.below group inside).2

/-- A tree whose groups below the top are not empty behaves as a finite map from paths to commands,
and so it does after any changes at paths. -/
theorem isPathMap_foldl_after (groups : Groups) (tidy : Tidy groups.top)
    (changes : List PathChange) : (changes.foldl after groups).IsPathMap := by
  induction changes generalizing groups with
  | nil => exact isPathMap_of_tidy tidy
  | cons made rest ih => exact ih (groups.after made) (tidy_after tidy made)

/-- A tree in which a command was absorbed by a group of its name. -/
def absorbed : Groups where
  top := [("list", .group 1 [("", .leaf (.literal "all")), ("add", .leaf (.literal "one"))])]
  next := 2
  dropped := []

theorem tidy_absorbed : Tidy absorbed.top := by
  refine tidy_singleton "list" (tidy_group_iff.2 ⟨List.cons_ne_nil _ _, tidy_iff.2 ⟨?_, ?_⟩⟩)
  · exact List.pairwise_pair.2 (by decide)
  · simp [tidy_leaf]

/-- The second of four changes is refused; names may be empty, also those of groups. -/
theorem isPathMap_foldl_after_absorbed :
    let changes : List PathChange :=
      [.add ["", "x"] .root, .add ["list", "add", "y"] .root, .add ["list", "remove"] .root,
        .remove ["list", "add"]]
    Tidy absorbed.top ∧ (changes.foldl after absorbed).IsPathMap ∧
      (leavesBelow (changes.foldl after absorbed).top).map Prod.fst =
        [["", "x"], ["list", ""], ["list", "remove"]] :=
  ⟨tidy_absorbed, isPathMap_foldl_after absorbed tidy_absorbed _, by decide +kernel⟩

end Groups

end ChatLine
