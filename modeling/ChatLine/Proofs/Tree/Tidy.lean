import ChatLine.Proofs.Tree.Places
import Mathlib.Data.List.Nodup

set_option autoImplicit false

namespace ChatLine

/-- The names of the groups at and below a node are in order, and none of the groups is empty. -/
def Node.Tidy (node : Node) : Prop :=
  ∀ group ∈ node.groups, NameMap.Sorted group ∧ group ≠ []

/-- The names of a group and of the groups below it are in order, and none below is empty. -/
structure Children.Tidy (children : List (String × Node)) : Prop where
  sorted : NameMap.Sorted children
  below : ∀ group ∈ groupsBelow children, NameMap.Sorted group ∧ group ≠ []

namespace Children

variable {children : Children} {name : String}

theorem groupsBelow_eq (children : Children) :
    groupsBelow children = children.flatMap fun entry => entry.2.groups := by
  induction children with
  | nil => rfl
  | cons entry rest ih =>
    obtain ⟨name, node⟩ := entry
    rw [groupsBelow, ih, List.flatMap_cons]

theorem leavesBelow_eq (children : Children) :
    leavesBelow children = children.flatMap fun entry =>
      entry.2.leaves.map fun leaf => (entry.1 :: leaf.1, leaf.2) := by
  induction children with
  | nil => rfl
  | cons entry rest ih =>
    obtain ⟨name, node⟩ := entry
    rw [leavesBelow, ih, List.flatMap_cons]

theorem leavesBelow_perm {others : Children} (perm : children.Perm others) :
    (leavesBelow children).Perm (leavesBelow others) := by
  rw [leavesBelow_eq, leavesBelow_eq]
  exact perm.flatMap_right _

/-- Taking a node out keeps what a tree has in common with the groups in it, if taking a name away
keeps it and so does setting a group that is not empty in the place of another. -/
theorem removeAt_keeps {keeps : Children → Prop}
    (inner : ∀ {children : Children} {name id below}, keeps children →
      children.get? name = some (.group id below) → keeps below)
    (erase : ∀ {children : Children}, keeps children → ∀ name, keeps (children.erase name))
    (set : ∀ {children : Children} {name id below} {left : Children}, keeps children →
      children.get? name = some (.group id below) → left ≠ [] → keeps left →
      keeps (children.set name (.group id left)))
    (before : keeps children) (path : List String) : keeps (children.removeAt path).2 := by
  induction path generalizing children with
  | nil => exact before
  | cons name rest ih =>
    cases rest with
    | nil => exact erase before name
    | cons next more =>
      unfold removeAt
      split
      · rename_i id below found
        have left_keeps := ih (inner before found)
        generalize removeAt below (next :: more) = parts at left_keeps
        obtain ⟨_ | removed, left⟩ := parts
        · exact before
        · dsimp only at left_keeps ⊢
          split
          · exact erase before name
          · rename_i present
            exact set before found (fun empty => present (List.isEmpty_iff.2 empty)) left_keeps
      · exact before

theorem tidy_iff : Tidy children ↔ NameMap.Sorted children ∧ ∀ entry ∈ children, entry.2.Tidy := by
  have listed : (∀ group ∈ groupsBelow children, NameMap.Sorted group ∧ group ≠ []) ↔
      ∀ entry ∈ children, entry.2.Tidy := by
    simp only [groupsBelow_eq, List.mem_flatMap, Node.Tidy]
    exact ⟨fun tidy entry inside group below => tidy group ⟨entry, inside, below⟩,
      fun tidy group ⟨entry, inside, below⟩ => tidy entry inside group below⟩
  exact ⟨fun tidy => ⟨tidy.sorted, listed.1 tidy.below⟩,
    fun ⟨sorted, nodes⟩ => ⟨sorted, listed.2 nodes⟩⟩

theorem tidy_leaf (command : Command) : (Node.leaf command).Tidy :=
  fun _ inside => nomatch inside

theorem tidy_group_iff {id : Nat} {below : Children} :
    (Node.group id below).Tidy ↔ below ≠ [] ∧ Tidy below := by
  simp only [Node.Tidy, Node.groups, List.forall_mem_cons]
  exact ⟨fun ⟨⟨sorted, present⟩, inner⟩ => ⟨present, sorted, inner⟩,
    fun ⟨present, inner⟩ => ⟨⟨inner.sorted, present⟩, inner.below⟩⟩

theorem tidy_nil : Tidy [] where
  sorted := NameMap.sorted_nil
  below := fun _ inside => nomatch inside

theorem tidy_singleton (name : String) {node : Node} (tidy : node.Tidy) : Tidy [(name, node)] :=
  tidy_iff.2 ⟨List.pairwise_singleton _ _, fun _ inside => List.mem_singleton.1 inside ▸ tidy⟩

namespace Tidy

theorem node (tidy : Tidy children) {node : Node} (found : children.get? name = some node) :
    node.Tidy :=
  (tidy_iff.1 tidy).2 _ (NameMap.mem_of_get? found)

theorem inner (tidy : Tidy children) {id : Nat} {below : Children}
    (found : children.get? name = some (.group id below)) : below ≠ [] ∧ Tidy below :=
  tidy_group_iff.1 (tidy.node found)

theorem set (tidy : Tidy children) (name : String) {node : Node} (node_tidy : node.Tidy) :
    Tidy (children.set name node) := by
  refine tidy_iff.2 ⟨tidy.sorted.set name node, fun entry inside => ?_⟩
  rcases NameMap.mem_set inside with rfl | old
  · exact node_tidy
  · exact (tidy_iff.1 tidy).2 entry old

theorem erase (tidy : Tidy children) (name : String) : Tidy (children.erase name) :=
  tidy_iff.2 ⟨tidy.sorted.erase name, fun entry inside =>
    (tidy_iff.1 tidy).2 entry (List.mem_of_mem_filter inside)⟩

/-- Taking a node out leaves a tidy tree: a group that would be left empty goes with it. -/
theorem removeAt (tidy : Tidy children) (path : List String) : Tidy (children.removeAt path).2 :=
  removeAt_keeps (fun tidy found => (tidy.inner found).2) (fun tidy => tidy.erase)
    (fun tidy _ present left_tidy => tidy.set _ (tidy_group_iff.2 ⟨present, left_tidy⟩)) tidy path

end Tidy

/-- The leaves of a group with a node set are those at the node and those at the other names. -/
theorem leavesBelow_set (sorted : NameMap.Sorted children) (name : String) (node : Node) :
    (leavesBelow (children.set name node)).Perm
      ((node.leaves.map fun leaf => (name :: leaf.1, leaf.2)) ++
        leavesBelow (children.erase name)) :=
  leavesBelow_perm (sorted.set_perm name node)

/-- The leaves of a group are those at a name and those at the others. -/
theorem leavesBelow_of_get? (sorted : NameMap.Sorted children) {node : Node}
    (found : children.get? name = some node) :
    (leavesBelow children).Perm
      ((node.leaves.map fun leaf => (name :: leaf.1, leaf.2)) ++
        leavesBelow (children.erase name)) :=
  leavesBelow_perm (sorted.perm_cons_erase found)

theorem not_mem_leavesBelow_nil (children : Children) (command : Command) :
    ([], command) ∉ leavesBelow children := by
  simp [leavesBelow_eq]

theorem mem_leavesBelow_cons (sorted : NameMap.Sorted children) (name : String)
    (rest : List String) (command : Command) :
    (name :: rest, command) ∈ leavesBelow children ↔
      ∃ node, children.get? name = some node ∧ (rest, command) ∈ node.leaves := by
  simp only [leavesBelow_eq, List.mem_flatMap, List.mem_map, NameMap.get?_eq_some_iff sorted]
  constructor
  · rintro ⟨⟨key, node⟩, inside, leaf, below, same⟩
    cases same
    exact ⟨node, inside, below⟩
  · rintro ⟨node, inside, below⟩
    exact ⟨(name, node), inside, _, below, rfl⟩

end Children

mutual

theorem Node.Sound.tidy (node : Node) (sound : node.Sound) : node.Tidy := by
  match node with
  | .leaf command => exact Children.tidy_leaf command
  | .group id below =>
    cases sound with
    | group _ present inner =>
      exact Children.tidy_group_iff.2
        ⟨present, Children.tidy_iff.2 ⟨inner.sorted, tidy_of_sound below inner.nodes⟩⟩

theorem tidy_of_sound (children : List (String × Node))
    (sound : ∀ entry ∈ children, entry.2.Sound) : ∀ entry ∈ children, entry.2.Tidy := by
  intro entry inside
  match children with
  | [] => cases inside
  | (name, node) :: rest =>
    rcases List.mem_cons.1 inside with rfl | later
    · exact Node.Sound.tidy node (sound _ List.mem_cons_self)
    · exact tidy_of_sound rest (fun other listed => sound other (List.mem_cons_of_mem _ listed))
        entry later

end

/-- A tree in good order is tidy. -/
theorem Children.Sound.tidy {children : Children} (sound : Children.Sound children) :
    Children.Tidy children :=
  Children.tidy_iff.2 ⟨sound.sorted, tidy_of_sound children sound.nodes⟩

mutual

theorem Node.nodup_leaves (node : Node) (tidy : node.Tidy) : (node.leaves.map Prod.fst).Nodup := by
  match node with
  | .leaf command => simp [Node.leaves]
  | .group id children =>
    have inner := (Children.tidy_group_iff.1 tidy).2
    simp only [Node.leaves]
    exact nodup_leaves_of_sorted children inner.sorted (Children.tidy_iff.1 inner).2

theorem nodup_leaves_of_sorted (children : List (String × Node)) (sorted : NameMap.Sorted children)
    (tidy : ∀ entry ∈ children, entry.2.Tidy) : ((leavesBelow children).map Prod.fst).Nodup := by
  match children with
  | [] => simp [leavesBelow]
  | (name, node) :: rest =>
    obtain ⟨first, others⟩ := List.pairwise_cons.1 sorted
    have here := Node.nodup_leaves node (tidy _ List.mem_cons_self)
    have later := nodup_leaves_of_sorted rest others fun entry inside =>
      tidy entry (List.mem_cons_of_mem _ inside)
    simp only [leavesBelow, List.map_append, List.map_map]
    refine List.nodup_append.2 ⟨?_, later, ?_⟩
    · have injective : Function.Injective fun path : List String => name :: path :=
        fun first second same => (List.cons.inj same).2
      have prefixed := List.Nodup.map injective here
      rwa [List.map_map] at prefixed
    · intro path inside other outside same
      subst same
      obtain ⟨leaf, -, rfl⟩ := List.mem_map.1 inside
      obtain ⟨⟨path, command⟩, below, same⟩ := List.mem_map.1 outside
      dsimp only [Function.comp_apply] at same
      subst same
      obtain ⟨node, found, -⟩ := (Children.mem_leavesBelow_cons others name leaf.1 command).1 below
      exact String.lt_irrefl name (first _ (NameMap.mem_of_get? found))

end

mutual

theorem Node.Tidy.leaves_ne_nil (node : Node) (tidy : node.Tidy) : node.leaves ≠ [] := by
  match node with
  | .leaf command => simp [Node.leaves]
  | .group id children =>
    obtain ⟨present, inner⟩ := Children.tidy_group_iff.1 tidy
    exact leavesBelow_ne_nil children present (Children.tidy_iff.1 inner).2

theorem leavesBelow_ne_nil (children : List (String × Node)) (present : children ≠ [])
    (tidy : ∀ entry ∈ children, entry.2.Tidy) : leavesBelow children ≠ [] := by
  match children with
  | [] => exact absurd rfl present
  | (name, node) :: rest =>
    intro empty
    simp only [leavesBelow, List.append_eq_nil_iff, List.map_eq_nil_iff] at empty
    exact Node.Tidy.leaves_ne_nil node (tidy _ List.mem_cons_self) empty.1

end

theorem Children.Tidy.nodup_leaves {children : Children} (tidy : Children.Tidy children) :
    ((leavesBelow children).map Prod.fst).Nodup :=
  nodup_leaves_of_sorted children tidy.sorted (Children.tidy_iff.1 tidy).2

end ChatLine
