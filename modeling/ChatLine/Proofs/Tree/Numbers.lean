import ChatLine.Proofs.Tree.Putting

set_option autoImplicit false

namespace ChatLine

mutual

def Node.numbered : Node → List (Nat × List (String × Node))
  | .leaf _ => []
  | .group id children => (id, children) :: numberedBelow children

def numberedBelow : List (String × Node) → List (Nat × List (String × Node))
  | [] => []
  | (_, node) :: rest => node.numbered ++ numberedBelow rest

end

mutual

theorem Node.childrenOf?_eq (id : Nat) (node : Node) :
    node.childrenOf? id = (node.numbered.find? fun group => group.1 == id).map Prod.snd := by
  match node with
  | .leaf command => rfl
  | .group own children =>
    have below := childrenBelow?_eq id children
    simp only [Node.childrenOf?, Node.numbered, List.find?_cons]
    by_cases same : own = id
    · rw [if_pos same, beq_iff_eq.2 same]
      rfl
    · rw [if_neg same, beq_eq_false_iff_ne.2 same]
      exact below

theorem childrenBelow?_eq (id : Nat) (children : List (String × Node)) :
    Node.childrenBelow? id children =
      ((numberedBelow children).find? fun group => group.1 == id).map Prod.snd := by
  match children with
  | [] => rfl
  | (name, node) :: rest =>
    have here := Node.childrenOf?_eq id node
    have later := childrenBelow?_eq id rest
    simp only [Node.childrenBelow?, numberedBelow, List.find?_append, here, later]
    cases (node.numbered.find? fun group => group.1 == id) <;> rfl

end

namespace Children

def numbers (children : Children) : List Nat :=
  (numberedBelow children).map Prod.fst

variable {children : Children} {names : List String}

theorem numberedBelow_eq (children : Children) :
    numberedBelow children = children.flatMap fun entry => entry.2.numbered := by
  induction children with
  | nil => rfl
  | cons entry rest ih =>
    obtain ⟨name, node⟩ := entry
    rw [numberedBelow, ih, List.flatMap_cons]

theorem numbers_perm {others : Children} (perm : children.Perm others) :
    children.numbers.Perm others.numbers := by
  unfold numbers
  rw [numberedBelow_eq, numberedBelow_eq]
  exact (perm.flatMap_right _).map Prod.fst

theorem numbers_cons_leaf (name : String) (command : Command) (rest : Children) :
    numbers ((name, .leaf command) :: rest) = numbers rest := rfl

theorem numbers_cons_group (name : String) (id : Nat) (below rest : Children) :
    numbers ((name, .group id below) :: rest) = id :: (numbers below ++ numbers rest) := by
  simp only [numbers, numberedBelow, Node.numbered, List.cons_append, List.map_cons,
    List.map_append]

theorem numbers_moved {name : String} (plain : children.Plain name) :
    numbers (moved (children.get? name)) = [] := by
  rcases plain.absent_or_leaf with absent | ⟨old, leaf⟩
  · rw [absent]
    rfl
  · rw [leaf]
    rfl

/-- The numbers of a group are those at a name and those at the others. -/
theorem numbers_of_group (sound : Sound children) {name : String} {id : Nat} {below : Children}
    (found : children.get? name = some (.group id below)) :
    children.numbers.Perm (id :: (numbers below ++ numbers (children.erase name))) := by
  rw [← numbers_cons_group name]
  exact numbers_perm (NameMap.Sorted.perm_cons_erase sound.sorted found)

theorem numbers_of_plain (sound : Sound children) {name : String} (plain : children.Plain name) :
    children.numbers.Perm (numbers (children.erase name)) := by
  rcases plain.absent_or_leaf with absent | ⟨old, leaf⟩
  · rw [NameMap.erase_eq_self absent]
  · rw [← numbers_cons_leaf name old (children.erase name)]
    exact numbers_perm (NameMap.Sorted.perm_cons_erase sound.sorted leaf)

theorem numbers_set_leaf (sound : Sound children) (name : String) (command : Command) :
    (numbers (children.set name (.leaf command))).Perm (numbers (children.erase name)) := by
  rw [← numbers_cons_leaf name command (children.erase name)]
  exact numbers_perm (NameMap.Sorted.set_perm sound.sorted name _)

theorem numbers_set_group (sound : Sound children) (name : String) (id : Nat) (below : Children) :
    (numbers (children.set name (.group id below))).Perm
      (id :: (numbers below ++ numbers (children.erase name))) := by
  rw [← numbers_cons_group name]
  exact numbers_perm (NameMap.Sorted.set_perm sound.sorted name _)

/-- Putting a command gives the next numbers to the groups that are made, and keeps the others. -/
theorem numbers_put (sound : Sound children) (named : ∀ name ∈ names, name ≠ "") (command : Command)
    (next : Nat) :
    (numbers (children.put command next names)).Perm
      (children.numbers ++ List.range' next (children.made names)) := by
  induction names generalizing children next with
  | nil =>
    rw [put, made, List.range'_zero, List.append_nil]
    exact (numbers_set_leaf sound _ _).trans (numbers_of_plain sound sound.plain).symm
  | cons name rest ih =>
    have others := fun other inside => named other (List.mem_cons_of_mem name inside)
    rcases group_or_plain children name with ⟨id, below, found⟩ | plain
    · rw [put_group found, made_group found]
      have inner := ih (sound.inner found).2 others next
      refine (numbers_set_group sound name id _).trans ?_
      refine List.Perm.trans ?_ ((numbers_of_group sound found).append_right _).symm
      rw [List.cons_append, List.append_assoc]
      refine List.Perm.cons id ?_
      refine (inner.append_right _).trans ?_
      rw [List.append_assoc]
      exact List.perm_append_comm.append_left _
    · rw [made_plain plain]
      by_cases ends : rest = []
      · subst ends
        rw [put_last plain, List.length_nil, List.range'_zero, List.append_nil]
        exact (numbers_set_leaf sound _ _).trans (numbers_of_plain sound plain).symm
      · obtain ⟨first, more, rfl⟩ := List.exists_cons_of_ne_nil ends
        have absent : (moved (children.get? name)).get? first = none :=
          get?_moved _ (others first List.mem_cons_self)
        have inner := ih (moved_sound plain) others (next + 1)
        rw [numbers_moved plain, made_plain (plain_of_absent absent), List.nil_append] at inner
        rw [put_plain plain ends, List.length_cons, List.range'_succ]
        refine (numbers_set_group sound name next _).trans ?_
        refine List.Perm.trans ?_ ((numbers_of_plain sound plain).append_right _).symm
        refine List.Perm.trans ?_ List.perm_middle.symm
        refine List.Perm.cons next ?_
        exact (inner.append_right _).trans List.perm_append_comm

theorem numbers_removeAt (sound : Sound children) (path : List String) :
    ∃ gone, children.numbers.Perm (numbers (children.removeAt path).2 ++ gone) := by
  induction path generalizing children with
  | nil => exact ⟨[], by rw [List.append_nil]; exact .refl _⟩
  | cons name rest ih =>
    have erased : ∃ gone, children.numbers.Perm (numbers (children.erase name) ++ gone) := by
      rcases group_or_plain children name with ⟨id, below, found⟩ | plain
      · refine ⟨id :: numbers below, (numbers_of_group sound found).trans ?_⟩
        exact (List.perm_append_comm.cons id).trans List.perm_middle.symm
      · exact ⟨[], by rw [List.append_nil]; exact numbers_of_plain sound plain⟩
    by_cases ends : rest = []
    · subst ends
      exact erased
    · obtain ⟨next, more, rfl⟩ := List.exists_cons_of_ne_nil ends
      have unchanged : ∃ gone, children.numbers.Perm (children.numbers ++ gone) :=
        ⟨[], by rw [List.append_nil]⟩
      unfold removeAt
      split
      · rename_i id below found
        have inner := ih (sound.inner found).2
        generalize removeAt below (next :: more) = parts at inner
        obtain ⟨_ | removed, left⟩ := parts
        · exact unchanged
        · dsimp only at inner ⊢
          split
          · exact erased
          · obtain ⟨gone, perm⟩ := inner
            refine ⟨gone, (numbers_of_group sound found).trans ?_⟩
            refine List.Perm.trans ?_ ((numbers_set_group sound name id left).append_right _).symm
            rw [List.cons_append, List.append_assoc]
            refine List.Perm.cons id ?_
            refine (perm.append_right _).trans ?_
            rw [List.append_assoc]
            exact List.perm_append_comm.append_left _
      · exact unchanged

end Children

namespace Groups

/-- No two groups of the tree have one number, none has the number of the whole tree, and the numbers
from the next one on are free. -/
structure Numbered (groups : Groups) : Prop where
  nodup : groups.top.numbers.Nodup
  ne_top : topId ∉ groups.top.numbers
  positive : 0 < groups.next
  lt_next : ∀ id ∈ groups.top.numbers, id < groups.next

namespace Numbered

variable {groups : Groups}

theorem empty : Numbered .empty where
  nodup := .nil
  ne_top := List.not_mem_nil
  positive := Nat.one_pos
  lt_next := fun _ inside => nomatch inside

theorem put (numbered : groups.Numbered) (sound : Children.Sound groups.top) {names : List String}
    (named : ∀ name ∈ names, name ≠ "") (command : Command) :
    (groups.put command names).Numbered := by
  have perm := Children.numbers_put sound named command groups.next
  have listed : ∀ id ∈ (groups.put command names).top.numbers,
      id ∈ groups.top.numbers ∨
        groups.next ≤ id ∧ id < groups.next + groups.top.made names := by
    intro id inside
    rcases List.mem_append.1 (perm.mem_iff.1 inside) with old | new
    · exact .inl old
    · exact .inr (List.mem_range'_1.1 new)
  refine ⟨?_, ?_, Nat.lt_add_right _ numbered.positive, ?_⟩
  · refine perm.nodup_iff.2 (List.nodup_append.2 ⟨numbered.nodup, List.nodup_range', ?_⟩)
    rintro id old other new rfl
    exact absurd (numbered.lt_next id old) (Nat.not_lt.2 (List.mem_range'_1.1 new).1)
  · intro top
    rcases listed _ top with old | ⟨later, -⟩
    · exact numbered.ne_top old
    · exact absurd numbered.positive (Nat.not_lt.2 later)
  · intro id inside
    rcases listed id inside with old | ⟨-, earlier⟩
    · exact Nat.lt_add_right _ (numbered.lt_next id old)
    · exact earlier

theorem without (numbered : groups.Numbered) (sound : Children.Sound groups.top)
    (path : List String) : (groups.without path).Numbered := by
  obtain ⟨gone, perm⟩ := Children.numbers_removeAt sound path
  have listed : ∀ id ∈ (groups.without path).top.numbers, id ∈ groups.top.numbers :=
    fun id inside => perm.mem_iff.2 (List.mem_append_left _ inside)
  exact {
    nodup := (List.nodup_append.1 (perm.nodup_iff.1 numbered.nodup)).1
    ne_top := fun top => numbered.ne_top (listed _ top)
    positive := numbered.positive
    lt_next := fun id inside => numbered.lt_next id (listed id inside) }

/-- A group of the tree is the one that its number calls. -/
theorem children_eq (numbered : groups.Numbered) {id : Nat} {below : List (String × Node)}
    (inside : (id, below) ∈ numberedBelow groups.top) : groups.children id = below := by
  have listed : id ∈ groups.top.numbers := List.mem_map_of_mem inside
  have other : id ≠ topId := fun same => numbered.ne_top (same ▸ listed)
  have found : (numberedBelow groups.top).find? (fun group => group.1 == id) = some (id, below) := by
    cases sought : (numberedBelow groups.top).find? fun group => group.1 == id with
    | none => exact absurd (beq_self_eq_true id) (List.find?_eq_none.1 sought _ inside)
    | some other =>
      have number := List.find?_some sought
      rw [List.inj_on_of_nodup_map numbered.nodup (List.mem_of_find?_eq_some sought) inside
        (eq_of_beq number)]
  unfold Groups.children
  rw [if_neg other, childrenBelow?_eq, found]
  rfl

end Numbered

end Groups

end ChatLine
