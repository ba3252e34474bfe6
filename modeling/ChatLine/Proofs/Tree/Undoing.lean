import ChatLine.Proofs.Tree.Layout

set_option autoImplicit false

namespace ChatLine.Children

/-- The children after a command was put at some names and taken out again: a command that stood in
the way is in a group of its own now. -/
def opened (id : Nat) (children : Children) : List String → Children
  | [] => children
  | name :: rest =>
    match children.get? name with
    | some (.group own below) => children.set name (.group own (opened id below rest))
    | some (.leaf command) =>
      if rest = [] then children else children.set name (.group id [("", .leaf command)])
    | none => children

/-- The children with the node at a path replaced. -/
def setAt (children : Children) (node : Node) : List String → Children
  | [] => children
  | [name] => children.set name node
  | name :: next :: rest =>
    match children.get? name with
    | some (.group id below) => children.set name (.group id (setAt below node (next :: rest)))
    | _ => children

variable {children : Children} {names : List String}

theorem absent_of_plain {name : String} (plain : children.Plain name)
    (free : ∀ old, children.get? name ≠ some (.leaf old)) : children.get? name = none := by
  rcases plain.absent_or_leaf with absent | ⟨old, leaf⟩
  · exact absent
  · exact absurd leaf (free old)

theorem opened_absent {id : Nat} {name : String} (absent : children.get? name = none)
    (rest : List String) : children.opened id (name :: rest) = children := by
  simp only [opened, absent]

theorem opened_group {id own : Nat} {name : String} {below : Children}
    (found : children.get? name = some (.group own below)) (rest : List String) :
    children.opened id (name :: rest) = children.set name (.group own (below.opened id rest)) := by
  simp only [opened, found]

theorem opened_leaf {id : Nat} {name : String} {command : Command}
    (found : children.get? name = some (.leaf command)) {rest : List String} (longer : rest ≠ []) :
    children.opened id (name :: rest) = children.set name (.group id [("", .leaf command)]) := by
  simp only [opened, found, longer, ↓reduceIte]

theorem opened_ne_nil {id : Nat} (present : children ≠ []) : children.opened id names ≠ [] := by
  cases names with
  | nil => exact present
  | cons name rest =>
    unfold opened
    split
    · exact NameMap.set_ne_nil _ _ _
    · split
      · exact present
      · exact NameMap.set_ne_nil _ _ _
    · exact present

theorem slot_set_group (name : String) (id : Nat) (below : Children) (rest : List String) :
    slot (children.set name (.group id below)) (name :: rest) = name :: below.slot rest := by
  simp only [slot, NameMap.get?_set, ↓reduceIte]

/-- What is left of a group when the node at a path in it is taken out. -/
theorem removeAt_set_group {name : String} {id : Nat} {below left : Children} {node : Node}
    {path : List String} (longer : path ≠ []) (removed : below.removeAt path = (some node, left)) :
    removeAt (children.set name (.group id below)) (name :: path) =
      (some node,
        if left = [] then children.erase name else children.set name (.group id left)) := by
  obtain ⟨next, rest, rfl⟩ := List.exists_cons_of_ne_nil longer
  simp only [removeAt, NameMap.get?_set, ↓reduceIte, removed, List.isEmpty_iff, NameMap.erase_set,
    NameMap.set_set]
  split <;> rfl

/-- A command that was put where none sat is what is taken out at its slot. -/
theorem removeAt_put (sound : Sound children) (named : ∀ name ∈ names, name ≠ "")
    (free : children.sits? names = none) (command : Command) (next : Nat) :
    (children.put command next names).removeAt ((children.put command next names).slot names) =
      (some (.leaf command), children.opened next names) := by
  induction names generalizing children next with
  | nil =>
    have absent : children.get? "" = none := by
      refine absent_of_plain sound.plain fun old found => ?_
      simp only [sits?, found] at free
      cases free
    simp only [put, slot, removeAt, opened, NameMap.get?_set, NameMap.erase_set,
      NameMap.erase_eq_self absent, ↓reduceIte]
  | cons name rest ih =>
    have name_named := named name List.mem_cons_self
    have others := fun other inside => named other (List.mem_cons_of_mem name inside)
    rcases group_or_plain children name with ⟨id, below, found⟩ | plain
    · rw [sits?_group name_named found] at free
      have inner := ih (sound.inner found).2 others free next
      rw [put_group found, slot_set_group,
        removeAt_set_group (slot_ne_nil _ _) inner, opened_group found,
        if_neg (opened_ne_nil (sound.inner found).1)]
    · by_cases ends : rest = []
      · subst ends
        have absent : children.get? name = none := by
          refine absent_of_plain plain fun old found => ?_
          rw [sits?_leaf name_named found, if_pos rfl] at free
          cases free
        rw [put_last plain, opened_absent absent]
        simp only [slot, removeAt, NameMap.get?_set, NameMap.erase_set, ↓reduceIte,
          NameMap.erase_eq_self absent]
      · obtain ⟨first, more, rfl⟩ := List.exists_cons_of_ne_nil ends
        have absent_inside : (moved (children.get? name)).get? first = none :=
          get?_moved _ (others first List.mem_cons_self)
        have inner := ih (moved_sound plain) others (sits?_absent absent_inside more) (next + 1)
        rw [put_plain plain ends, slot_set_group, removeAt_set_group (slot_ne_nil _ _) inner,
          opened_absent absent_inside]
        rcases plain.absent_or_leaf with absent | ⟨old, leaf⟩
        · rw [opened_absent absent, absent, moved, if_pos rfl, NameMap.erase_eq_self absent]
        · rw [opened_leaf leaf ends, leaf, moved, if_neg (List.cons_ne_nil _ _)]

theorem opened_eq_self (sound : Sound children) (id : Nat)
    (clear : ∀ front, front <+: names → front ≠ names →
      ∀ old, children.at? front ≠ some (.leaf old)) : children.opened id names = children := by
  induction names generalizing children with
  | nil => rfl
  | cons name rest ih =>
    cases found : children.get? name with
    | none => exact opened_absent found rest
    | some node =>
      cases node with
      | leaf old =>
        by_cases ends : rest = []
        · simp only [opened, found, ends, ↓reduceIte]
        · refine absurd found (clear [name] ?_ ?_ old)
          · exact List.cons_prefix_cons.2 ⟨rfl, List.nil_prefix⟩
          · intro same
            exact ends (List.cons.inj same).2.symm
      | group own below =>
        have inside : opened id below rest = below := by
          refine ih (sound.inner found).2 ?_
          intro front begins shorter old leaf
          have present : front ≠ [] := by
            rintro rfl
            cases leaf
          refine clear (name :: front) (List.cons_prefix_cons.2 ⟨rfl, begins⟩) ?_ old ?_
          · exact fun same => shorter (List.cons.inj same).2
          · rw [at?_cons_group found present, leaf]
        rw [opened_group found, inside, NameMap.Sorted.set_eq_self sound.sorted found]

/-- A command in the way is replaced by a group in which it has the empty name. -/
theorem opened_eq_setAt (id : Nat) {front : List String} {old : Command} (begins : front <+: names)
    (shorter : front ≠ names) (stands : children.at? front = some (.leaf old)) :
    children.opened id names = children.setAt (.group id [("", .leaf old)]) front := by
  induction names generalizing children front with
  | nil => exact absurd (List.prefix_nil.1 begins) shorter
  | cons name rest ih =>
    cases front with
    | nil => cases stands
    | cons first more =>
      obtain ⟨rfl, inside⟩ := List.cons_prefix_cons.1 begins
      have remains : more ≠ rest := fun same => shorter (by rw [same])
      by_cases ends : more = []
      · subst ends
        rw [opened_leaf stands (Ne.symm remains)]
        rfl
      · rcases group_or_plain children first with ⟨own, below, found⟩ | plain
        · rw [at?_cons_group found ends] at stands
          rw [opened_group found, ih inside remains stands]
          obtain ⟨second, others, rfl⟩ := List.exists_cons_of_ne_nil ends
          simp only [setAt, found]
        · rw [at?_cons_plain plain ends] at stands
          cases stands

theorem sits?_opened (sound : Sound children) (present : names ≠ [])
    (named : ∀ name ∈ names, name ≠ "") (free : children.sits? names = none) (next : Nat) :
    sits? (children.opened next names) = children.sits? := by
  obtain ⟨put_sound, moved⟩ := put_spec sound present named .root next
  have sits : (children.put .root next names).sits? names = some .root := by
    rw [moved, Function.update_self]
  have removed := (removeAt_slot put_sound sits).2.2
  rw [removeAt_put sound named free .root next, moved, Function.update_idem, ← free,
    Function.update_eq_self] at removed
  exact removed

end ChatLine.Children
