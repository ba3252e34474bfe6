import ChatLine.Proofs.Tree.Putting

set_option autoImplicit false

namespace ChatLine

/-- Nodes of one kind; commands are related. -/
inductive Node.Like (rel : Command → Command → Prop) : Node → Node → Prop
  | leaf {command other : Command} (related : rel command other) :
    Like rel (.leaf command) (.leaf other)
  | group (id otherId : Nat) (children others : List (String × Node)) :
    Like rel (.group id children) (.group otherId others)

namespace Children

variable {children others : Children}

theorem at?_cons_group {name : String} {id : Nat} {below : Children}
    (found : children.get? name = some (.group id below)) {rest : List String} (longer : rest ≠ []) :
    children.at? (name :: rest) = below.at? rest := by
  obtain ⟨next, more, rfl⟩ := List.exists_cons_of_ne_nil longer
  simp only [at?, found]

theorem at?_cons_plain {name : String} (plain : children.Plain name) {rest : List String}
    (longer : rest ≠ []) : children.at? (name :: rest) = none := by
  obtain ⟨next, more, rfl⟩ := List.exists_cons_of_ne_nil longer
  unfold at?
  split
  · rename_i id below found
    exact absurd found (plain id below)
  · rfl

/-- A group stands at the paths that lead to one. -/
theorem at?_eq_group_iff (children : Children) {path : List String} (present : path ≠ []) :
    (∃ id below, children.at? path = some (.group id below)) ↔ children.Leads path := by
  induction path generalizing children with
  | nil => exact absurd rfl present
  | cons name rest ih =>
    rcases group_or_plain children name with ⟨id, below, found⟩ | plain
    · rw [leads_group found]
      by_cases ends : rest = []
      · subst ends
        exact ⟨fun _ => trivial, fun _ => ⟨id, below, found⟩⟩
      · rw [at?_cons_group found ends]
        exact ih below ends
    · refine ⟨?_, fun leads => absurd leads (not_leads_plain plain rest)⟩
      rintro ⟨id, below, found⟩
      by_cases ends : rest = []
      · subst ends
        exact absurd found (plain id below)
      · rw [at?_cons_plain plain ends] at found
        cases found

/-- The leaves whose paths go on from a path are those of the node at it. -/
theorem mem_leavesBelow_append (tidy : Tidy children) {path : List String} (present : path ≠ [])
    (rest : List String) (command : Command) :
    (path ++ rest, command) ∈ leavesBelow children ↔
      ∃ node, children.at? path = some node ∧ (rest, command) ∈ node.leaves := by
  induction path generalizing children with
  | nil => exact absurd rfl present
  | cons name more ih =>
    rw [List.cons_append, mem_leavesBelow_cons tidy.sorted]
    by_cases ends : more = []
    · subst ends
      exact Iff.rfl
    · rcases group_or_plain children name with ⟨id, below, found⟩ | plain
      · rw [at?_cons_group found ends, ← ih (tidy.inner found).2 ends]
        simp [found, Node.leaves]
      · rw [at?_cons_plain plain ends]
        refine ⟨?_, fun ⟨_, absent, _⟩ => nomatch absent⟩
        rintro ⟨node, found, inside⟩
        cases node with
        | leaf old => simp [Node.leaves, ends] at inside
        | group id below => exact absurd found (plain id below)

/-- A command stands at the paths of the leaves. -/
theorem at?_eq_leaf_iff (tidy : Tidy children) {path : List String} {command : Command} :
    children.at? path = some (.leaf command) ↔ (path, command) ∈ leavesBelow children := by
  by_cases present : path = []
  · subst present
    exact ⟨fun found => (nomatch found),
      fun inside => absurd inside (not_mem_leavesBelow_nil children command)⟩
  · have single : ∀ node : Node, ([], command) ∈ node.leaves ↔ node = .leaf command := by
      intro node
      cases node with
      | leaf old => simp [Node.leaves, eq_comm]
      | group id below => simpa [Node.leaves] using not_mem_leavesBelow_nil below command
    have below := mem_leavesBelow_append tidy present [] command
    rw [List.append_nil] at below
    simp only [below, single, exists_eq_right]

theorem slot_ne_nil (children : Children) (names : List String) : children.slot names ≠ [] := by
  cases names <;> exact List.cons_ne_nil _ _

theorem slot_group {name : String} {id : Nat} {below : Children}
    (found : children.get? name = some (.group id below)) (rest : List String) :
    children.slot (name :: rest) = name :: below.slot rest := by
  simp only [slot, found]

theorem slot_plain {name : String} (plain : children.Plain name) (rest : List String) :
    children.slot (name :: rest) = name :: rest := by
  unfold slot
  split
  · rename_i id below found
    exact absurd found (plain id below)
  · rfl

theorem slot_of_leads {names : List String} (leads : children.Leads names) :
    children.slot names = names ++ [""] := by
  induction names generalizing children with
  | nil => rfl
  | cons name rest ih =>
    rcases group_or_plain children name with ⟨id, below, found⟩ | plain
    · rw [slot_group found, ih ((leads_group found rest).1 leads), List.cons_append]
    · exact absurd leads (not_leads_plain plain rest)

theorem slot_of_not_leads {names : List String} (leads : ¬ children.Leads names) :
    children.slot names = names := by
  induction names generalizing children with
  | nil => exact absurd trivial leads
  | cons name rest ih =>
    rcases group_or_plain children name with ⟨id, below, found⟩ | plain
    · rw [leads_group found] at leads
      rw [slot_group found, ih leads]
    · exact slot_plain plain rest

theorem slot_congr (leads : ∀ names, children.Leads names ↔ others.Leads names)
    (names : List String) : children.slot names = others.slot names := by
  by_cases here : children.Leads names
  · rw [slot_of_leads here, slot_of_leads ((leads names).1 here)]
  · rw [slot_of_not_leads here, slot_of_not_leads fun there => here ((leads names).2 there)]

/-- Where names lead to groups alike and related commands sit at the same names, a command at a path
of one tree has a related one at this path of the other. -/
theorem exists_leaf_of_layout (rel : Command → Command → Prop) (sound : Sound children)
    (otherSound : Sound others) (leads : ∀ names, children.Leads names ↔ others.Leads names)
    (sits : ∀ names command, children.sits? names = some command →
      ∃ other, others.sits? names = some other ∧ rel command other)
    {path : List String} {command : Command} (found : children.at? path = some (.leaf command)) :
    ∃ other, others.at? path = some (.leaf other) ∧ rel command other := by
  obtain ⟨names, here, slot_here⟩ :=
    (mem_leavesBelow_iff sound path command).1 ((at?_eq_leaf_iff sound.tidy).1 found)
  obtain ⟨other, there, related⟩ := sits names command here
  refine ⟨other, (at?_eq_leaf_iff otherSound.tidy).2 ?_, related⟩
  exact (mem_leavesBelow_iff otherSound path other).2
    ⟨names, there, by rw [← slot_congr leads names, slot_here]⟩

/-- Trees of one layout have groups at the same paths and related commands at the same paths. -/
theorem like_of_layout {rel : Command → Command → Prop} (sound : Sound children)
    (otherSound : Sound others) (leads : ∀ names, children.Leads names ↔ others.Leads names)
    (sits : ∀ names, Option.Rel rel (children.sits? names) (others.sits? names))
    (path : List String) : Option.Rel (Node.Like rel) (children.at? path) (others.at? path) := by
  have there : ∀ {command}, children.at? path = some (.leaf command) →
      ∃ other, others.at? path = some (.leaf other) ∧ rel command other := by
    refine exists_leaf_of_layout rel sound otherSound leads ?_
    intro names command here
    have both := sits names
    rw [here] at both
    generalize others.sits? names = found at both
    cases both with
    | some related => exact ⟨_, rfl, related⟩
  have back : ∀ {other}, others.at? path = some (.leaf other) →
      ∃ command, children.at? path = some (.leaf command) ∧ True := by
    refine exists_leaf_of_layout (fun _ _ => True) otherSound sound
      (fun names => (leads names).symm) ?_
    intro names other here
    have both := sits names
    rw [here] at both
    generalize children.sits? names = found at both
    cases both with
    | some related => exact ⟨_, rfl, trivial⟩
  by_cases present : path = []
  · subst present
    exact .none
  · have groups := (at?_eq_group_iff children present).trans
      ((leads path).trans (at?_eq_group_iff others present).symm)
    cases found : children.at? path with
    | none =>
      cases otherFound : others.at? path with
      | none => exact .none
      | some node =>
        rw [found] at back groups
        cases node with
        | leaf other =>
          obtain ⟨command, absent, -⟩ := back otherFound
          cases absent
        | group id below =>
          obtain ⟨_, _, absent⟩ := groups.2 ⟨id, below, otherFound⟩
          cases absent
    | some node =>
      cases node with
      | leaf command =>
        obtain ⟨other, otherFound, related⟩ := there found
        rw [otherFound]
        exact .some (.leaf related)
      | group id below =>
        obtain ⟨otherId, otherBelow, otherFound⟩ := groups.1 ⟨id, below, found⟩
        rw [otherFound]
        exact .some (.group id otherId below otherBelow)

end Children

end ChatLine
