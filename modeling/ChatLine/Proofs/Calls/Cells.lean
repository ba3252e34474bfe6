import ChatLine.Proofs.Calls.Ensures

set_option autoImplicit false

namespace ChatLine

variable {σ : Type}

namespace World

def isKept (world : World σ) (cell : Nat) : Bool :=
  (world.kept? cell).isSome

theorem isKept_of_kept? {world : World σ} {cell : Nat} {outcome : Outcome}
    (kept : world.kept? cell = some outcome) : world.isKept cell = true := by
  simp only [isKept, kept, Option.isSome_some]

theorem isKept_eq_false {world : World σ} {cell : Nat} (unsettled : world.kept? cell = none) :
    world.isKept cell = false := by
  simp only [isKept, unsettled, Option.isSome_none]

theorem lt_size_of_kept? {world : World σ} {cell : Nat} {outcome : Outcome}
    (kept : world.kept? cell = some outcome) : cell < world.cells.size := by
  by_cases inside : cell < world.cells.size
  · exact inside
  · have absent : world.cells[cell]? = none :=
      Array.getElem?_eq_none (Nat.le_of_not_lt inside)
    simp only [kept?, absent, Option.join_none] at kept
    cases kept

theorem kept?_eq_none {world : World σ} {cell : Nat} (outside : world.cells.size ≤ cell) :
    world.kept? cell = none := by
  cases kept : world.kept? cell with
  | none => rfl
  | some outcome => exact absurd (lt_size_of_kept? kept) (Nat.not_lt_of_le outside)

theorem kept?_addLazy (world : World σ) (command : Command) :
    (world.addLazy command).2.kept? = world.kept? := by
  funext cell
  simp only [kept?, addLazy, addCell, Array.getElem?_push]
  split
  · rename_i fresh
    subst fresh
    rw [Array.getElem?_size]
    rfl
  · rfl

theorem size_addLazy (world : World σ) (command : Command) :
    (world.addLazy command).2.cells.size = world.cells.size + 1 := by
  simp only [addLazy, addCell, Array.size_push]

theorem kept?_keep (world : World σ) (cell other : Nat) (outcome : Outcome) :
    (world.keep cell outcome).kept? other =
      if cell = other ∧ cell < world.cells.size then some outcome else world.kept? other := by
  simp only [kept?, keep, Array.getElem?_setIfInBounds]
  split
  · rename_i same
    subst same
    split
    · rename_i inside
      rw [if_pos ⟨rfl, inside⟩]
      rfl
    · rename_i outside
      rw [if_neg fun both => outside both.2, Array.getElem?_eq_none (Nat.le_of_not_lt outside)]
  · rename_i different
    rw [if_neg fun both => different both.1]

theorem isKept_keep (world : World σ) (cell other : Nat) (outcome : Outcome)
    (kept : world.isKept other = true) : (world.keep cell outcome).isKept other = true := by
  unfold isKept at kept ⊢
  rw [kept?_keep]
  split
  · rfl
  · exact kept

theorem size_keep (world : World σ) (cell : Nat) (outcome : Outcome) :
    (world.keep cell outcome).cells.size = world.cells.size :=
  Array.size_setIfInBounds

/-- Whether an event is the beginning of the run of the command in a cell. -/
def begins (cell : Nat) : Event → Bool
  | .evaluated other _ => other == cell
  | _ => false

def timesRun (world : World σ) (cell : Nat) : Nat :=
  world.journal.countP (begins cell)

theorem timesRun_record (world : World σ) (event : Event) (cell : Nat) :
    (world.record event).timesRun cell =
      world.timesRun cell + if begins cell event = true then 1 else 0 := by
  simp only [timesRun, record, List.countP_cons]

def grow (world : World σ) (count : Nat) : World σ :=
  { world with cells := world.cells ++ Array.replicate count none }

theorem size_grow (world : World σ) (count : Nat) :
    (world.grow count).cells.size = world.cells.size + count := by
  simp only [grow, Array.size_append, Array.size_replicate]

theorem kept?_grow (world : World σ) (count : Nat) : (world.grow count).kept? = world.kept? := by
  funext cell
  simp only [kept?, grow, Array.getElem?_append, Array.getElem?_replicate]
  split
  · rfl
  · rename_i outside
    have absent : world.cells[cell]? = none := Array.getElem?_eq_none (Nat.le_of_not_lt outside)
    rw [absent]
    split <;> rfl

theorem grow_zero (world : World σ) : world.grow 0 = world := by
  simp only [grow, Array.replicate_zero, Array.append_empty]

end World

/-- Commands that run at most once, in cells that follow each other. -/
def Command.sharedFrom : Nat → List Command → List Command
  | _, [] => []
  | cell, command :: rest => .lazy cell command :: sharedFrom (cell + 1) rest

theorem Command.length_sharedFrom (cell : Nat) (commands : List Command) :
    (sharedFrom cell commands).length = commands.length := by
  induction commands generalizing cell with
  | nil => rfl
  | cons command rest ih => simp only [sharedFrom, List.length_cons, ih]

theorem Command.sharedFrom_append (cell : Nat) (first second : List Command) :
    sharedFrom cell (first ++ second) =
      sharedFrom cell first ++ sharedFrom (cell + first.length) second := by
  induction first generalizing cell with
  | nil => rfl
  | cons command rest ih =>
    simp only [List.cons_append, sharedFrom, ih, List.length_cons, Nat.add_assoc, Nat.add_comm 1]

theorem Command.exists_of_mem_sharedFrom {start : Nat} {commands : List Command} {command : Command}
    (inside : command ∈ sharedFrom start commands) : ∃ cell inner, command = .lazy cell inner := by
  induction commands generalizing start with
  | nil => cases inside
  | cons first rest ih =>
    rcases List.mem_cons.1 inside with rfl | among
    · exact ⟨start, first, rfl⟩
    · exact ih among

theorem Command.parts_of_mem_sharedFrom {start cell : Nat} {commands : List Command}
    {inner : Command} (inside : .lazy cell inner ∈ sharedFrom start commands) :
    start ≤ cell ∧ cell < start + commands.length ∧ inner ∈ commands := by
  induction commands generalizing start with
  | nil => cases inside
  | cons first rest ih =>
    rw [List.length_cons]
    rcases List.mem_cons.1 inside with same | among
    · cases same
      exact ⟨Nat.le_refl _, by omega, List.mem_cons_self⟩
    · obtain ⟨above, below, listed⟩ := ih among
      exact ⟨by omega, by omega, List.mem_cons_of_mem _ listed⟩

theorem Command.getElem?_sharedFrom {start position : Nat} {commands : List Command}
    {command : Command} (found : commands[position]? = some command) :
    (sharedFrom start commands)[position]? = some (.lazy (start + position) command) := by
  induction commands generalizing start position with
  | nil => cases found
  | cons first rest ih =>
    cases position with
    | zero =>
      cases found
      rfl
    | succ position =>
      have later : start + 1 + position = start + (position + 1) := by omega
      rw [← later]
      exact ih found

theorem Eval.run_share (commands : List Command) (world : World σ) :
    (share commands).run.run world =
      some (.ok (Command.sharedFrom world.cells.size commands), world.grow commands.length) := by
  induction commands generalizing world with
  | nil =>
    rw [List.length_nil, World.grow_zero]
    rfl
  | cons command rest ih =>
    have more : (world.addLazy command).2.grow rest.length = world.grow (rest.length + 1) := by
      simp only [World.grow, World.addLazy, World.addCell, Array.push_eq_append, Array.append_assoc,
        Array.replicate_succ']
    simp only [share, run_bind, run_get, run_set, ih, run_pure, more, World.size_addLazy]
    rfl

end ChatLine
