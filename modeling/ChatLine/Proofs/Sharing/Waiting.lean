import ChatLine.Proofs.Calls.Cells

set_option autoImplicit false

/- The cells that a command can still run. A cell waits in a command if its outcome is not kept and
calling the command can lead to it; only the cells made since some moment count. A cell is never
waiting inside itself, and the parts of a call, which are its command, its arguments and the frames
around it, have no waiting cell in common: so nothing that runs can come back to the cell that it
runs for. -/
namespace ChatLine

namespace Command

mutual

/-- The cell was made since a moment, keeps no outcome yet, and a call of the command can run it. -/
def Waits (kept : Nat → Bool) (since cell : Nat) : Command → Prop
  | .lazy own inner =>
    kept own = false ∧ (since ≤ cell ∧ cell = own ∨ inner.Waits kept since cell)
  | applied callee bound => callee.Waits kept since cell ∨ AnyWaits kept since cell bound
  | stored _ body => body.Waits kept since cell
  | _ => False

def AnyWaits (kept : Nat → Bool) (since cell : Nat) : List Command → Prop
  | [] => False
  | command :: rest => command.Waits kept since cell ∨ AnyWaits kept since cell rest

end

mutual

/-- No cell waits inside itself, and none waits both in a command and in what is bound to it. -/
def Sound (kept : Nat → Bool) (since : Nat) : Command → Prop
  | .lazy own inner => kept own = false → ¬ inner.Waits kept since own ∧ inner.Sound kept since
  | applied callee bound =>
    callee.Sound kept since ∧ AllSound kept since bound ∧
      ∀ cell, callee.Waits kept since cell → ¬ AnyWaits kept since cell bound
  | stored _ body => body.Sound kept since
  | _ => True

def AllSound (kept : Nat → Bool) (since : Nat) : List Command → Prop
  | [] => True
  | command :: rest => command.Sound kept since ∧ AllSound kept since rest

end

/-- No cell waits in the command: calling it runs no cell that was made since, unless it was made by
the call. -/
def Idle (kept : Nat → Bool) (since : Nat) (command : Command) : Prop :=
  ∀ cell, ¬ command.Waits kept since cell

/-- Every cell of the command was made before a moment. -/
def Within (since : Nat) (command : Command) : Prop :=
  command.Idle (fun _ => false) since

variable {kept after : Nat → Bool} {since cell : Nat}

theorem anyWaits_iff {commands : List Command} :
    AnyWaits kept since cell commands ↔ ∃ command ∈ commands, command.Waits kept since cell := by
  induction commands with
  | nil => simp [AnyWaits]
  | cons command rest ih => simp [AnyWaits, ih]

theorem allSound_iff {commands : List Command} :
    AllSound kept since commands ↔ ∀ command ∈ commands, command.Sound kept since := by
  induction commands with
  | nil => simp [AllSound]
  | cons command rest ih => simp [AllSound, ih]

theorem anyWaits_append {first second : List Command} :
    AnyWaits kept since cell (first ++ second) ↔
      AnyWaits kept since cell first ∨ AnyWaits kept since cell second := by
  simp only [anyWaits_iff, List.mem_append, or_and_right, exists_or]

theorem anyWaits_singleton {command : Command} :
    AnyWaits kept since cell [command] ↔ command.Waits kept since cell := by
  simp only [AnyWaits, or_false]

mutual

theorem Waits.of_later (stays : ∀ cell, kept cell = true → after cell = true) {command : Command}
    (waits : command.Waits after since cell) : command.Waits kept since cell := by
  match command with
  | .lazy own inner =>
    obtain ⟨unsettled, reached⟩ := waits
    refine ⟨?_, ?_⟩
    · cases before : kept own with
      | false => rfl
      | true => rw [stays own before] at unsettled; exact unsettled
    · rcases reached with here | inside
      · exact .inl here
      · exact .inr (Waits.of_later stays inside)
  | applied callee bound =>
    rcases waits with inCallee | inBound
    · exact .inl (Waits.of_later stays inCallee)
    · exact .inr (AnyWaits.of_later stays inBound)
  | stored _ body =>
    have before : body.Waits kept since cell := Waits.of_later stays waits
    exact before

theorem AnyWaits.of_later (stays : ∀ cell, kept cell = true → after cell = true)
    {commands : List Command} (waits : AnyWaits after since cell commands) :
    AnyWaits kept since cell commands := by
  match commands with
  | command :: rest =>
    rcases waits with first | others
    · exact .inl (Waits.of_later stays first)
    · exact .inr (AnyWaits.of_later stays others)

end

mutual

theorem Sound.mono (stays : ∀ cell, kept cell = true → after cell = true) {command : Command}
    (sound : command.Sound kept since) : command.Sound after since := by
  match command with
  | .lazy own inner =>
    intro unsettled
    have before : kept own = false := by
      cases same : kept own with
      | false => rfl
      | true => rw [stays own same] at unsettled; exact unsettled
    obtain ⟨apart, inside⟩ := sound before
    exact ⟨fun waits => apart (waits.of_later stays), Sound.mono stays inside⟩
  | applied callee bound =>
    obtain ⟨calleeSound, boundSound, apart⟩ := sound
    refine ⟨Sound.mono stays calleeSound, AllSound.mono stays boundSound, ?_⟩
    intro cell inCallee inBound
    exact apart cell (inCallee.of_later stays) (inBound.of_later stays)
  | stored _ body =>
    have more : body.Sound after since := Sound.mono stays sound
    exact more
  | literal _ => trivial
  | function _ => trivial
  | documented _ => trivial
  | overloads _ => trivial
  | group _ => trivial
  | root => trivial
  | orphan => trivial
  | foreign _ _ => trivial

theorem AllSound.mono (stays : ∀ cell, kept cell = true → after cell = true)
    {commands : List Command} (sound : AllSound kept since commands) :
    AllSound after since commands := by
  match commands with
  | [] => trivial
  | command :: rest => exact ⟨Sound.mono stays sound.1, AllSound.mono stays sound.2⟩

end

theorem Idle.mono (stays : ∀ cell, kept cell = true → after cell = true) {command : Command}
    (idle : command.Idle kept since) : command.Idle after since :=
  fun cell waits => idle cell (waits.of_later stays)

theorem Within.idle {command : Command} (within : command.Within since) (kept : Nat → Bool) :
    command.Idle kept since := by
  have stays : ∀ cell, (fun _ : Nat => false) cell = true → kept cell = true :=
    fun _ impossible => Bool.noConfusion impossible
  exact Idle.mono stays within

mutual

theorem Idle.sound {command : Command} (idle : command.Idle kept since) :
    command.Sound kept since := by
  match command with
  | .lazy own inner =>
    intro unsettled
    have inside : inner.Idle kept since := fun cell waits => idle cell ⟨unsettled, .inr waits⟩
    exact ⟨inside own, Idle.sound inside⟩
  | applied callee bound =>
    have calleeIdle : callee.Idle kept since := fun cell waits => idle cell (.inl waits)
    exact ⟨Idle.sound calleeIdle, allSound_of_idle fun cell waits => idle cell (.inr waits),
      fun cell waits => absurd waits (calleeIdle cell)⟩
  | stored _ body =>
    have inside : body.Sound kept since := Idle.sound idle
    exact inside
  | literal _ => trivial
  | function _ => trivial
  | documented _ => trivial
  | overloads _ => trivial
  | group _ => trivial
  | root => trivial
  | orphan => trivial
  | foreign _ _ => trivial

theorem allSound_of_idle {commands : List Command}
    (idle : ∀ cell, ¬ AnyWaits kept since cell commands) : AllSound kept since commands := by
  match commands with
  | [] => trivial
  | command :: rest =>
    exact ⟨Idle.sound fun cell waits => idle cell (.inl waits),
      allSound_of_idle fun cell waits => idle cell (.inr waits)⟩

end

def Ran (kept : Nat → Bool) (command : Command) : Prop :=
  ∀ cell inner, command = .lazy cell inner → kept cell = true

theorem Ran.mono {command : Command} (ran : command.Ran kept)
    (stays : ∀ cell, kept cell = true → after cell = true) : command.Ran after :=
  fun cell inner same => stays cell (ran cell inner same)

/-- A command in a cell that keeps an outcome is not called again. -/
theorem idle_lazy {own : Nat} {inner : Command} (settled : kept own = true) :
    (Command.lazy own inner).Idle kept since := by
  intro cell waits
  rw [waits.1] at settled
  cases settled

/-- A function waits for nothing once the arguments that it was given have run. -/
theorem idle_curry (f : Function) {arguments : List Command}
    (shared : ∀ argument ∈ arguments, ∃ cell inner, argument = .lazy cell inner)
    (ran : ∀ argument ∈ arguments, argument.Ran kept) : (f.curry arguments).Idle kept since := by
  unfold Function.curry
  split
  · exact fun cell impossible => impossible
  · rintro cell (impossible | waits)
    · exact impossible
    · obtain ⟨argument, inside, waits⟩ := anyWaits_iff.1 waits
      obtain ⟨own, inner, rfl⟩ := shared argument inside
      exact idle_lazy (ran _ inside own inner rfl) cell waits

/-- What waits in shared arguments is one of their new cells, or waits in the arguments. -/
theorem waits_of_sharedFrom {start : Nat} {commands : List Command}
    (waits : AnyWaits kept since cell (sharedFrom start commands)) :
    (start ≤ cell ∧ cell < start + commands.length) ∨ AnyWaits kept since cell commands := by
  induction commands generalizing start with
  | nil => exact waits.elim
  | cons command rest ih =>
    rw [List.length_cons]
    rcases waits with ⟨_, ⟨_, rfl⟩ | inside⟩ | others
    · exact .inl ⟨Nat.le_refl _, by omega⟩
    · exact .inr (.inl inside)
    · rcases ih others with ⟨above, below⟩ | inRest
      · exact .inl ⟨by omega, by omega⟩
      · exact .inr (.inr inRest)

/-- In new cells, shared arguments are as sound as the arguments. -/
theorem sound_sharedFrom {start : Nat} {commands : List Command}
    (sound : ∀ command ∈ commands, command.Sound kept since)
    (older : ∀ cell, AnyWaits kept since cell commands → cell < start) :
    ∀ command ∈ sharedFrom start commands, command.Sound kept since := by
  induction commands generalizing start with
  | nil => exact List.forall_mem_nil _
  | cons command rest ih =>
    obtain ⟨first, others⟩ := List.forall_mem_cons.1 sound
    refine List.forall_mem_cons.2 ⟨fun _ => ⟨?_, first⟩, ih others ?_⟩
    · exact fun waits => Nat.lt_irrefl _ (older start (.inl waits))
    · exact fun cell waits => Nat.lt_succ_of_lt (older cell (.inr waits))

end Command

open Command

/-- The parts of a call, or frames: their commands are sound, no cell waits in two of them, and those
that wait are owned. -/
structure Apart (kept : Nat → Bool) (since : Nat) (owned : Nat → Prop)
    (parts : List (List Command)) : Prop where
  sound : ∀ part ∈ parts, ∀ command ∈ part, command.Sound kept since
  disjoint : parts.Pairwise fun first second =>
    ∀ cell, AnyWaits kept since cell first → ¬ AnyWaits kept since cell second
  owned : ∀ part ∈ parts, ∀ cell, AnyWaits kept since cell part → owned cell

namespace Apart

variable {kept after : Nat → Bool} {since : Nat} {owned other : Nat → Prop}
  {part smaller : List Command} {parts : List (List Command)}

theorem nil : Apart kept since owned [] :=
  ⟨fun _ inside => (nomatch inside), .nil, fun _ inside => (nomatch inside)⟩

theorem cons (sound : ∀ command ∈ part, command.Sound kept since)
    (separate : ∀ cell, AnyWaits kept since cell part → owned cell ∧
      ∀ second ∈ parts, ¬ AnyWaits kept since cell second)
    (rest : Apart kept since owned parts) : Apart kept since owned (part :: parts) := by
  refine ⟨List.forall_mem_cons.2 ⟨sound, rest.sound⟩, ?_, ?_⟩
  · refine List.pairwise_cons.2 ⟨?_, rest.disjoint⟩
    exact fun second inside cell waits => (separate cell waits).2 second inside
  · exact List.forall_mem_cons.2 ⟨fun cell waits => (separate cell waits).1, rest.owned⟩

theorem tail (apart : Apart kept since owned (part :: parts)) : Apart kept since owned parts :=
  ⟨fun other inside => apart.sound other (List.mem_cons_of_mem _ inside),
    (List.pairwise_cons.1 apart.disjoint).2,
    fun other inside => apart.owned other (List.mem_cons_of_mem _ inside)⟩

theorem separate (apart : Apart kept since owned (part :: parts)) {cell : Nat}
    (waits : AnyWaits kept since cell part) :
    owned cell ∧ ∀ second ∈ parts, ¬ AnyWaits kept since cell second :=
  ⟨apart.owned part List.mem_cons_self cell waits,
    fun second inside => (List.pairwise_cons.1 apart.disjoint).1 second inside cell waits⟩

theorem mono (apart : Apart kept since owned parts)
    (stays : ∀ cell, kept cell = true → after cell = true) : Apart after since owned parts := by
  refine ⟨?_, ?_, ?_⟩
  · exact fun part inside command among => (apart.sound part inside command among).mono stays
  · refine apart.disjoint.imp ?_
    intro first second separate cell waits waitsToo
    exact separate cell (waits.of_later stays) (waitsToo.of_later stays)
  · exact fun part inside cell waits => apart.owned part inside cell (waits.of_later stays)

theorem claim (apart : Apart kept since owned parts)
    (claims : ∀ part ∈ parts, ∀ cell, AnyWaits kept since cell part → other cell) :
    Apart kept since other parts :=
  ⟨apart.sound, apart.disjoint, claims⟩

theorem weaken (apart : Apart kept since owned parts) (implies : ∀ cell, owned cell → other cell) :
    Apart kept since other parts :=
  apart.claim fun part inside cell waits => implies cell (apart.owned part inside cell waits)

theorem swap (apart : Apart kept since owned (part :: smaller :: parts)) :
    Apart kept since owned (smaller :: part :: parts) := by
  refine cons (apart.sound _ (.tail _ (.head _))) ?_ (cons (apart.sound _ (.head _)) ?_
    apart.tail.tail)
  · intro cell waits
    obtain ⟨owns, separate⟩ := apart.tail.separate waits
    refine ⟨owns, List.forall_mem_cons.2 ⟨?_, separate⟩⟩
    exact fun first => (apart.separate first).2 smaller (.head _) waits
  · intro cell waits
    obtain ⟨owns, separate⟩ := apart.separate waits
    exact ⟨owns, (List.forall_mem_cons.1 separate).2⟩

theorem replace (apart : Apart kept since owned (part :: parts))
    (sound : ∀ command ∈ smaller, command.Sound kept since)
    (fewer : ∀ cell, AnyWaits kept since cell smaller → AnyWaits kept since cell part) :
    Apart kept since owned (smaller :: parts) :=
  cons sound (fun cell waits => apart.separate (fewer cell waits)) apart.tail

theorem subset (apart : Apart kept since owned (part :: parts))
    (among : ∀ command ∈ smaller, command ∈ part) : Apart kept since owned (smaller :: parts) := by
  apply apart.replace
  · exact fun command inside => apart.sound part List.mem_cons_self command (among command inside)
  · intro cell waits
    obtain ⟨command, inside, waits⟩ := anyWaits_iff.1 waits
    exact anyWaits_iff.2 ⟨command, among command inside, waits⟩

theorem idle (apart : Apart kept since owned parts)
    (idle : ∀ command ∈ part, command.Idle kept since) :
    Apart kept since owned (part :: parts) := by
  refine cons (fun command inside => (idle command inside).sound) ?_ apart
  intro cell waits
  obtain ⟨command, inside, waits⟩ := anyWaits_iff.1 waits
  exact absurd waits (idle command inside cell)

theorem nothing (apart : Apart kept since owned parts) :
    Apart kept since owned ([] :: parts) :=
  apart.idle fun _ inside => nomatch inside

/-- The arguments that a command was given before come in front of the others. -/
theorem applied {callee : Command} {bound : List Command}
    (apart : Apart kept since owned ([.applied callee bound] :: part :: parts)) :
    Apart kept since owned ([callee] :: (bound ++ part) :: parts) := by
  obtain ⟨calleeSound, boundSound, separate⟩ := apart.sound _ List.mem_cons_self _ List.mem_cons_self
  refine cons (List.forall_mem_singleton.2 calleeSound) ?_ (cons ?_ ?_ apart.tail.tail)
  · intro cell waits
    have inCallee := anyWaits_singleton.1 waits
    obtain ⟨owns, others⟩ := apart.separate (.inl (.inl inCallee))
    obtain ⟨notPart, notParts⟩ := List.forall_mem_cons.1 others
    refine ⟨owns, List.forall_mem_cons.2 ⟨?_, notParts⟩⟩
    intro waitsToo
    rcases anyWaits_append.1 waitsToo with inBound | inPart
    · exact separate cell inCallee inBound
    · exact notPart inPart
  · exact List.forall_mem_append.2 ⟨allSound_iff.1 boundSound,
      apart.tail.sound part List.mem_cons_self⟩
  · intro cell waits
    rcases anyWaits_append.1 waits with inBound | inPart
    · obtain ⟨owns, others⟩ := apart.separate (.inl (.inr inBound))
      exact ⟨owns, (List.forall_mem_cons.1 others).2⟩
    · exact apart.tail.separate inPart

theorem alone (apart : Apart kept since owned (part :: parts)) {command : Command}
    (among : command ∈ part) : Apart kept since owned ([command] :: [] :: parts) := by
  have single : Apart kept since owned ([command] :: parts) :=
    apart.subset (List.forall_mem_singleton.2 among)
  refine cons (single.sound _ List.mem_cons_self) ?_ apart.tail.nothing
  intro cell waits
  obtain ⟨owns, separate⟩ := single.separate waits
  exact ⟨owns, List.forall_mem_cons.2 ⟨fun impossible => impossible, separate⟩⟩

end Apart

end ChatLine
