import ChatLine.Proofs.Sharing.Waiting

set_option autoImplicit false

namespace ChatLine

open Command

/-- What is known of the cells at a moment: how many there are, which of them keep an outcome, and
inside which frames each is to run. -/
structure Ledger where
  made : Nat
  kept : Nat → Bool
  home : Nat → Frames

namespace Ledger

/-- Later there are more cells and more outcomes, and no cell has moved. -/
structure Le (ledger later : Ledger) : Prop where
  made : ledger.made ≤ later.made
  kept : ∀ cell, ledger.kept cell = true → later.kept cell = true
  home : ∀ cell, cell < ledger.made → later.home cell = ledger.home cell

variable {ledger middle later : Ledger}

theorem Le.refl (ledger : Ledger) : ledger.Le ledger :=
  ⟨Nat.le_refl _, fun _ kept => kept, fun _ _ => rfl⟩

theorem Le.trans (first : ledger.Le middle) (second : middle.Le later) : ledger.Le later where
  made := Nat.le_trans first.made second.made
  kept := fun cell kept => second.kept cell (first.kept cell kept)
  home := fun cell there =>
    (second.home cell (Nat.lt_of_lt_of_le there first.made)).trans (first.home cell there)

/-- With more cells, which are all to run inside the same frames. -/
def grow (ledger : Ledger) (count : Nat) (frames : Frames) : Ledger where
  made := ledger.made + count
  kept := ledger.kept
  home := fun cell => if cell < ledger.made then ledger.home cell else frames

theorem le_grow (ledger : Ledger) (count : Nat) (frames : Frames) :
    ledger.Le (ledger.grow count frames) :=
  ⟨Nat.le_add_right _ _, fun _ kept => kept, fun _ there => if_pos there⟩

/-- The homes of the cells, whatever is said of cells that are made later. -/
def Agrees (ledger : Ledger) (home : Nat → Frames) : Prop :=
  ∀ cell, cell < ledger.made → home cell = ledger.home cell

theorem Agrees.before {home : Nat → Frames} (agrees : later.Agrees home) (le : ledger.Le later) :
    ledger.Agrees home :=
  fun cell there => (agrees cell (Nat.lt_of_lt_of_le there le.made)).trans (le.home cell there)

def keeping (ledger : Ledger) (kept : Nat → Bool) : Ledger :=
  { ledger with kept := kept }

theorem le_keeping {kept : Nat → Bool}
    (stays : ∀ cell, ledger.kept cell = true → kept cell = true) :
    ledger.Le (ledger.keeping kept) :=
  ⟨Nat.le_refl _, stays, fun _ _ => rfl⟩

end Ledger

mutual

/-- Every cell that waits in the command is to run inside these frames. -/
def Command.BelongsTo (ledger : Ledger) (since : Nat) (frames : Frames) : Command → Prop
  | .lazy cell inner => ledger.kept cell = false →
    (since ≤ cell → cell < ledger.made ∧ ledger.home cell = frames) ∧
      inner.BelongsTo ledger since frames
  | .applied callee bound =>
    callee.BelongsTo ledger since frames ∧ AllBelong ledger since frames bound
  | .stored _ body => body.Idle ledger.kept since
  | _ => True

def AllBelong (ledger : Ledger) (since : Nat) (frames : Frames) : List Command → Prop
  | [] => True
  | command :: rest => command.BelongsTo ledger since frames ∧ AllBelong ledger since frames rest

end

section Belonging

variable {ledger later : Ledger} {since : Nat} {frames : Frames}

theorem allBelong_iff {commands : List Command} :
    AllBelong ledger since frames commands ↔
      ∀ command ∈ commands, command.BelongsTo ledger since frames := by
  induction commands with
  | nil => simp [AllBelong]
  | cons command rest ih => simp [AllBelong, ih]

mutual

theorem Command.BelongsTo.mono (le : ledger.Le later) {command : Command}
    (belongs : command.BelongsTo ledger since frames) :
    command.BelongsTo later since frames := by
  match command with
  | .lazy cell inner =>
    intro unsettled
    have before : ledger.kept cell = false := by
      cases same : ledger.kept cell with
      | false => rfl
      | true => rw [le.kept cell same] at unsettled; exact unsettled
    obtain ⟨home, inside⟩ := belongs before
    refine ⟨fun young => ?_, Command.BelongsTo.mono le inside⟩
    obtain ⟨there, same⟩ := home young
    exact ⟨Nat.lt_of_lt_of_le there le.made, (le.home cell there).trans same⟩
  | .applied callee bound =>
    exact ⟨Command.BelongsTo.mono le belongs.1, AllBelong.mono le belongs.2⟩
  | .stored _ body =>
    have idle : body.Idle ledger.kept since := belongs
    exact idle.mono le.kept
  | .literal _ => trivial
  | .function _ => trivial
  | .documented _ => trivial
  | .overloads _ => trivial
  | .group _ => trivial
  | .root => trivial
  | .orphan => trivial
  | .foreign _ _ => trivial

theorem AllBelong.mono (le : ledger.Le later) {commands : List Command}
    (belong : AllBelong ledger since frames commands) : AllBelong later since frames commands := by
  match commands with
  | [] => trivial
  | command :: rest => exact ⟨Command.BelongsTo.mono le belong.1, AllBelong.mono le belong.2⟩

end

mutual

theorem Command.BelongsTo.of_idle {command : Command} (idle : command.Idle ledger.kept since) :
    command.BelongsTo ledger since frames := by
  match command with
  | .lazy cell inner =>
    intro unsettled
    refine ⟨fun young => absurd ⟨unsettled, .inl ⟨young, rfl⟩⟩ (idle cell), ?_⟩
    exact Command.BelongsTo.of_idle fun other waits => idle other ⟨unsettled, .inr waits⟩
  | .applied callee bound =>
    exact ⟨Command.BelongsTo.of_idle fun cell waits => idle cell (.inl waits),
      allBelong_of_idle fun cell waits => idle cell (.inr waits)⟩
  | .stored _ body => exact idle
  | .literal _ => trivial
  | .function _ => trivial
  | .documented _ => trivial
  | .overloads _ => trivial
  | .group _ => trivial
  | .root => trivial
  | .orphan => trivial
  | .foreign _ _ => trivial

theorem allBelong_of_idle {commands : List Command}
    (idle : ∀ cell, ¬ AnyWaits ledger.kept since cell commands) :
    AllBelong ledger since frames commands := by
  match commands with
  | [] => trivial
  | command :: rest =>
    exact ⟨Command.BelongsTo.of_idle fun cell waits => idle cell (.inl waits),
      allBelong_of_idle fun cell waits => idle cell (.inr waits)⟩

end

end Belonging

/-- The arguments of a stored line that was called inside some frames: they belong to these frames, and
so do the cells that they are in, whether they have run or not. -/
def Frame.Fits (ledger : Ledger) (since : Nat) (caller : Frames) (frame : Frame) : Prop :=
  ∀ command ∈ frame, command.BelongsTo ledger since caller ∧
    ∀ cell inner, command = .lazy cell inner → since ≤ cell →
      cell < ledger.made ∧ ledger.home cell = caller

/-- Frames of which each belongs to those around it. -/
def Frames.Fit (ledger : Ledger) (since : Nat) : Frames → Prop
  | [] => True
  | frame :: caller => Frame.Fits ledger since caller frame ∧ Fit ledger since caller

section Frames

variable {ledger later : Ledger} {since : Nat}

theorem Frame.Fits.mono {caller : Frames} {frame : Frame} (fits : frame.Fits ledger since caller)
    (le : ledger.Le later) : frame.Fits later since caller := by
  intro command inside
  obtain ⟨belongs, own⟩ := fits command inside
  refine ⟨belongs.mono le, fun cell inner same young => ?_⟩
  obtain ⟨there, home⟩ := own cell inner same young
  exact ⟨Nat.lt_of_lt_of_le there le.made, (le.home cell there).trans home⟩

theorem Frames.Fit.mono {frames : Frames} (fit : frames.Fit ledger since) (le : ledger.Le later) :
    frames.Fit later since := by
  induction frames with
  | nil => trivial
  | cons frame caller ih => exact ⟨fit.1.mono le, ih fit.2⟩

theorem Frames.Fit.tail {frames : Frames} (fit : frames.Fit ledger since) :
    Frames.Fit ledger since frames.tail := by
  cases frames with
  | nil => trivial
  | cons frame caller => exact fit.2

theorem Frames.fit_of_within {frames : Frames}
    (within : ∀ frame ∈ frames, ∀ command ∈ frame, command.Within since) :
    frames.Fit ledger since := by
  induction frames with
  | nil => trivial
  | cons frame caller ih =>
    obtain ⟨here, others⟩ := List.forall_mem_cons.1 within
    refine ⟨fun command inside => ?_, ih others⟩
    refine ⟨.of_idle ((here command inside).idle _), ?_⟩
    rintro cell inner rfl young
    exact absurd ⟨rfl, .inl ⟨young, rfl⟩⟩ (here _ inside cell)

/-- Arguments in new cells are the arguments of a line that is called now. -/
theorem fits_sharedFrom {arguments : List Command} {frames : Frames}
    (belong : ∀ argument ∈ arguments, argument.BelongsTo ledger since frames) :
    Frame.Fits (ledger.grow arguments.length frames) since frames
      (sharedFrom ledger.made arguments) := by
  intro command inside
  obtain ⟨cell, inner, rfl⟩ := exists_of_mem_sharedFrom inside
  obtain ⟨above, below, among⟩ := parts_of_mem_sharedFrom inside
  have home : cell < (ledger.grow arguments.length frames).made ∧
      (ledger.grow arguments.length frames).home cell = frames :=
    ⟨below, if_neg (Nat.not_lt.2 above)⟩
  refine ⟨fun _ => ⟨fun _ => home, (belong inner among).mono (ledger.le_grow _ _)⟩, ?_⟩
  intro other innerToo same young
  cases same
  exact home

end Frames

end ChatLine
