import ChatLine.Proofs.Alike.Commands
import ChatLine.Proofs.Bot.Allowed
import ChatLine.Proofs.Calls.Cells

set_option autoImplicit false

namespace ChatLine

variable {σ : Type}

open Command

/-- What happened differs in nothing but cells: the same lines began and the commands in the same
cells, in the same order. Failures do not count, nor do runs in cells of the first journal that are
merely known: what they would answer was known before. -/
inductive Journal.Alike (matching : Matching) : List Event → List Event → Prop
  | nil : Alike matching [] []
  | entered (text : String) {events others : List Event} (rest : Alike matching events others) :
    Alike matching (.entered text :: events) (.entered text :: others)
  | evaluated {cell otherCell : Nat} {frames otherFrames : Frames} {events others : List Event}
    (pair : matching.live cell otherCell) (frame : Frames.Alike matching frames otherFrames)
    (rest : Alike matching events others) :
    Alike matching (.evaluated cell frames :: events) (.evaluated otherCell otherFrames :: others)
  | known {cell otherCell : Nat} {events others : List Event} (pair : matching.known cell otherCell)
    (frames : Frames) (rest : Alike matching events others) :
    Alike matching (.evaluated cell frames :: events) others
  | failed (error : CommandError) (attempts : Nat) {events others : List Event}
    (rest : Alike matching events others) : Alike matching (.failed error attempts :: events) others
  | otherFailed (error : CommandError) (attempts : Nat) {events others : List Event}
    (rest : Alike matching events others) : Alike matching events (.failed error attempts :: others)

theorem Journal.Alike.mono {matching later : Matching} (le : matching.Le later)
    {events others : List Event} (alike : Journal.Alike matching events others) :
    Journal.Alike later events others := by
  induction alike with
  | nil => exact .nil
  | entered text _ ih => exact .entered text ih
  | evaluated pair frames _ ih => exact .evaluated (le.live pair) (frames.mono le) ih
  | known pair frames _ ih => exact .known (le.known pair) frames ih
  | failed error attempts _ ih => exact .failed error attempts ih
  | otherFailed error attempts _ ih => exact .otherFailed error attempts ih

/-- A relation between the states of the application that lasts while more cells belong together. -/
def Persistent (states : Matching → σ → σ → Prop) : Prop :=
  ∀ matching later state other, matching.Le later → states matching state other →
    states later state other

namespace World

/-- The worlds differ in nothing but cells. The cells below `base` belong to themselves. -/
structure Alike (states : Matching → σ → σ → Prop) (base : Nat) (matching : Matching)
    (world other : World σ) : Prop where
  bot : world.bot = other.bot
  tree : world.bot.groups.Only fun command => command.Alike matching command
  context : world.context.Alike matching other.context
  generator : world.generator = other.generator
  application : states matching world.application other.application
  attempts : world.attempts = other.attempts
  journal : Journal.Alike matching world.journal other.journal
  own : ∀ cell, cell < base → matching.live cell cell
  /-- Cells that belong together are there. -/
  inside : ∀ {cell otherCell}, matching.live cell otherCell →
    cell < world.cells.size ∧ otherCell < other.cells.size
  /-- No cell belongs to two. -/
  single : ∀ {cell otherCell second otherSecond}, matching.live cell otherCell →
    matching.live second otherSecond → (cell = second ↔ otherCell = otherSecond)
  kept : ∀ {cell otherCell}, matching.live cell otherCell →
    Option.Rel (Outcome.Alike matching) (world.kept? cell) (other.kept? otherCell)
  known : ∀ {cell otherCell}, matching.known cell otherCell → ∃ text,
    world.kept? cell = some (.ok (.text text)) ∧ other.kept? otherCell = some (.ok (.text text))
  /-- A cell of the first world that belongs to one of the second is not merely known. -/
  separate : ∀ {cell otherCell second}, matching.live cell otherCell → ¬ matching.known cell second
  spare : ∀ {cell}, matching.spare cell →
    cell < other.cells.size ∧ other.kept? cell = none ∧ ∀ first, ¬ matching.live first cell

/-- Cells that follow each other, keep nothing and belong to none of the second world. -/
def Fresh (world : World σ) (matching : Matching) (start count : Nat) : Prop :=
  ∀ cell, start ≤ cell → cell < start + count →
    cell < world.cells.size ∧ world.kept? cell = none ∧ ∀ second, ¬ matching.live cell second

end World

/-- The matching with cells that follow each other in both worlds. -/
def Matching.join (matching : Matching) (start otherStart count : Nat) : Matching :=
  { matching with
    live := fun cell other => matching.live cell other ∨
      ∃ position, position < count ∧ cell = start + position ∧ other = otherStart + position }

theorem Matching.join_grows (matching : Matching) (start otherStart count : Nat) :
    matching.Grows (matching.join start otherStart count) :=
  ⟨.inl, rfl, rfl⟩

theorem Matching.join_pair (matching : Matching) (start otherStart : Nat) {count position : Nat}
    (inside : position < count) :
    (matching.join start otherStart count).live (start + position) (otherStart + position) :=
  .inr ⟨position, inside, rfl, rfl⟩

theorem Matching.join_cells (matching : Matching) (start otherStart count : Nat) :
    List.Forall₂ (matching.join start otherStart count).live (List.range' start count)
      (List.range' otherStart count) := by
  refine List.forall₂_iff_get.2 ⟨by rw [List.length_range', List.length_range'], ?_⟩
  intro position inside _
  rw [List.length_range'] at inside
  simp only [List.get_eq_getElem, List.getElem_range', Nat.one_mul]
  exact matching.join_pair start otherStart inside

def Matching.learn (matching : Matching) (cell otherCell : Nat) : Matching :=
  { matching with
    known := fun first second => matching.known first second ∨ first = cell ∧ second = otherCell }

theorem Matching.learn_learns (matching : Matching) (cell otherCell : Nat) :
    matching.Learns (matching.learn cell otherCell) :=
  ⟨rfl, .inl, rfl⟩

def Matching.use (matching : Matching) (start count : Nat) : Matching :=
  { matching with
    spare := fun cell => matching.spare cell ∧ ¬ (start ≤ cell ∧ cell < start + count) }

theorem Matching.use_le (matching : Matching) (start count : Nat) :
    matching.Le (matching.use start count) :=
  ⟨fun pair => pair, fun pair => pair⟩

namespace World.Alike

variable {states : Matching → σ → σ → Prop} {base : Nat} {matching : Matching}
  {world other : World σ}

theorem grow (alike : world.Alike states base matching other) (count otherCount : Nat) :
    (world.grow count).Alike states base matching (other.grow otherCount) :=
  { alike with
    inside := by
      intro cell otherCell pair
      obtain ⟨first, second⟩ := alike.inside pair
      rw [size_grow, size_grow]
      exact ⟨Nat.lt_add_right _ first, Nat.lt_add_right _ second⟩
    kept := by
      rw [kept?_grow, kept?_grow]
      exact alike.kept
    known := by
      rw [kept?_grow, kept?_grow]
      exact alike.known
    spare := by
      intro cell free
      obtain ⟨inside, unsettled, unmatched⟩ := alike.spare free
      rw [size_grow, kept?_grow]
      exact ⟨Nat.lt_add_right _ inside, unsettled, unmatched⟩ }

/-- What the worlds hold stays alike when more cells belong together; what remains to be seen are the
cells. -/
theorem of_le {later : Matching} (persistent : Persistent states)
    (alike : world.Alike states base matching other) (le : matching.Le later)
    (inside : ∀ {cell otherCell}, later.live cell otherCell →
      cell < world.cells.size ∧ otherCell < other.cells.size)
    (single : ∀ {cell otherCell second otherSecond}, later.live cell otherCell →
      later.live second otherSecond → (cell = second ↔ otherCell = otherSecond))
    (kept : ∀ {cell otherCell}, later.live cell otherCell →
      Option.Rel (Outcome.Alike later) (world.kept? cell) (other.kept? otherCell))
    (known : ∀ {cell otherCell}, later.known cell otherCell → ∃ text,
      world.kept? cell = some (.ok (.text text)) ∧
        other.kept? otherCell = some (.ok (.text text)))
    (separate : ∀ {cell otherCell second}, later.live cell otherCell → ¬ later.known cell second)
    (spare : ∀ {cell}, later.spare cell →
      cell < other.cells.size ∧ other.kept? cell = none ∧ ∀ first, ¬ later.live first cell) :
    world.Alike states base later other where
  bot := alike.bot
  tree := alike.tree.mono fun _ same => same.mono le
  context := { alike.context with frames := alike.context.frames.mono le }
  generator := alike.generator
  application := persistent _ _ _ _ le alike.application
  attempts := alike.attempts
  journal := alike.journal.mono le
  own := fun cell older => le.live (alike.own cell older)
  inside := inside
  single := single
  kept := kept
  known := known
  separate := separate
  spare := spare

theorem kept_mono {later : Matching} (alike : world.Alike states base matching other)
    (le : matching.Le later) {cell otherCell : Nat} (pair : matching.live cell otherCell) :
    Option.Rel (Outcome.Alike later) (world.kept? cell) (other.kept? otherCell) := by
  have rel := alike.kept pair
  generalize world.kept? cell = first at rel ⊢
  generalize other.kept? otherCell = second at rel ⊢
  cases rel with
  | none => exact .none
  | some outcomes => exact .some (outcomes.imp fun _ _ replies => replies.mono le)

/-- Cells in which nothing is kept yet may be made to belong together. -/
theorem join (persistent : Persistent states) (alike : world.Alike states base matching other)
    {start otherStart count : Nat} (fresh : world.Fresh matching start count)
    (otherFree : ∀ position, position < count → otherStart + position < other.cells.size ∧
      other.kept? (otherStart + position) = none ∧
        (∀ first, ¬ matching.live first (otherStart + position)) ∧
          ¬ matching.spare (otherStart + position)) :
    world.Alike states base (matching.join start otherStart count) other := by
  have le := (matching.join_grows start otherStart count).le
  have free (position : Nat) (inside : position < count) :=
    fresh (start + position) (Nat.le_add_right _ _) (Nat.add_lt_add_left inside _)
  apply alike.of_le persistent le
  · rintro cell otherCell (pair | ⟨position, inside, rfl, rfl⟩)
    · exact alike.inside pair
    · exact ⟨(free position inside).1, (otherFree position inside).1⟩
  · rintro cell otherCell second otherSecond (pair | ⟨position, inside, rfl, rfl⟩)
      (pair₂ | ⟨position₂, inside₂, rfl, rfl⟩)
    · exact alike.single pair pair₂
    · constructor
      · rintro rfl
        exact absurd pair ((free position₂ inside₂).2.2 _)
      · rintro rfl
        exact absurd pair ((otherFree position₂ inside₂).2.2.1 _)
    · constructor
      · rintro rfl
        exact absurd pair₂ ((free position inside).2.2 _)
      · rintro rfl
        exact absurd pair₂ ((otherFree position inside).2.2.1 _)
    · omega
  · rintro cell otherCell (pair | ⟨position, inside, rfl, rfl⟩)
    · exact alike.kept_mono le pair
    · rw [(free position inside).2.1, (otherFree position inside).2.1]
      exact .none
  · exact alike.known
  · rintro cell otherCell second (pair | ⟨position, inside, rfl, rfl⟩) known
    · exact alike.separate pair known
    · obtain ⟨_, kept, _⟩ := alike.known known
      rw [(free position inside).2.1] at kept
      cases kept
  · intro cell spare
    obtain ⟨inside, unsettled, unmatched⟩ := alike.spare spare
    refine ⟨inside, unsettled, ?_⟩
    rintro first (pair | ⟨position, within, rfl, rfl⟩)
    · exact unmatched first pair
    · exact (otherFree position within).2.2.2 spare

theorem fresh_grow (alike : world.Alike states base matching other) (count : Nat) :
    (world.grow count).Fresh matching world.cells.size count := by
  intro cell new inside
  rw [size_grow, kept?_grow]
  refine ⟨inside, kept?_eq_none new, ?_⟩
  exact fun second pair => absurd (alike.inside pair).1 (Nat.not_lt_of_le new)

theorem open_ (persistent : Persistent states) (alike : world.Alike states base matching other)
    (count : Nat) :
    (world.grow count).Alike states base
      (matching.join world.cells.size other.cells.size count) (other.grow count) := by
  apply (alike.grow count count).join persistent (alike.fresh_grow count)
  intro position inside
  rw [size_grow, kept?_grow]
  refine ⟨Nat.add_lt_add_left inside _, kept?_eq_none (Nat.le_add_right _ _), ?_, ?_⟩
  · exact fun first pair => absurd (alike.inside pair).2 (Nat.not_lt_of_le (Nat.le_add_right _ _))
  · exact fun spare => absurd (alike.spare spare).1 (Nat.not_lt_of_le (Nat.le_add_right _ _))

/-- Outcomes that are alike may be kept in cells that belong together. -/
theorem keep (alike : world.Alike states base matching other) {cell otherCell : Nat}
    {outcome otherOutcome : Outcome} (pair : matching.live cell otherCell)
    (otherUnknown : ∀ first, ¬ matching.known first otherCell)
    (outcomes : Outcome.Alike matching outcome otherOutcome) :
    (world.keep cell outcome).Alike states base matching (other.keep otherCell otherOutcome) :=
  { alike with
    inside := by
      rw [size_keep, size_keep]
      exact alike.inside
    kept := by
      intro second otherSecond pair₂
      have same := alike.single pair pair₂
      obtain ⟨first, second⟩ := alike.inside pair
      simp only [kept?_keep, same, first, second, and_true]
      split
      · exact .some outcomes
      · exact alike.kept pair₂
    known := by
      intro second otherSecond pair₂
      rw [kept?_keep, kept?_keep, if_neg, if_neg]
      · exact alike.known pair₂
      · rintro ⟨rfl, _⟩
        exact otherUnknown second pair₂
      · rintro ⟨rfl, _⟩
        exact alike.separate pair pair₂
    spare := by
      intro free spare
      obtain ⟨inside, unsettled, unmatched⟩ := alike.spare spare
      rw [size_keep, kept?_keep, if_neg]
      · exact ⟨inside, unsettled, unmatched⟩
      · rintro ⟨rfl, _⟩
        exact unmatched cell pair }

/-- The first world may keep an outcome in a cell that belongs to no other. -/
theorem keepAlone (alike : world.Alike states base matching other) {cell : Nat} (outcome : Outcome)
    (unmatched : ∀ second, ¬ matching.live cell second)
    (unknown : ∀ second, ¬ matching.known cell second) :
    (world.keep cell outcome).Alike states base matching other :=
  { alike with
    inside := by
      rw [size_keep]
      exact alike.inside
    kept := by
      intro second otherSecond pair
      rw [kept?_keep, if_neg]
      · exact alike.kept pair
      · rintro ⟨rfl, _⟩
        exact unmatched otherSecond pair
    known := by
      intro second otherSecond pair
      rw [kept?_keep, if_neg]
      · exact alike.known pair
      · rintro ⟨rfl, _⟩
        exact unknown otherSecond pair }

theorem learn (persistent : Persistent states) (alike : world.Alike states base matching other)
    {cell otherCell : Nat} {text : String} (unmatched : ∀ second, ¬ matching.live cell second)
    (kept : world.kept? cell = some (.ok (.text text)))
    (otherKept : other.kept? otherCell = some (.ok (.text text))) :
    world.Alike states base (matching.learn cell otherCell) other := by
  have le := (matching.learn_learns cell otherCell).le
  apply alike.of_le persistent le alike.inside alike.single (alike.kept_mono le)
  · rintro first second (pair | ⟨rfl, rfl⟩)
    · exact alike.known pair
    · exact ⟨text, kept, otherKept⟩
  · rintro first otherFirst second pair (known | ⟨rfl, rfl⟩)
    · exact alike.separate pair known
    · exact unmatched otherFirst pair
  · exact alike.spare

theorem use (persistent : Persistent states) (alike : world.Alike states base matching other)
    (start count : Nat) : world.Alike states base (matching.use start count) other := by
  have le := matching.use_le start count
  apply alike.of_le persistent le alike.inside alike.single (alike.kept_mono le) alike.known
    alike.separate
  exact fun spare => alike.spare spare.1

/-- Fresh cells of the first world may get spare cells of the second. -/
theorem adopt (persistent : Persistent states) (alike : world.Alike states base matching other)
    {start otherStart count : Nat} (fresh : world.Fresh matching start count)
    (spare : ∀ cell, otherStart ≤ cell → cell < otherStart + count → matching.spare cell) :
    world.Alike states base ((matching.use otherStart count).join start otherStart count) other := by
  apply (alike.use persistent otherStart count).join persistent fresh
  intro position inside
  have new := Nat.le_add_right otherStart position
  have within := Nat.add_lt_add_left inside otherStart
  obtain ⟨there, unsettled, unmatched⟩ := alike.spare (spare _ new within)
  exact ⟨there, unsettled, unmatched, fun still => still.2 ⟨new, within⟩⟩

/-- The first world alone may run a command in a new cell, if the second one keeps what it answers. -/
theorem wrap (persistent : Persistent states) (alike : world.Alike states base matching other)
    {cell otherCell : Nat} {text : String} (there : cell < world.cells.size)
    (unsettled : world.kept? cell = none) (unmatched : ∀ second, ¬ matching.live cell second)
    (otherKept : other.kept? otherCell = some (.ok (.text text))) (frames : Frames) :
    ((world.record (.evaluated cell frames)).keep cell (.ok (.text text))).Alike states base
      (matching.learn cell otherCell) other := by
  have unknown : ∀ second, ¬ matching.known cell second := by
    intro second pair
    obtain ⟨_, kept, _⟩ := alike.known pair
    rw [unsettled] at kept
    cases kept
  have settled : (world.keep cell (.ok (.text text))).kept? cell = some (.ok (.text text)) := by
    rw [kept?_keep, if_pos ⟨rfl, there⟩]
  have learnt := (alike.keepAlone _ unmatched unknown).learn persistent unmatched settled otherKept
  have pair : (matching.learn cell otherCell).known cell otherCell := .inr ⟨rfl, rfl⟩
  exact { learnt with journal := .known pair frames learnt.journal }

theorem entered (alike : world.Alike states base matching other) (text : String) :
    (world.record (.entered text)).Alike states base matching (other.record (.entered text)) :=
  { alike with journal := .entered text alike.journal }

theorem evaluated (alike : world.Alike states base matching other) {cell otherCell : Nat}
    (pair : matching.live cell otherCell) :
    (world.record (.evaluated cell world.context.frames)).Alike states base matching
      (other.record (.evaluated otherCell other.context.frames)) :=
  { alike with journal := .evaluated pair alike.context.frames alike.journal }

theorem failed (alike : world.Alike states base matching other) (error : CommandError)
    (attempts : Nat) : (world.record (.failed error attempts)).Alike states base matching other :=
  { alike with journal := .failed error attempts alike.journal }

theorem otherFailed (alike : world.Alike states base matching other) (error : CommandError)
    (attempts : Nat) : world.Alike states base matching (other.record (.failed error attempts)) :=
  { alike with journal := .otherFailed error attempts alike.journal }

theorem withFrames (alike : world.Alike states base matching other) {frames otherFrames : Frames}
    (same : Frames.Alike matching frames otherFrames) :
    ({ world with context := { world.context with frames := frames } } : World σ).Alike states base
      matching { other with context := { other.context with frames := otherFrames } } :=
  { alike with context := { alike.context with frames := same } }

end World.Alike

/-- All cells that the world speaks of are there. -/
structure World.Closed (world : World σ) : Prop where
  replies : ∀ cell command, world.kept? cell = some (.ok (.command command)) →
    command.Within world.cells.size
  frames : ∀ frame ∈ world.context.frames, ∀ command ∈ frame, command.Within world.cells.size
  tree : world.bot.groups.Only (Command.Within world.cells.size)
  journal : ∀ cell frames, .evaluated cell frames ∈ world.journal → cell < world.cells.size ∧
    ∀ frame ∈ frames, ∀ command ∈ frame, command.Within world.cells.size

/-- The cells below `base` belong to themselves, and some cells after them are spare. -/
def Matching.start (base count : Nat) : Matching where
  live cell other := cell < base ∧ cell = other
  known _ _ := False
  spare cell := base ≤ cell ∧ cell < base + count

theorem Matching.start_own (base count : Nat) :
    ∀ cell, cell < base → (Matching.start base count).live cell cell :=
  fun _ older => ⟨older, rfl⟩

section Start

variable {matching : Matching} {since : Nat}

theorem Frames.alike_self (own : ∀ cell, cell < since → matching.live cell cell) {frames : Frames}
    (within : ∀ frame ∈ frames, ∀ command ∈ frame, command.Within since) :
    Frames.Alike matching frames frames := by
  apply List.forall₂_same.2
  intro frame inside
  apply List.forall₂_same.2
  intro command among
  exact Command.alike_self own (within frame inside command among)

theorem Journal.alike_self (own : ∀ cell, cell < since → matching.live cell cell)
    {events : List Event}
    (within : ∀ cell frames, .evaluated cell frames ∈ events → cell < since ∧
      ∀ frame ∈ frames, ∀ command ∈ frame, command.Within since) :
    Journal.Alike matching events events := by
  induction events with
  | nil => exact .nil
  | cons event rest ih =>
    have others := ih fun cell frames inside => within cell frames (List.mem_cons_of_mem event inside)
    cases event with
    | entered text => exact .entered text others
    | evaluated cell frames =>
      obtain ⟨older, inFrames⟩ := within cell frames List.mem_cons_self
      exact .evaluated (own cell older) (Frames.alike_self own inFrames) others
    | failed error attempts => exact .failed error attempts (.otherFailed error attempts others)

/-- A world is like itself with more cells, which may all be spare. -/
theorem World.Closed.alike {states : Matching → σ → σ → Prop} {world : World σ}
    (closed : world.Closed) (count : Nat)
    (application : states (.start world.cells.size count) world.application world.application) :
    world.Alike states world.cells.size (.start world.cells.size count) (world.grow count) where
  bot := rfl
  tree := by
    apply closed.tree.mono
    exact fun command within => Command.alike_self (Matching.start_own _ count) within
  context :=
    ⟨Frames.alike_self (Matching.start_own _ count) closed.frames, rfl, rfl, rfl⟩
  generator := rfl
  application := application
  attempts := rfl
  journal := Journal.alike_self (Matching.start_own _ count) closed.journal
  own := Matching.start_own _ count
  inside := by
    rintro cell _ ⟨older, rfl⟩
    rw [size_grow]
    exact ⟨older, Nat.lt_add_right _ older⟩
  single := by
    rintro cell _ second _ ⟨_, rfl⟩ ⟨_, rfl⟩
    exact Iff.rfl
  kept := by
    rintro cell _ ⟨older, rfl⟩
    rw [kept?_grow]
    cases kept : world.kept? cell with
    | none => exact .none
    | some outcome =>
      apply Option.Rel.some
      cases outcome with
      | error error => exact .error error
      | ok reply =>
        apply Ended.ok
        cases reply with
        | command command =>
          have within := closed.replies cell command kept
          exact .command (Command.alike_self (Matching.start_own _ count) within)
        | _ => exact Reply.alike_of_kind_ne nofun
  known := fun impossible => impossible.elim
  separate := fun _ impossible => impossible
  spare := by
    rintro cell ⟨new, inside⟩
    rw [size_grow, kept?_grow]
    refine ⟨inside, World.kept?_eq_none new, ?_⟩
    rintro first ⟨older, rfl⟩
    exact absurd older (Nat.not_lt_of_le new)

end Start

end ChatLine
