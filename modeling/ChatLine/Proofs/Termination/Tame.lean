import ChatLine.Proofs.Bot.Allowed
import ChatLine.Proofs.Line.Meaning
import ChatLine.Proofs.Termination.Work

set_option autoImplicit false

namespace ChatLine

variable {σ : Type}

/-- A function that runs the code of `eval` is the built-in one. -/
def Function.Genuine (f : Function) : Prop :=
  f.code = .builtin .eval → f = Builtin.eval.function

namespace Command

mutual

/-- The command is made of functions, overloads, stored lines, groups and texts. -/
def Ordinary : Command → Prop
  | literal _ => True
  | function f => f.Genuine
  | documented command => command.function.Genuine
  | overloads set => ∀ f ∈ set.functions, f.Genuine
  | stored _ body => body.Ordinary
  | .lazy _ inner => inner.Ordinary
  | applied callee bound => callee.Ordinary ∧ AllOrdinary bound
  | group _ => True
  | root => True
  | orphan => True
  | foreign _ _ => False

def AllOrdinary : List Command → Prop
  | [] => True
  | command :: rest => command.Ordinary ∧ AllOrdinary rest

end

/-- A command as registering it or storing a line puts it into the tree. -/
def Placed : Command → Prop
  | function f => f.Genuine
  | documented command => command.function.Genuine
  | overloads set => ∀ f ∈ set.functions, f.Genuine
  | stored _ body => body.Ordinary
  | _ => False

/-- A command that runs at most once and has run. -/
inductive HasRun (kept : Nat → Bool) : Command → Prop
  | intro (cell : Nat) {inner : Command} (ran : kept cell = true) (ordinary : inner.Ordinary) :
    HasRun kept (.lazy cell inner)

/-- A command that a call can answer with: a group, or a function with arguments that have run. -/
def Settled (kept : Nat → Bool) : Command → Prop
  | group _ => True
  | function f => f.code ≠ .builtin .eval
  | applied (function f) bound => f.code ≠ .builtin .eval ∧ ∀ argument ∈ bound, argument.HasRun kept
  | _ => False

theorem allOrdinary_nil : AllOrdinary [] := trivial

theorem allOrdinary_iff {commands : List Command} :
    AllOrdinary commands ↔ ∀ command ∈ commands, command.Ordinary := by
  induction commands with
  | nil => exact ⟨fun _ command inside => (nomatch inside), fun _ => trivial⟩
  | cons first rest ih =>
    rw [List.forall_mem_cons, ← ih]
    exact Iff.rfl

theorem Placed.ordinary {command : Command} (placed : command.Placed) : command.Ordinary := by
  cases command with
  | function f => exact placed
  | documented command => exact placed
  | overloads set => exact placed
  | stored text body => exact placed
  | _ => exact placed.elim

theorem Placed.cost_le {command : Command} (placed : command.Placed) (kept : Nat → Bool)
    (count peak : Nat) : command.cost kept count peak ≤ peak + 5 * count + 4 := by
  cases command with
  | function f =>
    have below := f.cost_le count peak
    simp only [cost]
    omega
  | documented command =>
    have below := command.function.cost_le count peak
    simp only [cost]
    omega
  | overloads set => exact Nat.le_refl _
  | stored text body => exact Nat.zero_le _
  | _ => exact placed.elim

theorem HasRun.mono {kept later : Nat → Bool} (stays : ∀ cell, kept cell = true → later cell = true)
    {command : Command} (ran : command.HasRun kept) : command.HasRun later := by
  obtain ⟨cell, ran, ordinary⟩ := ran
  exact ⟨cell, stays cell ran, ordinary⟩

theorem HasRun.cost_eq {kept : Nat → Bool} {command : Command} (ran : command.HasRun kept)
    (count peak : Nat) : command.cost kept count peak = 1 := by
  obtain ⟨cell, ran, ordinary⟩ := ran
  simp only [cost, ran, if_true]

theorem Settled.mono {kept later : Nat → Bool}
    (stays : ∀ cell, kept cell = true → later cell = true) {command : Command}
    (settled : command.Settled kept) : command.Settled later := by
  unfold Settled at settled ⊢
  split at settled
  · trivial
  · exact settled
  · exact ⟨settled.1, fun argument inside => (settled.2 argument inside).mono stays⟩
  · exact settled.elim

theorem Settled.ordinary {kept : Nat → Bool} {command : Command} (settled : command.Settled kept) :
    command.Ordinary := by
  unfold Settled at settled
  split at settled
  · trivial
  · exact fun runsEval => absurd runsEval settled
  · refine ⟨fun runsEval => absurd runsEval settled.1, allOrdinary_iff.2 ?_⟩
    intro argument inside
    obtain ⟨cell, ran, ordinary⟩ := settled.2 argument inside
    exact ordinary
  · exact settled.elim

theorem Settled.cost_le {kept : Nat → Bool} {command : Command} (settled : command.Settled kept)
    (count peak : Nat) : command.cost kept count peak ≤ max 1 peak + 5 * count + 5 := by
  unfold Settled at settled
  split at settled
  · simp only [cost]
    omega
  · rename_i f
    have below := f.cost_le count peak
    simp only [cost]
    omega
  · rename_i f bound
    have peaks : peakOf kept bound ≤ 1 :=
      peakOf_le fun argument inside => Nat.le_of_eq ((settled.2 argument inside).cost_eq 0 0)
    simp only [cost, Function.cost, if_neg settled.1]
    omega
  · exact settled.elim

end Command

theorem Expr.ordinary_toCommand {expr : Expr} {command : Command}
    (meant : expr.toCommand = .ok command) : command.Ordinary := by
  apply Expr.toCommand_induction _ _ meant
  · exact fun text => trivial
  · exact fun bound ordinary => ⟨trivial, Command.allOrdinary_iff.2 ordinary⟩

theorem Command.placed_ofLine {text : String} {command : Command}
    (meant : Command.ofLine text = .ok command) : command.Placed := by
  obtain ⟨body, said, rfl⟩ := Command.ofLine_eq_ok_iff.1 meant
  exact Expr.ordinary_toCommand said

namespace World

/-- Calls in the world can be measured. -/
structure Tame (world : World σ) : Prop where
  limited : world.context.budget.remaining.isSome
  frames : ∀ frame ∈ world.context.frames, Command.AllOrdinary frame
  kept : ∀ cell command, world.kept? cell = some (.ok (.command command)) →
    command.Settled world.isKept
  tree : world.bot.groups.Only Command.Placed

/-- A tame world that calls can lead to: the same stored lines are running, tokens were only spent,
and the outcomes that were kept still are. -/
structure Later (world after : World σ) : Prop where
  tame : after.Tame
  frames : after.context.frames = world.context.frames
  tokens : after.tokens ≤ world.tokens
  cells : world.cells.size ≤ after.cells.size
  stays : ∀ cell, world.isKept cell = true → after.isKept cell = true

theorem Tame.later {world : World σ} (tame : world.Tame) : world.Later world :=
  ⟨tame, rfl, Nat.le_refl _, Nat.le_refl _, fun _ same => same⟩

theorem Later.trans {world middle after : World σ} (first : world.Later middle)
    (second : middle.Later after) : world.Later after where
  tame := second.tame
  frames := second.frames.trans first.frames
  tokens := Nat.le_trans second.tokens first.tokens
  cells := Nat.le_trans first.cells second.cells
  stays := fun cell kept => second.stays cell (first.stays cell kept)

/-- Work shrinks as calls go on. -/
theorem Later.cost_le {world after : World σ} (later : world.Later after) (command : Command)
    (count peak : Nat) :
    command.cost after.isKept count peak ≤ command.cost world.isKept count peak :=
  command.cost_mono later.stays (Nat.le_refl _) (Nat.le_refl _)

theorem Later.peakOf_le {world after : World σ} (later : world.Later after)
    (commands : List Command) :
    Command.peakOf after.isKept commands ≤ Command.peakOf world.isKept commands :=
  Command.peakOf_mono later.stays commands

theorem Later.standing_le {world after : World σ} (later : world.Later after) :
    after.standing ≤ world.standing := by
  unfold standing
  rw [later.frames]
  exact Command.standing_mono later.stays _

/-- A world that keeps the same outcomes is later if its tokens are no more and its tree is tame. -/
theorem Tame.later_of_kept {world after : World σ} (tame : world.Tame)
    (kept : after.kept? = world.kept?) (cells : world.cells.size ≤ after.cells.size)
    (frames : after.context.frames = world.context.frames)
    (limited : after.context.budget.remaining.isSome) (tokens : after.tokens ≤ world.tokens)
    (tree : after.bot.groups.Only Command.Placed) : world.Later after := by
  have sameKept : after.isKept = world.isKept := by
    funext cell
    simp only [isKept, kept]
  refine ⟨⟨limited, ?_, ?_, tree⟩, frames, tokens, cells, ?_⟩
  · rw [frames]
    exact tame.frames
  · rw [kept, sameKept]
    exact tame.kept
  · rw [sameKept]
    exact fun _ same => same

theorem Tame.later_of_same {world after : World σ} (tame : world.Tame)
    (cells : after.cells = world.cells) (frames : after.context.frames = world.context.frames)
    (budget : after.context.budget = world.context.budget) (bot : after.bot = world.bot) :
    world.Later after := by
  have kept : after.kept? = world.kept? := by
    funext cell
    simp only [kept?, cells]
  have tokens : after.tokens = world.tokens := by
    simp only [World.tokens, budget]
  have size : world.cells.size = after.cells.size := by rw [cells]
  refine tame.later_of_kept kept (Nat.le_of_eq size) frames ?_ (Nat.le_of_eq tokens) ?_
  · rw [budget]
    exact tame.limited
  · rw [bot]
    exact tame.tree

theorem Tame.addLazy {world : World σ} (tame : world.Tame) (command : Command) :
    world.Later (world.addLazy command).2 := by
  refine tame.later_of_kept (kept?_addLazy world command) ?_ rfl tame.limited (Nat.le_refl _)
    tame.tree
  simp only [World.addLazy, World.addCell, Array.size_push]
  omega

theorem Tame.record {world : World σ} (tame : world.Tame) (event : Event) :
    world.Later (world.record event) :=
  tame.later_of_same rfl rfl rfl rfl

theorem Tame.later_of_bot {world : World σ} (tame : world.Tame) {bot : Bot}
    (tree : bot.groups.Only Command.Placed) : world.Later { world with bot := bot } :=
  tame.later_of_kept rfl (Nat.le_refl _) rfl tame.limited (Nat.le_refl _) tree

/-- Taking tokens leaves that many fewer. -/
theorem Tame.spend {world : World σ} (tame : world.Tame) {count : Nat} {budget : Budget}
    (taken : world.context.budget.take? count = some budget) :
    world.Later { world with context := { world.context with budget := budget } } ∧
      budget.remaining.getD 0 + count = world.tokens := by
  have limited := tame.limited
  obtain ⟨left, isLeft⟩ := Option.isSome_iff_exists.1 limited
  simp only [Budget.take?, isLeft] at taken
  split at taken
  · cases taken
    have rest : left - count + count = world.tokens := by
      simp only [tokens, isLeft, Option.getD_some]
      omega
    refine ⟨tame.later_of_kept rfl (Nat.le_refl _) rfl rfl ?_ tame.tree, rest⟩
    show left - count ≤ world.tokens
    omega
  · cases taken

/-- Keeping an outcome is a step to a later world, if its command is settled. -/
theorem Tame.keep {world : World σ} (tame : world.Tame) (cell : Nat) {outcome : Outcome}
    (settled : ∀ command, outcome = .ok (.command command) → command.Settled world.isKept) :
    world.Later (world.keep cell outcome) := by
  have stays := fun other => isKept_keep world cell other outcome
  refine ⟨⟨tame.limited, tame.frames, ?_, tame.tree⟩, rfl, Nat.le_refl _, ?_, stays⟩
  · intro other command found
    rw [kept?_keep] at found
    split at found
    · cases found
      exact (settled command rfl).mono stays
    · exact (tame.kept other command found).mono stays
  · show world.cells.size ≤ (world.cells.setIfInBounds cell (some outcome)).size
    exact Nat.le_of_eq Array.size_setIfInBounds.symm

end World

end ChatLine
