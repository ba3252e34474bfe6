import ChatLine.Proofs.Sharing.Runs

set_option autoImplicit false

namespace ChatLine

variable {σ : Type}

open Command

namespace World

/-- All cells that the world speaks of are there, and nothing has run in any other. -/
structure Whole (memory : σ → List Command) (world : World σ) : Prop where
  replies : ∀ cell command, world.kept? cell = some (.ok (.command command)) →
    command.Within world.cells.size
  frames : ∀ frame ∈ world.context.frames, ∀ command ∈ frame, command.Within world.cells.size
  tree : world.bot.groups.Only (Command.Within world.cells.size)
  remembers : ∀ command ∈ memory world.application, command.Within world.cells.size
  unrun : ∀ cell, world.cells.size ≤ cell → world.timesRun cell = 0

/-- A world that calls lead to, and changes by the application between them: it may make cells, move
the tree and the context, and remember other commands, as long as they wait for nothing. It may call
whatever it wants on whatever it wants, if the parts of the call are apart. -/
inductive LeadsTo (host : Host σ) (memory : σ → List Command) (since : Nat) (world : World σ) :
    World σ → Prop
  | refl : LeadsTo host memory since world world
  | call {middle after : World σ} {depth : Nat} {command : Command} {arguments : List Command}
      {kinds : List Kind} {outcome : Outcome} (before : LeadsTo host memory since world middle)
      (apart : Apart middle.isKept since (· < middle.cells.size)
        ([command] :: arguments :: middle.context.frames))
      (runs : (Evaluate.run host depth command arguments kinds).run.run middle =
        some (outcome, after)) :
      LeadsTo host memory since world after
  | change {middle after : World σ} (before : LeadsTo host memory since world middle)
      (size : middle.cells.size ≤ after.cells.size) (kept : after.kept? = middle.kept?)
      (runs : after.timesRun = middle.timesRun)
      (tree : after.bot.groups.Only (Command.Idle middle.isKept since))
      (remembers : Remembers memory middle.isKept since after.application) :
      LeadsTo host memory since world after

variable {memory : σ → List Command} {host : Host σ} {since : Nat} {world last : World σ}

theorem Whole.orderly (whole : world.Whole memory) :
    world.Orderly memory world.cells.size fun _ => False where
  made := Nat.le_refl _
  running := fun _ impossible => impossible.elim
  replies := by
    rintro cell reply kept command rfl
    exact (whole.replies cell command kept).idle world.isKept
  tree := whole.tree.mono fun _ within => within.idle world.isKept
  remembers := fun command inside => (whole.remembers command inside).idle world.isKept
  once := fun cell young => Nat.le_trans (Nat.le_of_eq (whole.unrun cell young)) (Nat.zero_le 1)
  unrun := fun cell young _ _ => whole.unrun cell young

theorem Whole.apart (whole : world.Whole memory) {command : Command} {arguments : List Command}
    (within : ∀ part ∈ command :: arguments, part.Within world.cells.size) :
    Apart world.isKept world.cells.size (· < world.cells.size)
      ([command] :: arguments :: world.context.frames) := by
  obtain ⟨ofCommand, ofArguments⟩ := List.forall_mem_cons.1 within
  have frames {parts : Frames} (inside : ∀ frame ∈ parts, frame ∈ world.context.frames) :
      Apart world.isKept world.cells.size (· < world.cells.size) parts := by
    induction parts with
    | nil => exact Apart.nil
    | cons frame rest ih =>
      obtain ⟨here, others⟩ := List.forall_mem_cons.1 inside
      exact (ih others).idle fun command among => (whole.frames frame here command among).idle _
  refine ((frames fun _ inside => inside).idle ?_).idle ?_
  · exact fun argument among => (ofArguments argument among).idle _
  · exact List.forall_mem_singleton.2 (ofCommand.idle _)

/-- Calls and changes of the application keep a world in order. -/
theorem LeadsTo.orderly (discreet : host.Discreet memory since)
    (orderly : world.Orderly memory since fun _ => False)
    (leads : world.LeadsTo host memory since last) : last.Orderly memory since fun _ => False := by
  induction leads with
  | refl => exact orderly
  | @call middle after _ _ _ _ _ before apart runs ih =>
    have free : Apart middle.isKept since (middle.Free fun _ => False) _ :=
      apart.weaken fun _ there => ⟨there, fun impossible => impossible⟩
    exact (Evaluate.run_safe discreet _ _ _ _ _ _ ih free _ _ runs).1.orderly
  | @change middle after before size kept runs tree remembers ih =>
    have same : after.isKept = middle.isKept := by
      funext cell
      simp only [isKept, kept]
    refine ⟨Nat.le_trans ih.made size, fun _ impossible => impossible.elim, ?_, ?_, ?_, ?_, ?_⟩
    · rw [kept, same]
      exact ih.replies
    · rw [same]
      exact tree
    · rw [same]
      exact remembers
    · rw [runs]
      exact ih.once
    · rw [same, runs]
      exact ih.unrun

end World

def Command.Shares : Command → Prop
  | function _ => True
  | documented _ => True
  | overloads _ => True
  | stored _ _ => True
  | _ => False

namespace Evaluate

variable {host : Host σ}

/-- The call puts its arguments in new cells, at most after it has taken a token, and sees no more of
them than the commands in these cells. -/
def SeesShared (host : Host σ) (call : Caller σ) (line : LineCaller σ) (command : Command)
    (kinds : List Kind) : Prop :=
  ∃ (pay : Eval σ Unit) (next : List Command → Eval σ Reply), (pay = pure () ∨ pay = payForLine) ∧
    ∀ arguments, step host call line command arguments kinds = do
      pay
      next (← Eval.share arguments)

theorem seesShared {command : Command} (shares : command.Shares) (call : Caller σ)
    (line : LineCaller σ) (kinds : List Kind) : SeesShared host call line command kinds := by
  have free {next : List Command → Eval σ Reply}
      (same : ∀ arguments, step host call line command arguments kinds =
        Eval.share arguments >>= next) : SeesShared host call line command kinds := by
    refine ⟨pure (), next, .inl rfl, ?_⟩
    intro arguments
    rw [pure_bind]
    exact same arguments
  cases command with
  | function f => exact free fun arguments => rfl
  | documented command => exact free fun arguments => rfl
  | overloads set => exact free fun arguments => rfl
  | stored text body => exact ⟨payForLine, _, .inr rfl, fun arguments => rfl⟩
  | _ => exact shares.elim

/-- A function, overloads or a stored line that is called puts each argument in a cell of its own, and
sees only the commands in these cells. All requests of one are answered with the same outcome. It
begins to run again only while it runs itself, whatever the code of the application does.

If that code is discreet, it never begins again: whatever the call starts, and whatever is called
later, runs every argument at most once, and so everything else that was put in a cell meanwhile. -/
theorem arguments_run_once {memory : σ → List Command} {depth : Nat} {command : Command}
    {arguments : List Command} {kinds : List Kind} {outcome : Outcome} {world after : World σ}
    (whole : world.Whole memory) (shares : command.Shares)
    (within : ∀ part ∈ command :: arguments, part.Within world.cells.size)
    (runs : (run host depth command arguments kinds).run.run world = some (outcome, after)) :
    SeesShared host (run host depth) (callLine (run host depth)) command kinds ∧
      (∃ shared, (Eval.share arguments).run.run world =
          some (.ok shared, world.grow arguments.length) ∧
        ∀ (position : Nat) (argument : Command), arguments[position]? = some argument →
          ∃ cell, shared[position]? = some (Command.lazy cell argument) ∧ world.cells.size ≤ cell ∧
            Replays host cell argument ∧ RunsAgainOnlyInside host cell argument) ∧
      (host.Discreet memory world.cells.size → ∀ last,
        after.LeadsTo host memory world.cells.size last →
          ∀ cell, world.cells.size ≤ cell → last.timesRun cell ≤ 1) := by
  refine ⟨seesShared shares _ _ kinds, ⟨_, Eval.run_share arguments world, ?_⟩, ?_⟩
  · intro position argument found
    exact ⟨_, getElem?_sharedFrom found, Nat.le_add_right _ _, replays host _ argument,
      runsAgainOnlyInside host _ argument⟩
  · intro discreet last later
    have called : world.LeadsTo host memory world.cells.size after :=
      .call .refl (whole.apart within) runs
    exact (later.orderly discreet (called.orderly discreet whole.orderly)).once

/-- An application whose functions run some code on their arguments. -/
def onArguments (code : List Command → Native Unit Value) : Host Unit where
  native := fun _ bindings => do code (← Native.ofExcept (bindings.arguments 0))
  foreign := fun _ => none

/-- A function that gives its arguments to the code of the application. -/
def handing : Function where
  name := "hand"
  formals := [.arguments]
  required := 0
  code := .host 0

/-- Asks the first argument for its text, and then for it again. -/
def askTwice : List Command → Native Unit Value
  | [] => Native.fail (.arity "expected an argument")
  | argument :: _ => do
    let first ← Native.text argument
    let second ← Native.text argument
    return .string (first ++ second)

/-- Calls the first argument on that argument itself. -/
def callOnItself : List Command → Native Unit Value
  | [] => Native.fail (.arity "expected an argument")
  | argument :: _ => do return .reply (← Native.call argument [argument] [.string])

theorem abides_askTwice (arguments : List Command) (frames : Frames) (known : List Command) :
    (askTwice arguments).Abides arguments frames false known Value.Known := by
  cases arguments with
  | nil => exact Native.abides_fail
  | cons argument rest =>
    apply Native.abides_bind (Native.abides_text List.mem_cons_self)
    intro _ first _
    apply Native.abides_bind (Native.abides_text List.mem_cons_self)
    intro _ second _
    exact Builtin.abides_text_value _

theorem stateless_askTwice (arguments : List Command) : (askTwice arguments).Stateless := by
  have closed : Native.Closed fun {α : Type} (native : Native Unit α) => native.Stateless :=
    Native.closed_stateless
  cases arguments with
  | nil => exact closed.fail _
  | cons argument rest =>
    exact closed.bind (closed.text argument) fun _ =>
      closed.bind (closed.text argument) fun _ => closed.pure _

theorem discreet_askTwice (memory : Unit → List Command) (since : Nat) :
    (onArguments askTwice).Discreet memory since where
  native := by
    intro index bindings kept arguments frames apart _ own
    have abides : ((onArguments askTwice).native index bindings).Abides arguments frames false []
        Value.Known := by
      apply Native.abides_bind (Builtin.abides_arguments own 0)
      rintro known given rfl
      exact abides_askTwice given frames known
    have stateless : ((onArguments askTwice).native index bindings).Stateless :=
      Native.closed_stateless.bind (Native.stateless_ofExcept _) stateless_askTwice
    exact Native.discreet_of_abides abides stateless apart
  foreign := fun _ _ _ _ _ _ found => nomatch found

/-- The code asks its argument twice, and then the cell is requested once more. -/
theorem arguments_run_once_askTwice :
    let host := onArguments askTwice
    let world := World.start (.empty .standard) (.fresh .unlimited none) () 0
    let argument := Command.applied (.function Builtin.print.function) [.literal "a"]
    ∃ after last,
      (run host 6 (.function handing) [argument] [.string]).run.run world =
          some (.ok (.text "aa"), after) ∧
        (run host 6 (.lazy 0 argument) [] [.string]).run.run after = some (.ok (.text "a"), last) ∧
          ∀ cell, last.timesRun cell ≤ 1 := by
  intro host world argument
  have ends : ∃ after last,
      (run host 6 (.function handing) [argument] [.string]).run.run world =
          some (.ok (.text "aa"), after) ∧
        (run host 6 (.lazy 0 argument) [] [.string]).run.run after = some (.ok (.text "a"), last) ∧
          after.context.frames = [] ∧ after.isKept 0 = true :=
    ⟨_, _, rfl, by rfl, by rfl, by rfl⟩
  obtain ⟨after, last, runs, again, noFrames, kept⟩ := ends
  refine ⟨after, last, runs, again, ?_⟩
  have whole : world.Whole fun _ => [] :=
    ⟨fun cell command impossible => (nomatch impossible), fun frame inside => (nomatch inside),
      ⟨trivial, fun node inside => (nomatch inside)⟩, fun command inside => (nomatch inside),
      fun cell _ => rfl⟩
  have plain : argument.Within world.cells.size := by
    rintro cell (impossible | impossible | impossible) <;> exact impossible
  have within : ∀ part ∈ [Command.function handing, argument], part.Within world.cells.size :=
    List.forall_mem_cons.2 ⟨fun cell impossible => impossible, List.forall_mem_singleton.2 plain⟩
  have settled : (Command.lazy 0 argument).Idle after.isKept world.cells.size := by
    rintro cell ⟨unsettled, _⟩
    rw [kept] at unsettled
    cases unsettled
  have apart : Apart after.isKept world.cells.size (· < after.cells.size)
      ([Command.lazy 0 argument] :: [] :: after.context.frames) := by
    rw [noFrames]
    exact (Apart.nil.idle (List.forall_mem_nil _)).idle (List.forall_mem_singleton.2 settled)
  have shares : (Command.function handing).Shares := trivial
  obtain ⟨_, _, once⟩ := arguments_run_once whole shares within runs
  exact fun cell => once (discreet_askTwice _ _) last (.call .refl apart again) cell (Nat.zero_le cell)

/-- The condition on the code cannot be left out, though it changes no frame: while an argument runs on
itself, no outcome is kept yet that its request could be answered with, and so it runs again. -/
theorem argument_called_on_itself :
    let host := onArguments callOnItself
    let world := World.start (.empty .standard) (.fresh .unlimited none) () 0
    (∀ argument rest, ∃ next,
      (callOnItself (argument :: rest)).run = .call [] argument [argument] [.string] next ∧
        ∀ outcome, ∃ result, next outcome = .done result) ∧
    ∃ after,
      (run host 9 (.function handing) [.function Builtin.print.function] [.string]).run.run world =
          some (.ok (.text ""), after) ∧ after.timesRun 0 = 2 := by
  refine ⟨fun argument rest => ⟨_, rfl, fun outcome => ?_⟩, _, rfl, rfl⟩
  cases outcome <;> exact ⟨_, rfl⟩

end Evaluate

end ChatLine
