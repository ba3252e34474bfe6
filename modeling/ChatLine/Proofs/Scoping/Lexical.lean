import ChatLine.Proofs.Scoping.Parameter
import ChatLine.Proofs.Scoping.Runs
import ChatLine.Proofs.Sharing.Once

set_option autoImplicit false

namespace ChatLine

variable {σ : Type}

open Command

/-- What an application does from outside: it calls a command, or changes the world to another one. -/
inductive Turn (σ : Type) where
  | call (depth : Nat) (command : Command) (arguments : List Command) (kinds : List Kind)
  | change (after : World σ)

/-- Turns, the latest first, that lead from a world to another one. Calls may be made of everything in
which no cell waits. Changes let the cells and the journal be; they may move the tree, the state of the
application and the context, but bring in no command in which a cell waits, and no new cell into the
frames. -/
inductive World.Session (calls : Nat → Caller σ) (memory : σ → List Command) (since : Nat)
    (world : World σ) : List (Turn σ) → World σ → Prop
  | start : Session calls memory since world [] world
  | call {turns : List (Turn σ)} {middle after : World σ} {depth : Nat} {command : Command}
      {arguments : List Command} {kinds : List Kind} {outcome : Outcome}
      (before : Session calls memory since world turns middle)
      (idle : ∀ part ∈ command :: arguments, part.Idle middle.isKept since)
      (runs : (calls depth command arguments kinds).run.run middle = some (outcome, after)) :
      Session calls memory since world (.call depth command arguments kinds :: turns) after
  | change {turns : List (Turn σ)} {middle after : World σ}
      (before : Session calls memory since world turns middle)
      (cells : after.cells = middle.cells) (journal : after.journal = middle.journal)
      (frames : after.context.frames = middle.context.frames ∨
        ∀ frame ∈ after.context.frames, ∀ command ∈ frame, command.Within since)
      (tree : after.bot.groups.Only (Command.Idle middle.isKept since))
      (remembers : Remembers memory middle.isKept since after.application) :
      Session calls memory since world (.change after :: turns) after

section Sessions

variable {memory : σ → List Command} {host : Host σ} {since : Nat} {world last : World σ}
  {turns : List (Turn σ)}

/-- In a world in which everything is there, no new cell has run, and none has a home yet. -/
theorem World.Whole.atHome (whole : world.Whole memory) :
    world.AtHome memory world.cells.size ⟨world.cells.size, world.isKept, fun _ => []⟩ where
  begun := Nat.le_refl _
  made := rfl
  kept := rfl
  frames := Frames.fit_of_within whole.frames
  replies := by
    rintro cell reply kept command rfl
    exact (whole.replies cell command kept).idle world.isKept
  tree := whole.tree.mono fun _ within => within.idle world.isKept
  remembers := fun command inside => (whole.remembers command inside).idle world.isKept
  ran := by
    intro cell frames inside young
    have never := List.countP_eq_zero.1 (whole.unrun cell young) _ inside
    exact absurd (beq_self_eq_true cell) never

/-- A call on what waits for nothing runs cells at home, and answers what waits for nothing. -/
theorem World.AtHome.called {ledger : Ledger} (isLocal : host.Local memory since)
    (atHome : world.AtHome memory since ledger) {depth : Nat} {command : Command}
    {arguments : List Command} (idle : ∀ part ∈ command :: arguments, part.Idle world.isKept since)
    (kinds : List Kind) :
    Eval.Lexical memory since ledger (Evaluate.run host depth command arguments kinds)
      (fun home => Evaluate.runWhere (World.CallsAtHome home since) host depth command arguments kinds)
      world (Eval.OnValue fun reply kept => reply.Idle kept since) := by
  rw [← atHome.kept] at idle
  obtain ⟨ofCommand, ofArguments⟩ := List.forall_mem_cons.1 idle
  intro result after runs
  obtain ⟨later, le, afterHome, frames, ⟨answered, _⟩, watches⟩ :=
    Evaluate.run_lexical isLocal depth ledger world command arguments kinds atHome
      (.of_idle ofCommand) (fun argument inside => .of_idle (ofArguments argument inside)) _ _ runs
  refine ⟨later, le, afterHome, frames, answered, fun home agrees => ?_⟩
  exact Evaluate.framed_approximates_callsAtHome home since depth command arguments kinds world _
    (watches home agrees)

/-- Throughout a session every cell runs at home, and all calls pass under watch. -/
theorem World.Session.atHome {ledger : Ledger} (isLocal : host.Local memory since)
    (atHome : world.AtHome memory since ledger)
    (session : world.Session (Evaluate.run host) memory since turns last) :
    ∃ later, ledger.Le later ∧ last.AtHome memory since later ∧ ∀ home, later.Agrees home →
      world.Session (Evaluate.runWhere (World.CallsAtHome home since) host) memory since turns last := by
  induction session with
  | start => exact ⟨ledger, .refl ledger, atHome, fun _ _ => .start⟩
  | call before idle runs ih =>
    obtain ⟨middle, le, middleHome, watched⟩ := ih
    obtain ⟨later, more, afterHome, _, _, watches⟩ :=
      middleHome.called isLocal idle _ _ _ runs
    refine ⟨later, le.trans more, afterHome, fun home agrees => ?_⟩
    exact .call (watched home (agrees.before more)) idle (watches home agrees)
  | @change turns middle after before cells journal frames tree remembers ih =>
    obtain ⟨later, le, middleHome, watched⟩ := ih
    refine ⟨later, le, ?_, fun home agrees =>
      .change (watched home agrees) cells journal frames tree remembers⟩
    rw [← middleHome.kept] at tree remembers
    refine middleHome.of_same cells ?_ tree remembers fun cell frames inside => journal ▸ inside
    rcases frames with same | within
    · rw [same]
      exact middleHome.frames
    · exact Frames.fit_of_within within

end Sessions

namespace Evaluate

/-- Where a stored line is called and paid for, its body runs with the arguments in the innermost frame,
around which are the frames of the call; there it reads each argument, and hands on what it reads. -/
def EntersScope (host : Host σ) : Prop :=
  ∀ (world : World σ) (budget : Budget) (text : String) (body : Command) (arguments : List Command),
    world.context.budget.take? 1 = some budget →
      (∀ depth kinds, (run host (depth + 1) (.stored text body) arguments kinds).resultIn world =
        (run host depth body [] kinds).resultIn (world.enter budget text arguments)) ∧
      let inside := world.enter budget text arguments
      ∀ (position : Nat) (argument : Command), arguments[position]? = some argument →
        inside.Passes inside.context.frames position 0 (world.cells.size + position) argument
            world.context.frames ∧
          ∀ word index levels cell outer home, argument = .parameter word →
            Binding.coerce word .int = .ok (.int (some (index : Nat))) →
            world.Passes world.context.frames index levels cell outer home →
              inside.Passes inside.context.frames position (levels + 1) cell outer home

/-- What `param` is answered for an index, wherever a kind besides a command is wanted, is what the
argument is answered at home: in the world as it is, but with the frames that the argument belongs to,
and with the indices read. That is the outcome of its one run, whoever asks. -/
def ReadsArguments (host : Host σ) : Prop :=
  ∀ (world : World σ) (word : String) (index levels cell : Nat) (argument : Command) (home : Frames),
    world.bot.HasParameter → Binding.coerce word .int = .ok (.int (some (index : Nat))) →
    world.Passes world.context.frames index levels cell argument home →
      Replays host cell argument ∧
      ∃ there : World σ, world.ReadsOn there home ∧
        ∀ depth kinds, (∃ kind ∈ kinds, kind ≠ .command) →
          (run host (depth + 4 * levels + 5) (.parameter word) [] kinds).resultIn world =
            (run host (depth + 2) (.lazy cell argument) [] kinds).resultIn there

variable {host : Host σ}

theorem entersScope (host : Host σ) : EntersScope host := by
  intro world budget text body arguments paid
  refine ⟨fun depth kinds => ?_, fun position argument found => ⟨.enter budget text found, ?_⟩⟩
  · refine (Eval.resultIn_recorded (callStored _ _ _ _ _) world).trans ?_
    rw [Eval.resultIn, run_callStored paid, Option.map_map]
    rfl
  · rintro word index levels cell outer home rfl reads passes
    exact .enter_on budget text found reads passes

theorem readsArguments (host : Host σ) : ReadsArguments host := by
  intro world word index levels cell argument home parameter reads passes
  exact ⟨replays host cell argument, resultIn_parameter parameter passes (.refl world) reads⟩

/-- Arguments are lexically scoped. In a world in which everything is there, and in every world that
calls and changes of the application lead to, there is a home for every new cell: whenever, at whatever
depth, a stored line was called and paid for, the cells of its arguments are at home inside the frames
around the call, and whatever ran in a new cell ran with exactly the frames of its home. No command
that is answered leads to an argument that has not run.

The code of the application must be local: it must not change the frames, and neither hand out nor
remember an argument that has not run. -/
theorem arguments_run_at_home {memory : σ → List Command} {world last : World σ}
    {turns : List (Turn σ)} (isLocal : host.Local memory world.cells.size)
    (whole : world.Whole memory)
    (session : world.Session (run host) memory world.cells.size turns last) :
    (∃ home : Nat → Frames,
      world.Session (runWhere (World.CallsAtHome home world.cells.size) host) memory
        world.cells.size turns last ∧
      ∀ cell frames, .evaluated cell frames ∈ last.journal → world.cells.size ≤ cell →
        frames = home cell) ∧
    (∀ depth command arguments kinds reply after,
      (∀ part ∈ command :: arguments, part.Idle last.isKept world.cells.size) →
      (run host depth command arguments kinds).run.run last = some (.ok reply, after) →
        reply.Idle after.isKept world.cells.size) ∧
    EntersScope host ∧ ReadsArguments host := by
  obtain ⟨ledger, -, atHome, watched⟩ := session.atHome isLocal whole.atHome
  refine ⟨⟨ledger.home, watched ledger.home fun _ _ => rfl, ?_⟩, ?_, entersScope host,
    readsArguments host⟩
  · exact fun cell frames inside young => (atHome.ran cell frames inside young).2.symm
  · intro depth command arguments kinds reply after idle runs
    obtain ⟨later, -, afterHome, -, answered, -⟩ := atHome.called isLocal idle kinds _ _ runs
    rw [← afterHome.kept]
    exact answered reply rfl

/-- A line that reads its first argument. -/
def reader : Command := .stored "!param 0" (.parameter "0")

/-- The world in which nothing has run, with the commands `param` and `print`. -/
def reading : World Unit :=
  let readers := [.register Builtin.parameter.documented, .register Builtin.print.documented]
  World.start (Bot.History.ofOperations .bare readers).bot (.fresh .unlimited none) () 0

theorem whole_reading : reading.Whole fun _ => [] where
  replies := fun _ _ impossible => nomatch impossible
  frames := fun _ impossible => nomatch impossible
  tree := ⟨⟨fun _ => rfl, fun _ impossible => impossible, fun _ => rfl,
    fun _ impossible => impossible, trivial⟩, fun _ impossible => nomatch impossible⟩
  remembers := fun _ impossible => nomatch impossible
  unrun := fun _ _ => rfl

/-- The argument of a line that is called from outside runs outside. -/
theorem arguments_run_at_home_reader :
    ∃ after, (run Host.none 9 reader [.literal "a"] [.string]).run.run reading =
        some (.ok (.text "a"), after) ∧
      ∀ frames, .evaluated 0 frames ∈ after.journal → frames = [] := by
  obtain ⟨after, runs⟩ : ∃ after, (run Host.none 9 reader [.literal "a"] [.string]).run.run reading =
      some (.ok (.text "a"), after) := ⟨_, by rfl⟩
  have idle : ∀ part ∈ [reader, .literal "a"], part.Idle reading.isKept reading.cells.size := by
    refine List.forall_mem_cons.2 ⟨fun _ waits => ?_, List.forall_mem_singleton.2 fun _ waits => waits⟩
    simp only [reader, parameter, Waits, AnyWaits, or_self] at waits
  obtain ⟨⟨home, watched, ran⟩, -⟩ :=
    arguments_run_at_home (Host.local_none _ _) whole_reading (.call .start idle runs)
  refine ⟨after, runs, fun frames inside => (ran 0 frames inside (Nat.zero_le 0)).trans ?_⟩
  cases watched with
  | call before _ passes =>
    cases before
    exact (Eval.of_run_provided passes).1.2 .unlimited rfl 0 (by decide)

/-- Where nothing but a command is wanted, the command `param` is not answered, because it takes no more
arguments; the argument that it reads is. -/
theorem parameter_for_command :
    let printing := Command.applied .root [.literal "print", .literal "a"]
    (run Host.none 9 reader [printing] [.command]).resultIn reading =
        some (.error (.noMatchingKind "function param (wanted command)")) ∧
      ∃ command, (run Host.none 9 printing [] [.command]).resultIn reading =
        some (.ok (.command command)) :=
  ⟨by rfl, _, by rfl⟩

end Evaluate

end ChatLine
