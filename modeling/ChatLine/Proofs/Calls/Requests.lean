import ChatLine.Proofs.Calls.Binding
import ChatLine.Proofs.Calls.Lasting

set_option autoImplicit false

namespace ChatLine.Evaluate

variable {σ : Type} {host : Host σ} {call : Caller σ}

/-- The answer to a request when an outcome is kept: the same error, or the same reply, if it is of a
kind that the request asks for. -/
def replay (what : String) (outcome : Outcome) (kinds : List Kind) : Outcome :=
  match outcome with
  | .error error => .error error
  | .ok reply =>
    if reply.fits kinds then .ok reply else .error (Reply.mismatch "cached" what reply.kind kinds)

/-- A request is answered with a reply that is kept, if that is of a kind that it asks for. -/
theorem replay_eq_ok_iff {what : String} {outcome : Outcome} {kinds : List Kind}
    {reply : Reply} :
    replay what outcome kinds = .ok reply ↔ outcome = .ok reply ∧ reply.fits kinds := by
  cases outcome with
  | error error => simp [replay]
  | ok other =>
    simp only [replay, Except.ok.injEq]
    constructor
    · intro same
      split at same
      · cases same
        exact ⟨rfl, ‹_›⟩
      · cases same
    · rintro ⟨rfl, fits⟩
      rw [if_pos fits]

theorem run_settle (cell : Nat) (inner : Command) (arguments : List Command) (kinds : List Kind)
    (world : World σ) :
    (settle call cell inner arguments kinds).run.run world =
      match world.kept? cell with
      | some outcome => some (.ok outcome, world)
      | none =>
        ((call inner arguments kinds).run.run
          (world.record (.evaluated cell world.context.frames))).map fun made =>
            (.ok made.1, made.2.keep cell made.1) := by
  simp only [settle, Eval.run_bind, Eval.run_get]
  cases world.kept? cell with
  | some outcome => rfl
  | none =>
    simp only [Eval.record, Eval.run_bind, Eval.run_modify, Eval.run_outcome]
    cases (call inner arguments kinds).run.run
      (world.record (.evaluated cell world.context.frames)) <;> rfl

theorem run_callLazy (cell : Nat) (inner : Command) (arguments : List Command) (kinds : List Kind)
    (world : World σ) :
    (callLazy call cell inner arguments kinds).run.run world =
      match world.kept? cell with
      | some outcome => some (replay (inner.describe world.bot.groups) outcome kinds, world)
      | none =>
        ((call inner arguments kinds).run.run
          (world.record (.evaluated cell world.context.frames))).map fun made =>
            (replay (inner.describe made.2.bot.groups) made.1 kinds, made.2.keep cell made.1) := by
  have answer (outcome : Outcome) (after : World σ) :
      (do
        let reply ← Eval.ofExcept outcome
        if reply.fits kinds then return reply
        else throw (Reply.mismatch "cached" (← Eval.describe inner) reply.kind kinds) :
          Eval σ Reply).run.run after =
        some (replay (inner.describe after.bot.groups) outcome kinds, after) := by
    cases outcome with
    | error error => rfl
    | ok reply =>
      simp only [replay, Eval.run_bind, Eval.run_ofExcept]
      split <;> rfl
  rw [callLazy, Eval.run_bind, run_settle]
  cases world.kept? cell with
  | some outcome => exact answer outcome world
  | none =>
    cases (call inner arguments kinds).run.run
        (world.record (.evaluated cell world.context.frames)) with
    | none => rfl
    | some made => exact answer made.1 (made.2.keep cell made.1)

/-- The first request runs the command and keeps its outcome. -/
theorem run_callLazy_of_unsettled {cell : Nat} {inner : Command} {world : World σ}
    (unsettled : world.kept? cell = none) (arguments : List Command) (kinds : List Kind) :
    (callLazy call cell inner arguments kinds).run.run world =
      ((call inner arguments kinds).run.run
        (world.record (.evaluated cell world.context.frames))).map fun made =>
          (replay (inner.describe made.2.bot.groups) made.1 kinds, made.2.keep cell made.1) := by
  rw [run_callLazy, unsettled]

/-- A request leaves an outcome kept, and is answered with a replay of it. If one was kept before, it
is that one, and no command begins to run; else it is the outcome of the command in the cell. -/
theorem replays_of_run {depth cell : Nat} {inner : Command} {arguments : List Command}
    {kinds : List Kind} {world after : World σ} {answer : Outcome}
    (runs : (run host depth (.lazy cell inner) arguments kinds).run.run world =
      some (answer, after)) (there : cell < world.cells.size) :
    ∃ outcome, after.kept? cell = some outcome ∧
      answer = replay (inner.describe after.bot.groups) outcome kinds ∧
      (∀ earlier, world.kept? cell = some earlier →
        earlier = outcome ∧ after.timesRun = world.timesRun) ∧
      (world.kept? cell = none → ∃ less middle, (run host less inner arguments kinds).run.run
        (world.record (.evaluated cell world.context.frames)) = some (outcome, middle) ∧
          after.timesRun = middle.timesRun) := by
  cases depth with
  | zero => cases runs
  | succ depth =>
    simp only [run, Eval.run_recorded, step, run_callLazy] at runs
    have unchanged (left : World σ) (error : CommandError) :
        (left.record (.failed error left.attempts)).timesRun = left.timesRun :=
      funext (left.quiet_record fun _ => rfl).runs
    cases kept : world.kept? cell with
    | some outcome =>
      simp only [kept, Option.map_some, Option.some.injEq, Prod.mk.injEq] at runs
      obtain ⟨rfl, rfl⟩ := runs
      refine ⟨outcome, ?_, ?_, ?_, fun impossible => nomatch impossible⟩
      · split <;> exact kept
      · split <;> rfl
      · intro earlier same
        cases same
        refine ⟨rfl, ?_⟩
        split
        · rfl
        · exact unchanged world _
    | none =>
      simp only [kept, Option.map_map] at runs
      obtain ⟨⟨outcome, middle⟩, ended, same⟩ := Option.map_eq_some_iff.1 runs
      simp only [Function.comp_apply, Prod.mk.injEq] at same
      obtain ⟨rfl, rfl⟩ := same
      have keeps := run_lasts World.lasting_keeps depth inner arguments kinds _ _ _ ended
      have stored : (middle.keep cell outcome).kept? cell = some outcome := by
        rw [World.kept?_keep, if_pos ⟨rfl, Nat.lt_of_lt_of_le there keeps.size⟩]
      refine ⟨outcome, ?_, ?_, (fun _ impossible => nomatch impossible), ?_⟩
      · split <;> exact stored
      · split <;> rfl
      · refine fun _ => ⟨depth, middle, ended, ?_⟩
        split
        · rfl
        · exact unchanged (middle.keep cell outcome) _

theorem isKept_of_run {depth cell : Nat} {inner : Command} {arguments : List Command}
    {kinds : List Kind} {world after : World σ} {answer : Outcome}
    (runs : (run host depth (.lazy cell inner) arguments kinds).run.run world =
      some (answer, after)) (there : cell < world.cells.size) : after.isKept cell = true := by
  obtain ⟨outcome, kept, _⟩ := replays_of_run runs there
  exact World.isKept_of_kept? kept

/-- Every request of the command in a cell is answered with a replay of one outcome, that of the run
of the command if the request is the first; and as long as what is kept stays, each further request
is a replay of the same outcome, whatever it asks for, and runs nothing. -/
def Replays (host : Host σ) (cell : Nat) (inner : Command) : Prop :=
  ∀ depth arguments kinds world answer after, cell < world.cells.size →
    (run host depth (.lazy cell inner) arguments kinds).run.run world = some (answer, after) →
      ∃ outcome, answer = replay (inner.describe after.bot.groups) outcome kinds ∧
        (world.kept? cell = none → ∃ less middle, (run host less inner arguments kinds).run.run
          (world.record (.evaluated cell world.context.frames)) = some (outcome, middle)) ∧
        ∀ depth arguments kinds later again last, after.Keeps later →
          (run host depth (.lazy cell inner) arguments kinds).run.run later = some (again, last) →
            again = replay (inner.describe last.bot.groups) outcome kinds ∧
              last.timesRun = later.timesRun

theorem replays (host : Host σ) (cell : Nat) (inner : Command) : Replays host cell inner := by
  intro depth arguments kinds world answer after there runs
  obtain ⟨outcome, kept, answered, _, first⟩ := replays_of_run runs there
  refine ⟨outcome, answered, ?_, ?_⟩
  · intro unsettled
    obtain ⟨less, middle, ended, _⟩ := first unsettled
    exact ⟨less, middle, ended⟩
  · intro depth arguments kinds later again last keeps runsAgain
    have still := keeps.kept cell outcome kept
    obtain ⟨other, _, answeredAgain, replayed, _⟩ :=
      replays_of_run runsAgain (World.lt_size_of_kept? still)
    obtain ⟨rfl, nothing⟩ := replayed outcome still
    exact ⟨answeredAgain, nothing⟩

/-- The command in a cell begins to run again only while it runs: when a request has run it, it has
begun as often as it ever will, which is as often as at the end of that run. -/
def RunsAgainOnlyInside (host : Host σ) (cell : Nat) (inner : Command) : Prop :=
  ∀ depth arguments kinds world answer after, cell < world.cells.size →
    world.kept? cell = none →
    (run host depth (.lazy cell inner) arguments kinds).run.run world = some (answer, after) →
      ∃ less outcome middle, (run host less inner arguments kinds).run.run
          (world.record (.evaluated cell world.context.frames)) = some (outcome, middle) ∧
        ∀ later, after.Keeps later → later.timesRun cell = middle.timesRun cell

theorem runsAgainOnlyInside (host : Host σ) (cell : Nat) (inner : Command) :
    RunsAgainOnlyInside host cell inner := by
  intro depth arguments kinds world answer after there unsettled runs
  obtain ⟨outcome, kept, _, _, first⟩ := replays_of_run runs there
  obtain ⟨less, middle, ended, same⟩ := first unsettled
  refine ⟨less, outcome, middle, ended, ?_⟩
  intro later keeps
  rw [keeps.runs cell outcome kept, same]

end ChatLine.Evaluate

namespace ChatLine

variable {σ : Type} {host : Host σ}

/-- The command runs at most once, it has run, and the text that it answered is kept. -/
def World.Tells (world : World σ) (command : Command) (text : String) : Prop :=
  ∃ cell inner, command = .lazy cell inner ∧ world.kept? cell = some (.ok (.text text))

theorem World.Tells.later {world after : World σ} {command : Command} {text : String}
    (tells : world.Tells command text) (keeps : world.Keeps after) : after.Tells command text := by
  obtain ⟨cell, inner, rfl, kept⟩ := tells
  exact ⟨cell, inner, rfl, keeps.kept cell _ kept⟩

theorem World.Keeps.tell {world after : World σ} (keeps : world.Keeps after)
    {commands : List Command} {texts : List String}
    (tell : List.Forall₂ world.Tells commands texts) :
    List.Forall₂ after.Tells commands texts :=
  tell.imp fun _ _ tells => tells.later keeps

/-- A command that has run answers its text, and nothing else happens. -/
theorem Evaluate.run_of_tells {world : World σ} {command : Command} {text : String}
    (tells : world.Tells command text) (depth : Nat) :
    (run host (depth + 1) command [] [.string]).run.run world =
      some (.ok (.text text), world) := by
  obtain ⟨cell, inner, rfl, kept⟩ := tells
  simp only [run, Eval.run_recorded, step, run_callLazy, kept]
  rfl

namespace Eval

theorem run_text_of_answer {call : Caller σ} {command : Command} {text : String}
    {world after : World σ}
    (runs : (call command [] [.string]).run.run world = some (.ok (.text text), after)) :
    (Eval.text call command).run.run world = some (.ok text, after) := by
  simp only [Eval.text, run_bind, runs, run_get]
  rfl

/-- Commands that have run answer their texts again. -/
theorem replay_of_tells {world : World σ} {commands : List Command} {texts : List String}
    (tell : List.Forall₂ world.Tells commands texts) (depth : Nat) :
    Replay (Evaluate.run host (depth + 1)) world commands texts :=
  tell.imp fun _ _ tells => run_text_of_answer (Evaluate.run_of_tells tells depth)

/-- A command that runs at most once keeps the text that it was asked for. -/
theorem tells_of_text {depth cell : Nat} {inner : Command} {text : String} {world after : World σ}
    (runs : (Eval.text (Evaluate.run host depth) (.lazy cell inner)).run.run world =
      some (.ok text, after)) (there : cell < world.cells.size) :
    after.Tells (.lazy cell inner) text := by
  rcases exists_of_run_bind runs with ⟨_, _, failed⟩ | ⟨reply, middle, answered, read⟩
  · cases failed
  · obtain ⟨outcome, kept, same, _⟩ := Evaluate.replays_of_run answered there
    cases reply with
    | text content =>
      cases read
      obtain ⟨rfl, _⟩ := Evaluate.replay_eq_ok_iff.1 same.symm
      exact ⟨cell, inner, rfl, kept⟩
    | _ => cases read

/-- Arguments in cells keep the texts that they were asked for. -/
theorem tell_of_texts {depth start : Nat} {commands : List Command} {texts : List String}
    {world after : World σ}
    (runs : (Eval.texts (Evaluate.run host depth) (Command.sharedFrom start commands)).run.run world =
      some (.ok texts, after)) (there : start + commands.length ≤ world.cells.size) :
    List.Forall₂ after.Tells (Command.sharedFrom start commands) texts := by
  have lasting : World.Lasting (World.Keeps : World σ → World σ → Prop) := World.lasting_keeps
  have closed := closed_lasts lasting
  have calls : Caller.Lasts World.Keeps (Evaluate.run host depth) :=
    Evaluate.run_lasts lasting depth
  induction commands generalizing start texts world with
  | nil =>
    cases runs
    exact .nil
  | cons command rest ih =>
    rcases exists_of_run_bind runs with ⟨_, _, failed⟩ | ⟨text, middle, first, runs⟩
    · cases failed
    · rcases exists_of_run_bind runs with ⟨_, _, failed⟩ | ⟨others, last, second, done⟩
      · cases failed
      · cases done
        rw [List.length_cons] at there
        have told := tells_of_text first (by omega)
        have keeps := closed.text calls _ world _ _ first
        have keepsRest := closed.texts calls _ middle _ _ second
        have room := keeps.size
        exact .cons (told.later keepsRest) (ih second (by omega))

end Eval

/-- Arguments in cells that were evaluated before make no difference to the binding, if the formals
can read their texts. -/
theorem Function.bindFormals_of_tells {f : Function} {kinds : List Kind} {depth cell : Nat}
    {first : List Command} {texts : List String} {world middle : World σ}
    (evaluated : (Eval.texts (Evaluate.run host (depth + 1)) (Command.sharedFrom cell
      first)).run.run world = some (.ok texts, middle))
    (tell : List.Forall₂ middle.Tells (Command.sharedFrom cell first) texts)
    (reads : Formal.Reads f.formals texts) (rest : List Command) :
    (bindFormals (Evaluate.run host (depth + 1)) kinds (Command.sharedFrom cell (first ++ rest))
        f.formals (Command.sharedFrom cell (first ++ rest))).run.run world =
      (bindFormals (Evaluate.run host (depth + 1)) kinds (Command.sharedFrom cell (first ++ rest))
        f.formals (Command.sharedFrom cell (first ++ rest))).run.run middle := by
  rw [Command.sharedFrom_append]
  exact bindFormals_of_replay evaluated (Eval.replay_of_tells tell depth) reads _

end ChatLine
