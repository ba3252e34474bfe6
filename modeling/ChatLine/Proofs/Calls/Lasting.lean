import ChatLine.Proofs.Calls.Cells
import ChatLine.Proofs.Calls.Congruence
import ChatLine.Proofs.Calls.Programs

set_option autoImplicit false

namespace ChatLine

variable {σ α β : Type}

namespace World

/-- Nothing happened to the cells and to the frames. -/
structure Quiet (world after : World σ) : Prop where
  cells : after.cells = world.cells
  frames : after.context.frames = world.context.frames
  runs : ∀ cell, after.timesRun cell = world.timesRun cell

/-- Every change of evaluation respects the relation. -/
structure Lasting (rel : World σ → World σ → Prop) : Prop where
  quiet : ∀ {world after}, world.Quiet after → rel world after
  trans : ∀ {world middle after}, rel world middle → rel middle after → rel world after
  grow : ∀ world count, rel world (world.grow count)
  keep : ∀ {world after} {cell : Nat} (outcome : Outcome), world.kept? cell = none →
    rel (world.record (.evaluated cell world.context.frames)) after →
      rel world (after.keep cell outcome)
  inner : ∀ {world after} (frame : Frame),
    rel { world with context := world.context.push frame } after →
      rel world { after with context := after.context.pop }
  outer : ∀ {world after} {frame : Frame} {rest : Frames}, world.context.frames = frame :: rest →
    rel { world with context := world.context.pop } after →
      rel world { after with context := after.context.push frame }

theorem quiet_refl (world : World σ) : world.Quiet world :=
  ⟨rfl, rfl, fun _ => rfl⟩

theorem Lasting.refl {rel : World σ → World σ → Prop} (lasting : Lasting rel) (world : World σ) :
    rel world world :=
  lasting.quiet world.quiet_refl

theorem quiet_record (world : World σ) {event : Event} (other : ∀ cell, begins cell event = false) :
    world.Quiet (world.record event) := by
  refine ⟨rfl, rfl, ?_⟩
  intro cell
  rw [timesRun_record, other cell, if_neg Bool.false_ne_true, Nat.add_zero]

end World

namespace Eval

variable {rel : World σ → World σ → Prop}

/-- The relation holds between a world and any world that the computation leaves it in. -/
def Lasts (rel : World σ → World σ → Prop) (action : Eval σ α) (world : World σ) : Prop :=
  action.Ensures world fun _ after => rel world after

theorem lasts_of_run {action : Eval σ α} {world after : World σ} {result : Except CommandError α}
    (runs : action.run.run world = some (result, after)) (related : rel world after) :
    action.Lasts rel world := by
  intro other last ends
  rw [runs] at ends
  cases ends
  exact related

theorem Lasts.outcome {action : Eval σ α} {world : World σ} (lasts : action.Lasts rel world) :
    (Eval.outcome action).Lasts rel world := by
  intro result after ends
  rw [run_outcome] at ends
  obtain ⟨made, runs, same⟩ := Option.map_eq_some_iff.1 ends
  cases same
  exact lasts _ _ runs

section Rules

variable (lasting : World.Lasting rel)
include lasting

theorem lasts_pure (value : α) (world : World σ) : (pure value : Eval σ α).Lasts rel world :=
  lasts_of_run (run_pure value world) (lasting.refl world)

theorem lasts_throw (error : CommandError) (world : World σ) :
    (throw error : Eval σ α).Lasts rel world :=
  lasts_of_run (run_throw error world) (lasting.refl world)

theorem lasts_ofExcept (result : Except CommandError α) (world : World σ) :
    (ofExcept result : Eval σ α).Lasts rel world :=
  lasts_of_run (run_ofExcept result world) (lasting.refl world)

theorem Lasts.bind {first : Eval σ α} {next : α → Eval σ β} {world : World σ}
    (lasts : first.Lasts rel world) (rest : ∀ value after, (next value).Lasts rel after) :
    (first >>= next).Lasts rel world := by
  refine ensures_bind.2 ?_
  intro result middle runs
  have before := lasts result middle runs
  cases result with
  | error error => exact before
  | ok value =>
    intro result after ends
    exact lasting.trans before (rest value middle result after ends)

theorem lasts_after {first : Eval σ α} {next : α → Eval σ β} {world after : World σ} {value : α}
    (runs : first.run.run world = some (.ok value, after)) (related : rel world after)
    (rest : (next value).Lasts rel after) : (first >>= next).Lasts rel world := by
  intro result last ends
  rw [run_bind, runs] at ends
  exact lasting.trans related (rest result last ends)

theorem lasts_get {next : World σ → Eval σ β} {world : World σ}
    (rest : (next world).Lasts rel world) : (get >>= next).Lasts rel world :=
  lasts_after lasting (run_get world) (lasting.refl world) rest

theorem Lasts.recorded {action : Eval σ α} {world : World σ} (lasts : action.Lasts rel world) :
    (Eval.recorded action).Lasts rel world := by
  apply lasts.outcome.bind lasting
  intro result after
  cases result with
  | ok value => exact lasts_pure lasting value after
  | error error =>
    apply lasts_get lasting
    apply lasts_after lasting (run_modify _ after)
    · exact lasting.quiet (after.quiet_record fun _ => rfl)
    · exact lasts_throw lasting error _

theorem Lasts.inScope {action : Eval σ α} (lasts : ∀ world, action.Lasts rel world) (scope : Scope)
    (world : World σ) : (Eval.inScope scope action).Lasts rel world := by
  cases scope with
  | inner frame =>
    exact ensures_inner.2 fun result after runs => lasting.inner frame (lasts _ result after runs)
  | outer =>
    cases running : world.context.frames with
    | nil => exact (ensures_outer_nil running).2 (lasts world)
    | cons frame rest =>
      refine (ensures_outer running).2 fun result after runs => ?_
      exact lasting.outer running (lasts _ result after runs)

theorem Lasts.inScopes {action : Eval σ α} (lasts : ∀ world, action.Lasts rel world)
    (scopes : List Scope) (world : World σ) : (Eval.inScopes scopes action).Lasts rel world := by
  induction scopes generalizing world with
  | nil => exact lasts world
  | cons scope rest ih => exact Lasts.inScope lasting ih scope world

theorem lasts_share (commands : List Command) (world : World σ) :
    (share commands).Lasts rel world :=
  lasts_of_run (run_share commands world) (lasting.grow world commands.length)

theorem lasts_set {next : PUnit → Eval σ β} {world after : World σ} (quiet : world.Quiet after)
    (rest : (next ⟨⟩).Lasts rel after) : (set after >>= next).Lasts rel world :=
  lasts_after lasting (run_set world after) (lasting.quiet quiet) rest

theorem lasts_modify {next : PUnit → Eval σ β} {change : World σ → World σ} {world : World σ}
    (quiet : world.Quiet (change world)) (rest : (next ⟨⟩).Lasts rel (change world)) :
    (modify change >>= next).Lasts rel world :=
  lasts_after lasting (run_modify change world) (lasting.quiet quiet) rest

theorem closed_lasts :
    Closed fun {α : Type} (action : Eval σ α) => ∀ world, action.Lasts rel world where
  ofExcept := lasts_ofExcept lasting
  bind := fun lasts rest world => (lasts world).bind lasting rest
  look := fun rest world => lasts_get lasting (rest world world)
  share := lasts_share lasting

end Rules

end Eval

section Step

variable {rel : World σ → World σ → Prop} {host : Host σ} {call : Caller σ} {line : LineCaller σ}

def Caller.Lasts (rel : World σ → World σ → Prop) (call : Caller σ) : Prop :=
  ∀ command arguments kinds world, (call command arguments kinds).Lasts rel world

/-- The relation lasts through every text that runs as a command line. -/
def LineCaller.Lasts (rel : World σ → World σ → Prop) (line : LineCaller σ) : Prop :=
  ∀ text kinds world, (line text kinds).Lasts rel world

variable (lasting : World.Lasting rel) (calls : call.Lasts rel) (lines : line.Lasts rel)
include lasting calls

include lines in
theorem Program.run_lasts (program : Program σ α) (world : World σ) :
    (program.run call line).Lasts rel world := by
  induction program generalizing world with
  | done value => exact Eval.lasts_pure lasting value world
  | call scopes command arguments kinds next ih =>
    have called := Eval.Lasts.inScopes lasting (calls command arguments kinds) scopes world
    exact (called.outcome).bind lasting ih
  | line text kinds next ih =>
    exact ((lines text kinds world).outcome).bind lasting ih
  | look next ih => exact Eval.lasts_get lasting (ih _ _ world)
  | spend tokens next ih =>
    apply Eval.lasts_get lasting
    cases world.context.budget.take? tokens with
    | none => exact ih false world
    | some budget => exact Eval.lasts_modify lasting ⟨rfl, rfl, fun _ => rfl⟩ (ih true _)
  | administrator next ih =>
    exact Eval.lasts_get lasting (Eval.lasts_modify lasting ⟨rfl, rfl, fun _ => rfl⟩ (ih _ _))
  | draw low high next ih =>
    simp only [Program.run]
    apply Eval.lasts_get lasting
    generalize world.generator.draw low high = drawn
    obtain ⟨value, generator⟩ := drawn
    exact Eval.lasts_set lasting ⟨rfl, rfl, fun _ => rfl⟩ (ih value _)
  | addAlias name text next ih =>
    apply Eval.lasts_after lasting (Eval.run_update _ world)
    · exact lasting.quiet ⟨rfl, rfl, fun _ => rfl⟩
    · exact ih _ _
  | removeAlias name next ih =>
    apply Eval.lasts_after lasting (Eval.run_update _ world)
    · exact lasting.quiet ⟨rfl, rfl, fun _ => rfl⟩
    · exact ih _ _
  | change update next ih =>
    exact Eval.lasts_get lasting (Eval.lasts_set lasting ⟨rfl, rfl, fun _ => rfl⟩ (ih _ _))

namespace Evaluate

include lines in
theorem invoke_lasts (f : Function) (bindings : Bindings) (world : World σ) :
    (invoke host call line f bindings).Lasts rel world := by
  apply (Program.run_lasts lasting calls lines _ world).bind lasting
  intro value last
  cases value with
  | ok value => exact Eval.lasts_pure lasting value last
  | error failure => exact Eval.lasts_throw lasting _ last

theorem callStored_lasts (text : String) (body : Command) (arguments : List Command)
    (kinds : List Kind) (world : World σ) :
    (callStored call text body arguments kinds).Lasts rel world := by
  have paid : (payForLine : Eval σ Unit).Lasts rel world := by
    apply Eval.lasts_get lasting
    cases world.context.budget.take? 1 with
    | none => exact Eval.lasts_throw lasting _ world
    | some budget =>
      exact Eval.lasts_of_run (Eval.run_modify _ world)
        (lasting.quiet ⟨rfl, rfl, fun _ => rfl⟩)
  apply paid.bind lasting
  intro _ after
  apply (Eval.lasts_share lasting arguments after).bind lasting
  intro frame opened
  apply Eval.lasts_modify lasting (opened.quiet_record fun _ => rfl)
  exact Eval.Lasts.inScope lasting (calls body [] kinds) (.inner frame) _

/-- What happens while the command in a cell runs comes between the beginning of the run and the
moment when its outcome is kept. -/
theorem settle_lasts (cell : Nat) (inner : Command) (arguments : List Command) (kinds : List Kind)
    (world : World σ) : (settle call cell inner arguments kinds).Lasts rel world := by
  unfold settle
  apply Eval.lasts_get lasting
  cases unsettled : world.kept? cell with
  | some outcome => exact Eval.lasts_pure lasting outcome world
  | none =>
    intro result last ends
    simp only [Eval.record, Eval.run_bind, Eval.run_modify, Eval.run_outcome] at ends
    cases runs : (call inner arguments kinds).run.run
        (world.record (.evaluated cell world.context.frames)) with
    | none =>
      rw [runs] at ends
      cases ends
    | some made =>
      rw [runs] at ends
      cases ends
      exact lasting.keep made.1 unsettled (calls inner arguments kinds _ _ _ runs)

theorem callLazy_lasts (cell : Nat) (inner : Command) (arguments : List Command) (kinds : List Kind)
    (world : World σ) : (callLazy call cell inner arguments kinds).Lasts rel world := by
  apply (settle_lasts lasting calls cell inner arguments kinds world).bind lasting
  intro outcome after
  apply (Eval.lasts_ofExcept lasting outcome after).bind lasting
  intro reply last
  split
  · exact Eval.lasts_pure lasting reply last
  · exact Eval.lasts_get lasting (Eval.lasts_throw lasting _ last)

include lines in
theorem callForeign_lasts (label : String) (index : Nat) (arguments : List Command)
    (kinds : List Kind) (world : World σ) :
    (callForeign host call line label index arguments kinds).Lasts rel world := by
  unfold callForeign
  split
  · apply (Program.run_lasts lasting calls lines _ world).bind lasting
    intro outcome after
    exact Eval.lasts_ofExcept lasting outcome after
  · exact Eval.lasts_throw lasting _ world

include lines in
/-- A relation lasts through a step if it lasts through the calls and the texts that the step runs. -/
theorem step_lasts : (step host call line).Lasts rel := by
  intro command arguments kinds
  have closed := Eval.closed_lasts lasting
  apply closed.step calls
  case codes => exact invoke_lasts lasting calls lines
  case attempts =>
    intro shared functions
    apply closed.callFirst calls
    · exact fun lasts world => (lasts world).outcome
    · exact fun count world =>
        Eval.lasts_of_run (Eval.run_modify _ world) (lasting.quiet ⟨rfl, rfl, fun _ => rfl⟩)
  case stored =>
    exact fun text body _ => callStored_lasts lasting calls text body arguments kinds
  case cells => exact fun cell inner => callLazy_lasts lasting calls cell inner arguments kinds
  case foreign =>
    exact fun label index => callForeign_lasts lasting calls lines label index arguments kinds

theorem callLine_lasts : (callLine call).Lasts rel :=
  (Eval.closed_lasts lasting).callLine calls

omit calls in
/-- What every change of evaluation respects holds between the worlds before and after any call. -/
theorem run_lasts (depth : Nat) : (run host depth).Lasts rel := by
  induction depth with
  | zero =>
    intro command arguments kinds world result after runs
    cases runs
  | succ depth ih =>
    intro command arguments kinds world
    exact (step_lasts lasting ih (callLine_lasts lasting ih) command arguments kinds
      world).recorded lasting

end Evaluate

end Step

theorem World.lasting_frames :
    World.Lasting fun world after : World σ => after.context.frames = world.context.frames where
  quiet := fun same => same.frames
  trans := fun first second => second.trans first
  grow := fun _ _ => rfl
  keep := fun _ _ same => same
  inner := by
    intro world after frame same
    show after.context.frames.tail = world.context.frames
    rw [same]
    rfl
  outer := by
    intro world after frame rest running same
    show frame :: after.context.frames = world.context.frames
    rw [same, running]
    simp only [Context.pop, running, List.tail_cons]

/-- After a call the stored lines that are running have the very arguments that they had before it,
whether the call is answered or fails, and wherever it fails. -/
theorem Evaluate.frames_of_run {host : Host σ} {depth : Nat} {command : Command}
    {arguments : List Command} {kinds : List Kind} {world after : World σ} {outcome : Outcome}
    (runs : (run host depth command arguments kinds).run.run world = some (outcome, after)) :
    after.context.frames = world.context.frames :=
  run_lasts World.lasting_frames depth command arguments kinds world outcome after runs

/-- The tokens are spent between a stored line and one that it calls, while the frames of both are in
place. -/
theorem Evaluate.frames_of_run_exhausted :
    let frames : Frames := [[.literal "x"], []]
    let world := World.start (.empty .standard) { Context.fresh (.tokens 1) none with frames } () 0
    ∃ after, (run Host.none 3 (.stored "!a" (.stored "!b" .orphan)) [.orphan] [.string]).run.run
        world = some (.error .budgetExhausted, after) ∧ after.context.frames = frames := by
  intro frames world
  have ends : ∃ after, (run Host.none 3 (.stored "!a" (.stored "!b" .orphan)) [.orphan]
      [.string]).run.run world = some (.error .budgetExhausted, after) := ⟨_, rfl⟩
  obtain ⟨after, runs⟩ := ends
  exact ⟨after, runs, frames_of_run runs⟩

namespace World

/-- Outcomes that are kept stay, and the commands that had them do not run again. -/
structure Keeps (world after : World σ) : Prop where
  size : world.cells.size ≤ after.cells.size
  kept : ∀ cell outcome, world.kept? cell = some outcome → after.kept? cell = some outcome
  runs : ∀ cell outcome, world.kept? cell = some outcome →
    after.timesRun cell = world.timesRun cell

theorem Keeps.isKept {world after : World σ} (keeps : world.Keeps after) {cell : Nat}
    (kept : world.isKept cell = true) : after.isKept cell = true := by
  obtain ⟨outcome, found⟩ := Option.isSome_iff_exists.1 kept
  exact isKept_of_kept? (keeps.kept cell outcome found)

theorem lasting_keeps : Lasting (Keeps : World σ → World σ → Prop) where
  quiet := by
    intro world after quiet
    have same : after.kept? = world.kept? := by
      funext cell
      simp only [kept?, quiet.cells]
    refine ⟨Nat.le_of_eq (congrArg Array.size quiet.cells).symm, ?_, ?_⟩
    · intro cell outcome found
      rw [same]
      exact found
    · exact fun cell _ _ => quiet.runs cell
  trans := by
    intro world middle after first second
    refine ⟨Nat.le_trans first.size second.size, ?_, ?_⟩
    · exact fun cell outcome found => second.kept cell outcome (first.kept cell outcome found)
    · intro cell outcome found
      rw [second.runs cell outcome (first.kept cell outcome found), first.runs cell outcome found]
  grow := by
    intro world count
    refine ⟨?_, ?_, fun _ _ _ => rfl⟩
    · rw [size_grow]
      exact Nat.le_add_right _ _
    · intro cell outcome found
      rw [kept?_grow]
      exact found
  keep := by
    intro world after cell outcome unsettled keeps
    -- The cell was unsettled, so no outcome that was kept before is its own.
    have other : ∀ {kept settled}, world.kept? kept = some settled → cell ≠ kept := by
      intro kept settled found same
      rw [← same, unsettled] at found
      cases found
    refine ⟨?_, ?_, ?_⟩
    · rw [size_keep]
      exact keeps.size
    · intro kept settled found
      rw [kept?_keep, if_neg fun both => other found both.1]
      exact keeps.kept kept settled found
    · intro kept settled found
      have before := keeps.runs kept settled found
      rw [timesRun_record, begins, beq_false_of_ne (other found), if_neg Bool.false_ne_true,
        Nat.add_zero] at before
      exact before
  inner := fun _ keeps => ⟨keeps.size, keeps.kept, keeps.runs⟩
  outer := fun _ keeps => ⟨keeps.size, keeps.kept, keeps.runs⟩

end World

end ChatLine
