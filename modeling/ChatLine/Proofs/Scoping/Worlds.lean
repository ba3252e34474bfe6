import ChatLine.Proofs.Scoping.Homes
import ChatLine.Proofs.Scoping.Local
import ChatLine.Proofs.Sharing.Safe

set_option autoImplicit false

namespace ChatLine

variable {σ α β : Type}

open Command

namespace World

/-- Every cell that was made since a moment ran at home, and each of the frames belongs to those around
it. What is kept, what stands in the tree and what the application remembers waits for nothing. -/
structure AtHome (memory : σ → List Command) (since : Nat) (ledger : Ledger) (world : World σ) :
    Prop where
  begun : since ≤ world.cells.size
  made : ledger.made = world.cells.size
  kept : ledger.kept = world.isKept
  frames : world.context.frames.Fit ledger since
  replies : ∀ cell reply, world.kept? cell = some (.ok reply) → reply.Idle ledger.kept since
  tree : world.bot.groups.Only (Command.Idle ledger.kept since)
  remembers : Remembers memory ledger.kept since world.application
  ran : ∀ cell frames, .evaluated cell frames ∈ world.journal → since ≤ cell →
    cell < ledger.made ∧ ledger.home cell = frames

variable {memory : σ → List Command} {since : Nat} {ledger : Ledger} {world after : World σ}

/-- Where the cells are the same and no other cell ran, every cell is as it was. -/
theorem AtHome.of_same (atHome : world.AtHome memory since ledger)
    (cells : after.cells = world.cells) (frames : after.context.frames.Fit ledger since)
    (tree : after.bot.groups.Only (Command.Idle ledger.kept since))
    (remembers : Remembers memory ledger.kept since after.application)
    (ran : ∀ cell frames, .evaluated cell frames ∈ after.journal →
      .evaluated cell frames ∈ world.journal) : after.AtHome memory since ledger where
  begun := by rw [cells]; exact atHome.begun
  made := by rw [atHome.made, cells]
  kept := by rw [atHome.kept, isKept_of_cells cells]
  frames := frames
  replies := by
    have same : after.kept? = world.kept? := by
      funext cell
      simp only [kept?, cells]
    rw [same]
    exact atHome.replies
  tree := tree
  remembers := remembers
  ran := fun cell frames inside => atHome.ran cell frames (ran cell frames inside)

theorem AtHome.withContext (atHome : world.AtHome memory since ledger) {context : Context}
    (frames : context.frames.Fit ledger since) :
    ({ world with context := context } : World σ).AtHome memory since ledger :=
  atHome.of_same rfl frames atHome.tree atHome.remembers fun _ _ inside => inside

theorem AtHome.withBot (atHome : world.AtHome memory since ledger) {bot : Bot}
    (tree : bot.groups.Only (Command.Idle ledger.kept since)) :
    ({ world with bot := bot } : World σ).AtHome memory since ledger :=
  atHome.of_same rfl atHome.frames tree atHome.remembers fun _ _ inside => inside

theorem AtHome.record (atHome : world.AtHome memory since ledger) {event : Event}
    (other : ∀ cell frames, event ≠ .evaluated cell frames) :
    (world.record event).AtHome memory since ledger := by
  refine atHome.of_same rfl atHome.frames atHome.tree atHome.remembers ?_
  intro cell frames inside
  rcases List.mem_cons.1 inside with same | before
  · exact absurd same.symm (other cell frames)
  · exact before

/-- The command in a cell begins to run at home. -/
theorem AtHome.begin (atHome : world.AtHome memory since ledger) {cell : Nat}
    (home : since ≤ cell → cell < ledger.made ∧ ledger.home cell = world.context.frames) :
    (world.record (.evaluated cell world.context.frames)).AtHome memory since ledger := by
  refine { atHome with ran := ?_ }
  intro other frames inside
  rcases List.mem_cons.1 inside with same | before
  · cases same
    exact home
  · exact atHome.ran other frames before

theorem AtHome.grow (atHome : world.AtHome memory since ledger) (count : Nat) :
    (world.grow count).AtHome memory since (ledger.grow count world.context.frames) := by
  have le := ledger.le_grow count world.context.frames
  refine ⟨?_, ?_, ?_, atHome.frames.mono le, ?_, atHome.tree, atHome.remembers, ?_⟩
  · rw [size_grow]
    exact Nat.le_add_right_of_le atHome.begun
  · rw [size_grow, ← atHome.made]
    rfl
  · rw [isKept_grow, ← atHome.kept]
    rfl
  · rw [kept?_grow]
    exact atHome.replies
  · intro cell frames inside young
    obtain ⟨there, same⟩ := atHome.ran cell frames inside young
    exact ⟨Nat.lt_of_lt_of_le there le.made, (le.home cell there).trans same⟩

/-- The outcome of a run is kept. -/
theorem AtHome.keep (atHome : world.AtHome memory since ledger) (cell : Nat) {outcome : Outcome}
    (idle : ∀ reply, outcome = .ok reply → reply.Idle ledger.kept since) :
    (world.keep cell outcome).AtHome memory since
      (ledger.keeping (world.keep cell outcome).isKept) := by
  have stays : ∀ other, ledger.kept other = true → (world.keep cell outcome).isKept other = true := by
    intro other kept
    rw [atHome.kept] at kept
    exact isKept_keep world cell other outcome kept
  have le := Ledger.le_keeping stays
  refine ⟨?_, ?_, rfl, atHome.frames.mono le, ?_, ?_, ?_, ?_⟩
  · rw [size_keep]
    exact atHome.begun
  · rw [size_keep]
    exact atHome.made
  · intro other reply found
    rw [kept?_keep] at found
    split at found
    · cases found
      exact (idle reply rfl).mono stays
    · exact (atHome.replies other reply found).mono stays
  · exact atHome.tree.mono fun command idle => idle.mono stays
  · exact fun command inside => (atHome.remembers command inside).mono stays
  · exact atHome.ran

end World

namespace Eval

section Rules

variable {memory : σ → List Command} {since : Nat} {ledger : Ledger} {world after : World σ}

/-- The computation leads from a world in which every cell runs at home to another one with the same
frames; its result satisfies `post` of what is kept then. Under watch, with the homes that are known in
the end, it goes the same way. -/
def Lexical (memory : σ → List Command) (since : Nat) (ledger : Ledger) (action : Eval σ α)
    (watched : (Nat → Frames) → Eval σ α) (world : World σ)
    (post : Except CommandError α → (Nat → Bool) → Prop) : Prop :=
  action.Ensures world fun result after => ∃ later, ledger.Le later ∧
    after.AtHome memory since later ∧ after.context.frames = world.context.frames ∧
      post result later.kept ∧
        ∀ home, later.Agrees home → (watched home).run.run world = some (result, after)

theorem lexical_of_run {action : Eval σ α} {result : Except CommandError α}
    {post : Except CommandError α → (Nat → Bool) → Prop} {later : Ledger}
    (runs : action.run.run world = some (result, after)) (le : ledger.Le later)
    (atHome : after.AtHome memory since later)
    (frames : after.context.frames = world.context.frames) (holds : post result later.kept) :
    Lexical memory since ledger action (fun _ => action) world post := by
  intro other last ends
  rw [runs] at ends
  cases ends
  exact ⟨later, le, atHome, frames, holds, fun _ _ => runs⟩

theorem lexical_pure {value : α} {post : α → (Nat → Bool) → Prop}
    (atHome : world.AtHome memory since ledger) (holds : post value ledger.kept) :
    Lexical memory since ledger (pure value) (fun _ => pure value) world (OnValue post) :=
  lexical_of_run (run_pure value world) (.refl ledger) atHome rfl (onValue_ok holds)

theorem lexical_throw {error : CommandError} {post : α → (Nat → Bool) → Prop}
    (atHome : world.AtHome memory since ledger) :
    Lexical memory since ledger (throw error) (fun _ => throw error) world (OnValue post) :=
  lexical_of_run (run_throw error world) (.refl ledger) atHome rfl (onValue_error error _)

theorem lexical_ofExcept {result : Except CommandError α} {post : α → (Nat → Bool) → Prop}
    (atHome : world.AtHome memory since ledger)
    (holds : ∀ value, result = .ok value → post value ledger.kept) :
    Lexical memory since ledger (ofExcept result) (fun _ => ofExcept result) world (OnValue post) :=
  lexical_of_run (run_ofExcept result world) (.refl ledger) atHome rfl holds

variable {action : Eval σ α} {watched : (Nat → Frames) → Eval σ α}

theorem Lexical.weaken {strong weak : Except CommandError α → (Nat → Bool) → Prop}
    (lexical : Lexical memory since ledger action watched world strong)
    (implies : ∀ result kept, strong result kept → weak result kept) :
    Lexical memory since ledger action watched world weak := by
  intro result after runs
  obtain ⟨later, le, atHome, frames, holds, watches⟩ := lexical result after runs
  exact ⟨later, le, atHome, frames, implies _ _ holds, watches⟩

theorem Lexical.bind {next : α → Eval σ β} {watchedNext : (Nat → Frames) → α → Eval σ β}
    {middle : α → (Nat → Bool) → Prop} {post : β → (Nat → Bool) → Prop}
    (lexical : Lexical memory since ledger action watched world (OnValue middle))
    (rest : ∀ value later after, ledger.Le later → after.AtHome memory since later →
      after.context.frames = world.context.frames → middle value later.kept →
        Lexical memory since later (next value) (fun home => watchedNext home value) after
          (OnValue post)) :
    Lexical memory since ledger (action >>= next) (fun home => watched home >>= watchedNext home)
      world (OnValue post) := by
  refine ensures_bind.2 ?_
  intro result after runs
  obtain ⟨later, le, atHome, frames, holds, watches⟩ := lexical result after runs
  cases result with
  | error error =>
    refine ⟨later, le, atHome, frames, onValue_error error _, fun home agrees => ?_⟩
    rw [run_bind, watches home agrees]
  | ok value =>
    intro result last ends
    obtain ⟨lastly, more, lastHome, lastFrames, ended, watchesRest⟩ :=
      rest value later after le atHome frames (holds value rfl) result last ends
    refine ⟨lastly, le.trans more, lastHome, lastFrames.trans frames, ended, fun home agrees => ?_⟩
    rw [run_bind, watches home (agrees.before more)]
    exact watchesRest home agrees

/-- A part that is not watched and of which the run is known can be taken off the front. -/
theorem lexical_after {next : α → Eval σ β} {watchedNext : (Nat → Frames) → α → Eval σ β} {value : α}
    {later : Ledger} {post : Except CommandError β → (Nat → Bool) → Prop}
    (runs : action.run.run world = some (.ok value, after)) (le : ledger.Le later)
    (frames : after.context.frames = world.context.frames)
    (rest : Lexical memory since later (next value) (fun home => watchedNext home value) after post) :
    Lexical memory since ledger (action >>= next) (fun home => action >>= watchedNext home) world
      post := by
  intro result last ends
  rw [run_bind, runs] at ends
  obtain ⟨lastly, more, lastHome, lastFrames, ended, watchesRest⟩ := rest result last ends
  refine ⟨lastly, le.trans more, lastHome, lastFrames.trans frames, ended, fun home agrees => ?_⟩
  rw [run_bind, runs]
  exact watchesRest home agrees

theorem Lexical.outcome {post : Except CommandError α → (Nat → Bool) → Prop}
    (lexical : Lexical memory since ledger action watched world post) :
    Lexical memory since ledger (Eval.outcome action) (fun home => Eval.outcome (watched home)) world
      (OnValue post) := by
  intro result after ends
  rw [run_outcome] at ends
  obtain ⟨made, runs, same⟩ := Option.map_eq_some_iff.1 ends
  cases same
  obtain ⟨later, le, atHome, frames, holds, watches⟩ := lexical _ _ runs
  refine ⟨later, le, atHome, frames, onValue_ok holds, fun home agrees => ?_⟩
  rw [run_outcome, watches home agrees]
  rfl

theorem Lexical.recorded {post : Except CommandError α → (Nat → Bool) → Prop}
    (lexical : Lexical memory since ledger action watched world post) :
    Lexical memory since ledger (Eval.recorded action) (fun home => Eval.recorded (watched home)) world
      post := by
  intro result after ends
  have same (home : Nat → Frames) (made : Except CommandError α × World σ)
      (runs : action.run.run world = some made) (watches : (watched home).run.run world = some made) :
      (Eval.recorded (watched home)).run.run world = some (result, after) := by
    rw [← ends]
    exact run_recorded_congr (watches.trans runs.symm)
  rw [run_recorded] at ends
  obtain ⟨⟨made, last⟩, runs, eq⟩ := Option.map_eq_some_iff.1 ends
  obtain ⟨later, le, atHome, frames, holds, watches⟩ := lexical made last runs
  have watched (home : Nat → Frames) (agrees : later.Agrees home) :=
    same home (made, last) runs (watches home agrees)
  cases made with
  | ok value =>
    cases eq
    exact ⟨later, le, atHome, frames, holds, watched⟩
  | error error =>
    cases eq
    exact ⟨later, le, atHome.record (fun _ _ => Event.noConfusion), frames, holds, watched⟩

/-- What is lexical inside one more frame is lexical, because the frame is taken away again. -/
theorem Lexical.inner {post : Except CommandError α → (Nat → Bool) → Prop} {frame : Frame}
    (lexical : Lexical memory since ledger action watched
      { world with context := world.context.push frame } post) :
    Lexical memory since ledger (Eval.inScope (.inner frame) action)
      (fun home => Eval.inScope (.inner frame) (watched home)) world post := by
  refine ensures_inner.2 fun result after runs => ?_
  obtain ⟨later, le, atHome, frames, holds, watches⟩ := lexical result after runs
  refine ⟨later, le, atHome.withContext atHome.frames.tail, ?_, holds, fun home agrees => ?_⟩
  · exact congrArg List.tail frames
  · rw [run_inner, watches home agrees]
    rfl

/-- What is lexical without the innermost frame is lexical, because the frame is put back. -/
theorem Lexical.outer {post : Except CommandError α → (Nat → Bool) → Prop}
    (fit : world.context.frames.Fit ledger since)
    (lexical : Lexical memory since ledger action watched
      { world with context := world.context.pop } post) :
    Lexical memory since ledger (Eval.inScope .outer action)
      (fun home => Eval.inScope .outer (watched home)) world post := by
  cases running : world.context.frames with
  | nil =>
    have popped : world.context.pop = world.context := by
      rw [Context.pop, running, List.tail_nil, ← running]
    rw [popped] at lexical
    refine (ensures_outer_nil running).2 fun result after runs => ?_
    simp only [run_outer_nil _ running]
    exact lexical result after runs
  | cons frame others =>
    rw [running] at fit
    refine (ensures_outer running).2 fun result after runs => ?_
    obtain ⟨later, le, atHome, frames, holds, watches⟩ := lexical result after runs
    have back : after.context.frames = others := by
      rw [frames, Context.pop, running, List.tail_cons]
    have pushed : frame :: after.context.frames = world.context.frames := by
      rw [back, running]
    refine ⟨later, le, atHome.withContext ⟨?_, atHome.frames⟩, pushed, holds, fun home agrees => ?_⟩
    · rw [back]
      exact fit.1.mono le
    · rw [run_outer _ running, watches home agrees]
      rfl

end Rules

end Eval

end ChatLine
