import ChatLine.Proofs.Calls.Cells
import ChatLine.Proofs.Termination.Approximation

set_option autoImplicit false

namespace ChatLine

variable {σ α : Type}

namespace Eval

open Classical in
/-- A computation that has no result in other worlds than these. -/
noncomputable def provided (holds : World σ → Prop) (action : Eval σ α) : Eval σ α := do
  if holds (← get) then action else tooDeep

theorem run_provided {holds : World σ → Prop} (action : Eval σ α) {world : World σ}
    (held : holds world) : (provided holds action).run.run world = action.run.run world := by
  rw [provided, run_bind, run_get]
  dsimp only
  rw [if_pos held]

theorem of_run_provided {holds : World σ → Prop} {action : Eval σ α} {world : World σ}
    {result : Except CommandError α × World σ}
    (runs : (provided holds action).run.run world = some result) :
    holds world ∧ action.run.run world = some result := by
  rw [provided, run_bind, run_get] at runs
  dsimp only at runs
  split at runs
  · exact ⟨‹holds world›, runs⟩
  · cases runs

end Eval

namespace World

/-- The world in which the body of a stored line begins: a token has been taken, the arguments are in
new cells, and these are in the innermost frame. -/
def enter (world : World σ) (budget : Budget) (text : String) (arguments : List Command) : World σ :=
  let opened := (world.grow arguments.length).record (.entered text)
  { opened with context := { world.context with
      frames := Command.sharedFrom world.cells.size arguments :: world.context.frames
      budget := budget } }

/-- A stored line that is called, and paid for, puts its arguments in new cells that are to run inside
the frames around the call. -/
def CallsAtHome (home : Nat → Frames) (since : Nat) (world : World σ) :
    Command → List Command → Prop
  | .stored _ _, arguments => since ≤ world.cells.size ∧
    ∀ budget, world.context.budget.take? 1 = some budget →
      ∀ position < arguments.length, home (world.cells.size + position) = world.context.frames
  | _, _ => True

/-- The arguments of the line that runs are to run inside the frames around it. -/
def Framed (home : Nat → Frames) (since : Nat) (world : World σ) : Prop :=
  since ≤ world.cells.size ∧ ∀ frame caller, world.context.frames = frame :: caller →
    ∀ cell inner, .lazy cell inner ∈ frame → since ≤ cell → home cell = caller

end World

namespace Evaluate

variable {host : Host σ} {world : World σ} {call : Caller σ} {text : String} {body : Command}
  {arguments : List Command} {kinds : List Kind}

/-- The body of a stored line runs in the world in which it begins, and the frame is taken away
again. -/
theorem run_callStored {budget : Budget} (paid : world.context.budget.take? 1 = some budget) :
    (callStored call text body arguments kinds).run.run world =
      ((call body [] kinds).run.run (world.enter budget text arguments)).map fun made =>
        (made.1, { made.2 with context := made.2.context.pop }) := by
  have pays : (payForLine : Eval σ Unit).run.run world = some (.ok (),
      { world with context := { world.context with budget := budget } }) := by
    rw [payForLine, Eval.run_bind, Eval.run_get]
    dsimp only
    rw [paid]
    rfl
  rw [callStored, Eval.run_bind, pays]
  dsimp only
  rw [Eval.run_bind, Eval.run_share]
  dsimp only
  rw [Eval.run_bind, Eval.record, Eval.run_modify]
  exact Eval.run_inner _ _ _

/-- Calls commands like `run`, as long as every call that is made is as it should be. -/
noncomputable def runWhere (check : World σ → Command → List Command → Prop) (host : Host σ) :
    Nat → Caller σ
  | 0, _, _, _ => Eval.tooDeep
  | depth + 1, command, arguments, kinds =>
    let call := runWhere check host depth
    Eval.provided (fun world => check world command arguments)
      (Eval.recorded (step host call (callLine call) command arguments kinds))

/-- Where one watch lets a run pass only if another does, it has the same results under the other. -/
theorem runWhere_approximates {strict lenient : World σ → Command → List Command → Prop}
    (passes : ∀ depth command arguments kinds world result,
      (runWhere strict host depth command arguments kinds).run.run world = some result →
        lenient world command arguments) (depth : Nat) :
    (runWhere strict host depth).Approximates (runWhere lenient host depth) := by
  induction depth with
  | zero => exact fun _ _ _ => Eval.approximates_tooDeep _
  | succ depth ih =>
    intro command arguments kinds world result runs
    have checked := passes (depth + 1) command arguments kinds world result runs
    rw [runWhere, Eval.run_provided _ checked]
    exact (step_approximates ih (callLine_approximates ih) command arguments kinds).recorded world
      result (Eval.of_run_provided runs).2

/-- If the arguments of every line that runs are at home around it, then those of every line that is
called are at home where it is called, because its body runs. -/
theorem callsAtHome_of_framed {home : Nat → Frames} {since depth : Nat} {command : Command}
    {result : Outcome × World σ}
    (runs : (runWhere (fun world _ _ => world.Framed home since) host depth command arguments
      kinds).run.run world = some result) : world.CallsAtHome home since command arguments := by
  cases depth with
  | zero => cases runs
  | succ depth =>
    cases command with
    | stored text body =>
      obtain ⟨⟨begun, _⟩, recorded⟩ := Eval.of_run_provided runs
      refine ⟨begun, fun budget paid position before => ?_⟩
      rw [Eval.run_recorded] at recorded
      obtain ⟨made, stepped, _⟩ := Option.map_eq_some_iff.1 recorded
      rw [step, run_callStored paid] at stepped
      obtain ⟨inside, ran, _⟩ := Option.map_eq_some_iff.1 stepped
      cases depth with
      | zero => cases ran
      | succ depth =>
        obtain ⟨⟨_, framed⟩, _⟩ := Eval.of_run_provided ran
        have inside : .lazy (world.cells.size + position) arguments[position] ∈
            Command.sharedFrom world.cells.size arguments :=
          List.mem_of_getElem? (Command.getElem?_sharedFrom (List.getElem?_eq_getElem before))
        exact framed _ _ rfl _ _ inside (Nat.le_add_right_of_le begun)
    | _ => trivial

/-- What goes well as long as the arguments of every line that runs are at home, goes well as long as
those of every line that is called are. -/
theorem framed_approximates_callsAtHome (home : Nat → Frames) (since depth : Nat) :
    (runWhere (fun world _ _ => world.Framed home since) host depth).Approximates
      (runWhere (World.CallsAtHome home since) host depth) :=
  runWhere_approximates (fun _ _ _ _ _ _ => callsAtHome_of_framed) depth

end Evaluate

end ChatLine
