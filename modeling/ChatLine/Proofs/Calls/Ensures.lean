import ChatLine.Evaluate

set_option autoImplicit false

namespace ChatLine.Eval

variable {σ α β : Type}

/-- Whatever the computation results in, and whatever world it leaves, satisfies `post`. -/
def Ensures (action : Eval σ α) (world : World σ)
    (post : Except CommandError α → World σ → Prop) : Prop :=
  ∀ result after, action.run.run world = some (result, after) → post result after

/-- Every value that the computation returns, in whatever world it runs, satisfies `post`. -/
def Returns (action : Eval σ α) (post : α → Prop) : Prop :=
  ∀ world, action.Ensures world fun result _ => ∀ value, result = .ok value → post value

theorem run_bind (first : Eval σ α) (next : α → Eval σ β) (world : World σ) :
    (first >>= next).run.run world =
      match first.run.run world with
      | none => none
      | some (.error error, after) => some (.error error, after)
      | some (.ok value, after) => (next value).run.run after := by
  simp only [bind, ExceptT.bind, ExceptT.run, ExceptT.mk, ExceptT.bindCont, StateT.bind,
    StateT.run, Option.bind]
  rcases first world with _ | ⟨_ | _, _⟩ <;> rfl

/-- What a computation in two parts results in is the failure of the first part, or what the second
part makes of its value. -/
theorem exists_of_run_bind {first : Eval σ α} {next : α → Eval σ β} {world after : World σ}
    {result : Except CommandError β}
    (runs : (first >>= next).run.run world = some (result, after)) :
    (∃ error, first.run.run world = some (.error error, after) ∧ result = .error error) ∨
      ∃ value middle, first.run.run world = some (.ok value, middle) ∧
        (next value).run.run middle = some (result, after) := by
  rw [run_bind] at runs
  cases found : first.run.run world with
  | none =>
    rw [found] at runs
    cases runs
  | some made =>
    rw [found] at runs
    obtain ⟨error | value, middle⟩ := made
    · cases runs
      exact .inl ⟨error, rfl, rfl⟩
    · exact .inr ⟨value, middle, rfl, runs⟩

@[simp] theorem run_pure (value : α) (world : World σ) :
    (pure value : Eval σ α).run.run world = some (.ok value, world) := rfl

@[simp] theorem run_throw (error : CommandError) (world : World σ) :
    (throw error : Eval σ α).run.run world = some (.error error, world) := rfl

@[simp] theorem run_ofExcept (result : Except CommandError α) (world : World σ) :
    (ofExcept result : Eval σ α).run.run world = some (result, world) := rfl

@[simp] theorem run_get (world : World σ) :
    (get : Eval σ (World σ)).run.run world = some (.ok world, world) := rfl

@[simp] theorem run_set (world other : World σ) :
    (set other : Eval σ PUnit).run.run world = some (.ok ⟨⟩, other) := rfl

@[simp] theorem run_modify (change : World σ → World σ) (world : World σ) :
    (modify change : Eval σ PUnit).run.run world = some (.ok ⟨⟩, change world) := rfl

theorem run_outcome (action : Eval σ α) (world : World σ) :
    (outcome action).run.run world =
      (action.run.run world).map fun result => (.ok result.1, result.2) := by
  simp only [outcome, ExceptT.run, ExceptT.mk, StateT.run, Functor.map, StateT.map]
  rcases action world with _ | ⟨_, _⟩ <;> rfl

theorem run_recorded (action : Eval σ α) (world : World σ) :
    (recorded action).run.run world =
      (action.run.run world).map fun made =>
        (made.1, match made.1 with
          | .ok _ => made.2
          | .error error => made.2.record (.failed error made.2.attempts)) := by
  simp only [recorded, run_bind, run_outcome]
  rcases action.run.run world with _ | ⟨_ | _, _⟩ <;> rfl

theorem run_recorded_congr {first second : Eval σ α} {world : World σ}
    (same : first.run.run world = second.run.run world) :
    (recorded first).run.run world = (recorded second).run.run world := by
  rw [run_recorded, run_recorded, same]

theorem run_update (change : Update α) (world : World σ) :
    (update change).run.run world =
      some (.ok (change.run.run world.bot).1,
        { world with bot := (change.run.run world.bot).2 }) := rfl

theorem run_inner (frame : Frame) (action : Eval σ α) (world : World σ) :
    (inScope (.inner frame) action).run.run world =
      (action.run.run { world with context := world.context.push frame }).map fun made =>
        (made.1, { made.2 with context := made.2.context.pop }) := by
  simp only [inScope, changeContext, run_bind, run_modify, run_outcome]
  rcases action.run.run _ with _ | ⟨_ | _, _⟩ <;> rfl

theorem run_outer {frame : Frame} {rest : Frames} (action : Eval σ α) {world : World σ}
    (running : world.context.frames = frame :: rest) :
    (inScope .outer action).run.run world =
      (action.run.run { world with context := world.context.pop }).map fun made =>
        (made.1, { made.2 with context := made.2.context.push frame }) := by
  simp only [inScope, changeContext, run_bind, run_get, running, run_modify, run_outcome]
  rcases action.run.run _ with _ | ⟨_ | _, _⟩ <;> rfl

/-- Where no stored line runs, there are no frames around those that there are. -/
theorem run_outer_nil (action : Eval σ α) {world : World σ} (running : world.context.frames = []) :
    (inScope .outer action).run.run world = action.run.run world := by
  simp only [inScope, run_bind, run_get, running]

theorem ensures_bind {first : Eval σ α} {next : α → Eval σ β} {world : World σ}
    {post : Except CommandError β → World σ → Prop} :
    (first >>= next).Ensures world post ↔
      first.Ensures world fun result after =>
        match result with
        | .ok value => (next value).Ensures after post
        | .error error => post (.error error) after := by
  simp only [Ensures, run_bind]
  rcases first.run.run world with _ | ⟨_ | _, _⟩ <;> simp

theorem ensures_inner {frame : Frame} {action : Eval σ α} {world : World σ}
    {post : Except CommandError α → World σ → Prop} :
    (inScope (.inner frame) action).Ensures world post ↔
      action.Ensures { world with context := world.context.push frame } fun result after =>
        post result { after with context := after.context.pop } := by
  simp only [Ensures, run_inner]
  rcases action.run.run _ with _ | ⟨_, _⟩ <;> simp

theorem ensures_outer {frame : Frame} {rest : Frames} {action : Eval σ α} {world : World σ}
    {post : Except CommandError α → World σ → Prop}
    (running : world.context.frames = frame :: rest) :
    (inScope .outer action).Ensures world post ↔
      action.Ensures { world with context := world.context.pop } fun result after =>
        post result { after with context := after.context.push frame } := by
  simp only [Ensures, run_outer action running]
  rcases action.run.run _ with _ | ⟨_, _⟩ <;> simp

theorem ensures_outer_nil {action : Eval σ α} {world : World σ}
    {post : Except CommandError α → World σ → Prop} (running : world.context.frames = []) :
    (inScope .outer action).Ensures world post ↔ action.Ensures world post := by
  simp only [Ensures, run_outer_nil action running]

theorem returns_pure {value : α} {post : α → Prop} (holds : post value) :
    (pure value : Eval σ α).Returns post := by
  intro world result after runs other same
  cases runs
  cases same
  exact holds

theorem returns_throw {error : CommandError} {post : α → Prop} :
    (throw error : Eval σ α).Returns post := by
  intro world result after runs value same
  cases runs
  cases same

theorem returns_ofExcept {result : Except CommandError α} {post : α → Prop}
    (holds : ∀ value, result = .ok value → post value) :
    (ofExcept result : Eval σ α).Returns post := by
  intro world other after runs value same
  cases runs
  exact holds value same

/-- What is returned at the end may rest on what was returned before. -/
theorem Returns.bind {first : Eval σ α} {next : α → Eval σ β} {middle : α → Prop} {post : β → Prop}
    (returns : first.Returns middle) (rest : ∀ value, middle value → (next value).Returns post) :
    (first >>= next).Returns post := by
  intro world
  rw [ensures_bind]
  intro result after runs
  cases result with
  | ok value => exact rest value (returns world _ after runs value rfl) after
  | error error => exact fun value same => nomatch same

/-- The last part of a computation decides what it returns. -/
theorem returns_bind {first : Eval σ α} {next : α → Eval σ β} {post : β → Prop}
    (rest : ∀ value, (next value).Returns post) : (first >>= next).Returns post := by
  have anything : first.Returns fun _ => True := fun _ _ _ _ _ _ => trivial
  exact anything.bind fun value _ => rest value

theorem Returns.outcome {action : Eval σ α} {post : α → Prop} (returns : action.Returns post) :
    (outcome action).Returns fun result => ∀ value, result = .ok value → post value := by
  intro world result after runs final same value finalOk
  rw [run_outcome] at runs
  cases found : action.run.run world with
  | none => simp [found] at runs
  | some pair =>
    simp only [found, Option.map_some, Option.some.injEq, Prod.mk.injEq] at runs
    obtain ⟨rfl, rfl⟩ := runs
    cases same
    exact returns world _ _ found value finalOk

theorem Returns.recorded {action : Eval σ α} {post : α → Prop} (returns : action.Returns post) :
    (recorded action).Returns post := by
  refine Returns.bind returns.outcome ?_
  intro result holds
  cases result with
  | ok value => exact returns_pure (holds value rfl)
  | error error => exact returns_bind fun _ => returns_bind fun _ => returns_throw

theorem Returns.inScope {action : Eval σ α} {post : α → Prop} (returns : action.Returns post)
    (scope : Scope) : (inScope scope action).Returns post := by
  cases scope with
  | inner frame =>
    refine returns_bind fun _ => Returns.bind returns.outcome ?_
    intro result holds
    exact returns_bind fun _ => returns_ofExcept holds
  | outer =>
    apply returns_bind
    intro world
    cases world.context.frames with
    | nil => exact returns
    | cons frame rest =>
      refine returns_bind fun _ => Returns.bind returns.outcome ?_
      intro result holds
      exact returns_bind fun _ => returns_ofExcept holds

theorem Returns.inScopes {action : Eval σ α} {post : α → Prop} (returns : action.Returns post)
    (scopes : List Scope) : (inScopes scopes action).Returns post := by
  induction scopes with
  | nil => exact returns
  | cons scope rest ih => exact ih.inScope scope

/-- Two continuations that agree on all values that can be returned make one computation. -/
theorem Returns.bind_congr {first : Eval σ α} {next other : α → Eval σ β} {post : α → Prop}
    (returns : first.Returns post) (same : ∀ value, post value → next value = other value) :
    first >>= next = first >>= other := by
  apply ExceptT.ext
  apply StateT.ext
  intro world
  rw [run_bind, run_bind]
  cases found : first.run.run world with
  | none => rfl
  | some pair =>
    obtain ⟨_ | value, after⟩ := pair
    · rfl
    · simp only [same value (returns world _ after found value rfl)]

end ChatLine.Eval
