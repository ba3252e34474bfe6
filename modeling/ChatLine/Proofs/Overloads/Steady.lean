import ChatLine.Proofs.Calls.Cells

set_option autoImplicit false

namespace ChatLine

variable {σ α β γ δ : Type}

/-- What is noted of a computation: its value, or whether it fails because the budget is exhausted;
nothing if it never ends. -/
abbrev Said (α : Type) := ExceptT Bool Option α

/-- What is noted of a result. -/
def note (view : α → β) : Except CommandError α → Except Bool β
  | .ok value => .ok (view value)
  | .error error => .error (error = .budgetExhausted)

namespace Said

def ofExcept (result : Except CommandError α) : Said α :=
  ExceptT.mk (some (note id result))

theorem run_bind (first : Said α) (next : α → Said β) :
    (first >>= next).run =
      match first.run with
      | none => none
      | some (.error exhausted) => some (.error exhausted)
      | some (.ok value) => (next value).run := by
  rcases first with _ | _ | _ <;> rfl

end Said

namespace World

/-- A world with what another one has, but for the cells from `since` on, the journal and the attempts
that are under way. -/
structure Beside (since : Nat) (world other : World σ) : Prop where
  bot : other.bot = world.bot
  context : other.context = world.context
  generator : other.generator = world.generator
  application : other.application = world.application
  room : since ≤ other.cells.size
  cells : ∀ cell, cell < since → other.cells[cell]? = world.cells[cell]?

/-- A family of worlds, to which it makes no difference what is in the cells from `since` on, what
happened, and what is under way. -/
structure Family (since : Nat) (among : World σ → Prop) : Prop where
  room : ∀ {world}, among world → since ≤ world.cells.size
  beside : ∀ {world other}, among world → world.Beside since other → among other

/-- Every cell from `since` on that there was is left as it was. -/
def Spares (since : Nat) (world after : World σ) : Prop :=
  ∀ cell slot, since ≤ cell → world.cells[cell]? = some slot → after.cells[cell]? = some slot

variable {since : Nat} {world middle after other : World σ}

theorem Beside.of_cells (room : since ≤ world.cells.size) (bot : other.bot = world.bot)
    (context : other.context = world.context) (generator : other.generator = world.generator)
    (application : other.application = world.application) (cells : other.cells = world.cells) :
    world.Beside since other :=
  ⟨bot, context, generator, application, by rwa [cells], fun _ _ => by rw [cells]⟩

theorem Beside.trans (first : world.Beside since middle) (second : middle.Beside since after) :
    world.Beside since after := by
  refine ⟨second.bot.trans first.bot, second.context.trans first.context,
    second.generator.trans first.generator, second.application.trans first.application,
    second.room, fun cell before => ?_⟩
  rw [second.cells cell before, first.cells cell before]

/-- The worlds with what one world has are a family, and the smallest with that world in it. -/
theorem family_beside (since : Nat) (world : World σ) : Family since (world.Beside since) :=
  ⟨fun beside => beside.room, fun first second => first.trans second⟩

theorem beside_record (room : since ≤ world.cells.size) (event : Event) :
    world.Beside since (world.record event) :=
  .of_cells room rfl rfl rfl rfl rfl

theorem beside_attempts (room : since ≤ world.cells.size) (attempts : Nat) :
    world.Beside since { world with attempts := attempts } :=
  .of_cells room rfl rfl rfl rfl rfl

theorem beside_grow (room : since ≤ world.cells.size) (count : Nat) :
    world.Beside since (world.grow count) := by
  refine ⟨rfl, rfl, rfl, rfl, ?_, ?_⟩
  · rw [size_grow]
    omega
  · intro cell before
    rw [grow, Array.getElem?_append, if_pos (by omega)]

theorem beside_keep (room : since ≤ world.cells.size) {cell : Nat} (beyond : since ≤ cell)
    (outcome : Outcome) : world.Beside since (world.keep cell outcome) := by
  refine ⟨rfl, rfl, rfl, rfl, ?_, ?_⟩
  · rwa [size_keep]
  · intro other before
    rw [keep, Array.getElem?_setIfInBounds, if_neg (by omega)]

theorem spares_of_cells (cells : after.cells = world.cells) : world.Spares since after := by
  intro cell slot _ found
  rwa [cells]

theorem Spares.trans (first : world.Spares since middle) (second : middle.Spares since after) :
    world.Spares since after :=
  fun cell slot beyond found => second cell slot beyond (first cell slot beyond found)

theorem Spares.mono {later : Nat} (spares : world.Spares since after) (le : since ≤ later) :
    world.Spares later after :=
  fun cell slot beyond found => spares cell slot (Nat.le_trans le beyond) found

theorem spares_grow (since : Nat) (world : World σ) (count : Nat) :
    world.Spares since (world.grow count) := by
  intro cell slot _ found
  obtain ⟨inside, -⟩ := Array.getElem?_eq_some_iff.1 found
  rw [grow, Array.getElem?_append, if_pos inside, found]

theorem Spares.kept?_eq (spares : world.Spares since after) {cell : Nat} (beyond : since ≤ cell)
    (inside : cell < world.cells.size) : after.kept? cell = world.kept? cell := by
  have found : world.cells[cell]? = some world.cells[cell] := Array.getElem?_eq_getElem inside
  simp only [kept?, found, spares cell _ beyond found]

theorem Spares.size_le (spares : world.Spares since after) (room : since ≤ after.cells.size) :
    world.cells.size ≤ after.cells.size := by
  refine Nat.le_of_not_lt fun inside => ?_
  obtain ⟨there, -⟩ := Array.getElem?_eq_some_iff.1
    (spares _ _ room (Array.getElem?_eq_getElem inside))
  exact Nat.lt_irrefl _ there

end World

namespace Eval

/-- What a computation comes to in a world when it may go deep enough: a result and the world it
leaves, or nothing if it never ends. -/
def Comes (action : Nat → Eval σ α) (world : World σ)
    (ended : Option (Except CommandError α × World σ)) : Prop :=
  ∃ enough, ∀ depth, enough ≤ depth → (action depth).run.run world = ended

theorem comes_of_run {action : Nat → Eval σ α} {world : World σ}
    {ended : Option (Except CommandError α × World σ)}
    (runs : ∀ depth, (action depth).run.run world = ended) : Comes action world ended :=
  ⟨0, fun depth _ => runs depth⟩

/-- What is told of runs one call deeper tells what the computation comes to. -/
theorem Comes.deeper {action : Nat → Eval σ α} {world : World σ}
    {ended : Option (Except CommandError α × World σ)}
    (comes : Comes (fun depth => action (depth + 1)) world ended) : Comes action world ended := by
  obtain ⟨enough, runs⟩ := comes
  refine ⟨enough + 1, fun depth deep => ?_⟩
  obtain ⟨depth, rfl⟩ : ∃ shallower, depth = shallower + 1 := ⟨depth - 1, by omega⟩
  exact runs depth (by omega)

/-- A computation that does the same with every run of another one comes to that. -/
theorem Comes.congr {first : Nat → Eval σ α} {other : Nat → Eval σ β} {world start : World σ}
    {ended : Option (Except CommandError α × World σ)}
    {make : Option (Except CommandError α × World σ) → Option (Except CommandError β × World σ)}
    (comes : Comes first world ended)
    (runs : ∀ depth, (other depth).run.run start = make ((first depth).run.run world)) :
    Comes other start (make ended) := by
  obtain ⟨enough, same⟩ := comes
  exact ⟨enough, fun depth deep => by rw [runs, same depth deep]⟩

theorem Comes.bind {first : Nat → Eval σ α} {next : Nat → α → Eval σ β} {world : World σ}
    {made : Option (Except CommandError α × World σ)}
    {ended : Option (Except CommandError β × World σ)} (comes : Comes first world made)
    (rest : match made with
      | none => ended = none
      | some (.error error, after) => ended = some (.error error, after)
      | some (.ok value, after) => Comes (fun depth => next depth value) after ended) :
    Comes (fun depth => first depth >>= next depth) world ended := by
  obtain ⟨enough, runs⟩ := comes
  rcases made with _ | ⟨error | value, after⟩
  · exact ⟨enough, fun depth deep => by rw [run_bind, runs depth deep, rest]⟩
  · exact ⟨enough, fun depth deep => by rw [run_bind, runs depth deep, rest]⟩
  · obtain ⟨more, later⟩ := rest
    refine ⟨max enough more, fun depth deep => ?_⟩
    rw [run_bind, runs depth (by omega)]
    exact later depth (by omega)

/-- In every world of a family the computation comes to a result of which the same is noted, or never
ends; it leaves a world of the family, and the cells from `since` on as they were. -/
def Steadily (since : Nat) (among : World σ → Prop) (view : Except CommandError α → Except Bool β)
    (action : Nat → Eval σ α) (said : Said β) : Prop :=
  ∀ world, among world → ∃ ended, Comes action world ended ∧
    ended.map (fun made => view made.1) = said.run ∧
    ∀ result after, ended = some (result, after) → among after ∧ world.Spares since after

section Rules

variable {since : Nat} {among : World σ → Prop} {view : Except CommandError α → Except Bool β}
  {action : Nat → Eval σ α} {said : Said β}

theorem steadily_of_run {result : Except CommandError α}
    (runs : ∀ depth world, among world → (action depth).run.run world = some (result, world)) :
    Steadily since among view action (ExceptT.mk (some (view result))) := by
  intro world inside
  refine ⟨some (result, world), comes_of_run fun depth => runs depth world inside, rfl, ?_⟩
  rintro result after ⟨⟩
  exact ⟨inside, World.spares_of_cells rfl⟩

theorem steadily_pure (view : α → β) (value : α) :
    Steadily since among (note view) (fun _ => pure value) (pure (view value)) :=
  steadily_of_run fun _ _ _ => rfl

theorem steadily_ofExcept (result : Except CommandError α) {seen : Except CommandError β}
    {view : α → β} (same : result.map view = seen) :
    Steadily since among (note view) (fun _ => ofExcept result) (Said.ofExcept seen) := by
  subst same
  have noted : note id (result.map view) = note view result := by cases result <;> rfl
  rw [Said.ofExcept, noted]
  exact steadily_of_run fun _ _ _ => rfl

theorem Steadily.bind {view : α → β} {other : γ → δ} {next : Nat → α → Eval σ γ}
    {follow : β → Said δ} (first : Steadily since among (note view) action said)
    (rest : ∀ value, Steadily since among (note other) (fun depth => next depth value)
      (follow (view value))) :
    Steadily since among (note other) (fun depth => action depth >>= next depth)
      (said >>= follow) := by
  intro world inside
  obtain ⟨made, comes, noted, leaves⟩ := first world inside
  rw [Said.run_bind, ← noted]
  rcases made with _ | ⟨error | value, after⟩
  · exact ⟨none, comes.bind rfl, rfl, fun _ _ same => nomatch same⟩
  · refine ⟨some (.error error, after), comes.bind rfl, rfl, ?_⟩
    rintro result last ⟨⟩
    exact leaves _ _ rfl
  · obtain ⟨stays, spares⟩ := leaves _ _ rfl
    obtain ⟨ended, comesToo, notedToo, leavesToo⟩ := rest value after stays
    refine ⟨ended, comes.bind comesToo, notedToo, ?_⟩
    intro result last same
    obtain ⟨remains, sparesToo⟩ := leavesToo result last same
    exact ⟨remains, spares.trans sparesToo⟩

/-- A computation of which every run is one of another computation, but for the result, of which the
same is noted, and for a change of the world that leaves it in the family. -/
theorem Steadily.finish {other : Nat → Eval σ γ} {seen : Except CommandError γ → Except Bool β}
    {finish : Except CommandError α × World σ → Except CommandError γ × World σ}
    (steady : Steadily since among view action said)
    (runs : ∀ depth world, (other depth).run.run world =
      ((action depth).run.run world).map finish)
    (noted : ∀ made, seen (finish made).1 = view made.1)
    (stays : ∀ made, among made.2 → among (finish made).2 ∧ made.2.Spares since (finish made).2) :
    Steadily since among seen other said := by
  intro world inside
  obtain ⟨ended, comes, same, leaves⟩ := steady world inside
  refine ⟨_, comes.congr fun depth => runs depth world, ?_, ?_⟩
  · rw [← same, Option.map_map]
    simp only [Function.comp_def, noted]
  · intro last after finished
    obtain ⟨made, found, ended⟩ := Option.map_eq_some_iff.1 finished
    obtain ⟨remains, spares⟩ := leaves made.1 made.2 found
    obtain ⟨stillThere, sparesToo⟩ := stays made remains
    rw [ended] at stillThere sparesToo
    exact ⟨stillThere, spares.trans sparesToo⟩

theorem Steadily.recorded (family : World.Family since among)
    (steady : Steadily since among view action said) :
    Steadily since among view (fun depth => Eval.recorded (action depth)) said := by
  apply steady.finish (fun depth world => run_recorded (action depth) world) (fun _ => rfl)
  rintro ⟨error | value, after⟩ inside
  · have beside := World.beside_record (family.room inside) (.failed error after.attempts)
    exact ⟨family.beside inside beside, World.spares_of_cells rfl⟩
  · exact ⟨inside, World.spares_of_cells rfl⟩

theorem Steadily.deeper (steady : Steadily since among view (fun depth => action (depth + 1)) said) :
    Steadily since among view action said := by
  intro world inside
  obtain ⟨ended, comes, rest⟩ := steady world inside
  exact ⟨ended, comes.deeper, rest⟩

end Rules

end Eval

end ChatLine
