import ChatLine.Proofs.Calls.Requests
import ChatLine.Proofs.Sharing.Discreet

set_option autoImplicit false

namespace ChatLine

variable {σ α β : Type}

open Command

namespace World

/-- No cell that was made since a moment has run twice, and of those that keep no outcome only the
busy ones have run at all. What is kept, what stands in the tree and what the application remembers
waits for nothing. -/
structure Orderly (memory : σ → List Command) (since : Nat) (busy : Nat → Prop) (world : World σ) :
    Prop where
  made : since ≤ world.cells.size
  running : ∀ cell, busy cell → cell < world.cells.size
  replies : ∀ cell reply, world.kept? cell = some (.ok reply) → reply.Idle world.isKept since
  tree : world.bot.groups.Only (Command.Idle world.isKept since)
  remembers : Remembers memory world.isKept since world.application
  once : ∀ cell, since ≤ cell → world.timesRun cell ≤ 1
  unrun : ∀ cell, since ≤ cell → world.isKept cell = false → ¬ busy cell → world.timesRun cell = 0

/-- The cells that there are and that are not running. -/
def Free (busy : Nat → Prop) (world : World σ) (cell : Nat) : Prop :=
  cell < world.cells.size ∧ ¬ busy cell

/-- A world in good order to which calls lead. -/
structure Goes (memory : σ → List Command) (since : Nat) (busy : Nat → Prop)
    (world after : World σ) : Prop where
  orderly : after.Orderly memory since busy
  keeps : world.Keeps after
  frames : after.context.frames = world.context.frames

variable {memory : σ → List Command} {since : Nat} {busy : Nat → Prop} {world middle after : World σ}

theorem Orderly.goes (orderly : world.Orderly memory since busy) :
    world.Goes memory since busy world :=
  ⟨orderly, lasting_keeps.refl world, rfl⟩

theorem Goes.trans (first : world.Goes memory since busy middle)
    (second : middle.Goes memory since busy after) : world.Goes memory since busy after :=
  ⟨second.orderly, lasting_keeps.trans first.keeps second.keeps, second.frames.trans first.frames⟩

theorem Goes.stays (goes : world.Goes memory since busy after) (cell : Nat)
    (kept : world.isKept cell = true) : after.isKept cell = true :=
  goes.keeps.isKept kept

theorem Goes.free (goes : world.Goes memory since busy after) (cell : Nat)
    (free : world.Free busy cell) : after.Free busy cell :=
  ⟨Nat.lt_of_lt_of_le free.1 goes.keeps.size, free.2⟩

theorem Goes.apart (goes : world.Goes memory since busy after) (parts : List (List Command))
    (apart : Apart world.isKept since (world.Free busy) (parts ++ world.context.frames)) :
    Apart after.isKept since (after.Free busy) (parts ++ after.context.frames) := by
  rw [goes.frames]
  exact (apart.mono goes.stays).weaken goes.free

theorem isKept_of_cells (same : after.cells = world.cells) : after.isKept = world.isKept := by
  funext cell
  simp only [isKept, kept?, same]

theorem free_of_cells (same : after.cells = world.cells) : after.Free busy = world.Free busy := by
  funext cell
  simp only [Free, same]

/-- The order of a world is a matter of its cells, its runs, its tree and what the application
remembers. -/
theorem Orderly.of_same (orderly : world.Orderly memory since busy)
    (cells : after.cells = world.cells) (runs : ∀ cell, after.timesRun cell = world.timesRun cell)
    (tree : after.bot.groups.Only (Command.Idle world.isKept since))
    (remembers : Remembers memory world.isKept since after.application) :
    after.Orderly memory since busy := by
  have keptSame := isKept_of_cells cells
  have kept : after.kept? = world.kept? := by
    funext cell
    simp only [kept?, cells]
  refine ⟨cells ▸ orderly.made, cells ▸ orderly.running, ?_, ?_, ?_, ?_, ?_⟩
  · rw [kept, keptSame]
    exact orderly.replies
  · rw [keptSame]
    exact tree
  · rw [keptSame]
    exact remembers
  · intro cell young
    rw [runs]
    exact orderly.once cell young
  · intro cell young
    rw [runs, keptSame]
    exact orderly.unrun cell young

/-- What does not touch cells, frames and the tree leaves everything in order. -/
theorem Orderly.goes_of_quiet (orderly : world.Orderly memory since busy)
    (quiet : world.Quiet after) (bot : after.bot = world.bot)
    (application : after.application = world.application) : world.Goes memory since busy after := by
  refine ⟨orderly.of_same quiet.cells quiet.runs ?_ ?_, lasting_keeps.quiet quiet, quiet.frames⟩
  · rw [bot]
    exact orderly.tree
  · rw [application]
    exact orderly.remembers

theorem Orderly.goes_of_bot (orderly : world.Orderly memory since busy) {bot : Bot}
    (tree : bot.groups.Only (Command.Idle world.isKept since)) :
    world.Goes memory since busy { world with bot := bot } :=
  ⟨orderly.of_same rfl (fun _ => rfl) tree orderly.remembers,
    lasting_keeps.quiet ⟨rfl, rfl, fun _ => rfl⟩, rfl⟩

theorem Orderly.withContext (orderly : world.Orderly memory since busy) (context : Context) :
    ({ world with context := context } : World σ).Orderly memory since busy :=
  orderly.of_same rfl (fun _ => rfl) orderly.tree orderly.remembers

theorem isKept_grow (count : Nat) : (world.grow count).isKept = world.isKept := by
  funext cell
  simp only [isKept, kept?_grow]

theorem Orderly.grow (orderly : world.Orderly memory since busy) (count : Nat) :
    world.Goes memory since busy (world.grow count) := by
  have larger : world.cells.size ≤ (world.grow count).cells.size := by
    rw [size_grow]
    exact Nat.le_add_right _ _
  refine ⟨⟨Nat.le_trans orderly.made larger, ?_, ?_, ?_, ?_, orderly.once, ?_⟩,
    lasting_keeps.grow world count, rfl⟩
  · exact fun cell runs => Nat.lt_of_lt_of_le (orderly.running cell runs) larger
  · rw [kept?_grow, isKept_grow]
    exact orderly.replies
  · rw [isKept_grow]
    exact orderly.tree
  · rw [isKept_grow]
    exact orderly.remembers
  · rw [isKept_grow]
    exact orderly.unrun

/-- Shared arguments are in cells of their own, so they keep apart from all others. -/
theorem Orderly.apart_shared (orderly : world.Orderly memory since busy) {arguments : List Command}
    {parts : List (List Command)}
    (apart : Apart world.isKept since (world.Free busy) (arguments :: parts)) :
    Apart (world.grow arguments.length).isKept since ((world.grow arguments.length).Free busy)
      (sharedFrom world.cells.size arguments :: parts) := by
  have goes := orderly.grow arguments.length
  have older (cell : Nat) (waits : AnyWaits world.isKept since cell arguments) :
      cell < world.cells.size := (apart.separate waits).1.1
  rw [isKept_grow]
  refine Apart.cons ?_ ?_ (apart.tail.weaken goes.free)
  · exact sound_sharedFrom (apart.sound arguments List.mem_cons_self) older
  · intro cell waits
    rcases waits_of_sharedFrom waits with ⟨above, below⟩ | before
    · refine ⟨⟨?_, ?_⟩, ?_⟩
      · rw [size_grow]
        exact below
      · exact fun runs => Nat.not_lt_of_le above (orderly.running cell runs)
      · intro part inside waitsToo
        exact Nat.not_lt_of_le above (apart.tail.owned part inside cell waitsToo).1
    · exact ⟨goes.free cell (apart.separate before).1, (apart.separate before).2⟩

theorem Orderly.lt_size (orderly : world.Orderly memory since busy) {cell : Nat} {inner : Command}
    {parts : List (List Command)}
    (apart : Apart world.isKept since (world.Free busy) ([.lazy cell inner] :: parts)) :
    cell < world.cells.size := by
  by_cases young : since ≤ cell
  · cases unsettled : world.kept? cell with
    | some outcome => exact lt_size_of_kept? unsettled
    | none =>
      exact (apart.separate (.inl ⟨isKept_eq_false unsettled, .inl ⟨young, rfl⟩⟩)).1.1
  · have made := orderly.made
    omega

/-- The command in a free cell begins to run: from then on the cell is busy. -/
theorem Orderly.begin (orderly : world.Orderly memory since busy) {cell : Nat}
    (free : since ≤ cell → world.Free busy cell) (unsettled : world.isKept cell = false)
    (frames : Frames) :
    (world.record (.evaluated cell frames)).Orderly memory since
      fun other => busy other ∨ since ≤ cell ∧ other = cell := by
  have runs (other : Nat) : (world.record (.evaluated cell frames)).timesRun other =
      world.timesRun other + if cell = other then 1 else 0 := by
    rw [timesRun_record]
    simp only [begins, beq_iff_eq]
  refine ⟨orderly.made, ?_, orderly.replies, orderly.tree, orderly.remembers, ?_, ?_⟩
  · rintro other (before | ⟨young, rfl⟩)
    · exact orderly.running other before
    · exact (free young).1
  · intro other young
    rw [runs]
    by_cases same : cell = other
    · subst same
      have never := orderly.unrun cell young unsettled (free young).2
      rw [if_pos rfl]
      omega
    · rw [if_neg same]
      exact orderly.once other young
  · intro other young open_ idle
    have different : cell ≠ other := fun same => idle (.inr ⟨same ▸ young, same.symm⟩)
    rw [runs, if_neg different]
    exact orderly.unrun other young open_ fun runs => idle (.inl runs)

/-- The outcome of a run is kept: the cell is no longer busy. -/
theorem Orderly.keep {cell : Nat} {outcome : Outcome}
    (orderly : after.Orderly memory since fun other => busy other ∨ since ≤ cell ∧ other = cell)
    (idle : ∀ reply, outcome = .ok reply → reply.Idle after.isKept since)
    (inside : cell < after.cells.size) :
    (after.keep cell outcome).Orderly memory since busy := by
  have stays := fun other => isKept_keep after cell other outcome
  refine ⟨?_, ?_, ?_, ?_, ?_, orderly.once, ?_⟩
  · rw [size_keep]
    exact orderly.made
  · rw [size_keep]
    exact fun other runs => orderly.running other (.inl runs)
  · intro other reply found
    rw [kept?_keep] at found
    split at found
    · cases found
      exact (idle reply rfl).mono stays
    · exact (orderly.replies other reply found).mono stays
  · exact orderly.tree.mono fun command waits => waits.mono stays
  · exact fun command inside => (orderly.remembers command inside).mono stays
  · intro other young open_ notBusy
    have kept : (after.keep cell outcome).isKept cell = true := by
      apply isKept_of_kept?
      rw [kept?_keep, if_pos ⟨rfl, inside⟩]
    have different : other ≠ cell := by
      intro same
      rw [same, kept] at open_
      cases open_
    have before : after.isKept other = false := by
      cases settled : after.isKept other with
      | false => rfl
      | true =>
        rw [stays other settled] at open_
        exact open_
    apply orderly.unrun other young before
    rintro (runs | ⟨_, same⟩)
    · exact notBusy runs
    · exact different same

end World

namespace Eval

section Rules

variable {memory : σ → List Command} {since : Nat} {busy : Nat → Prop} {world after : World σ}

/-- The computation leads from a world in good order to another one; its result satisfies `post` of
what is kept then. -/
def Safe (memory : σ → List Command) (since : Nat) (busy : Nat → Prop) (action : Eval σ α)
    (world : World σ) (post : Except CommandError α → (Nat → Bool) → Prop) : Prop :=
  action.Ensures world fun result after =>
    world.Goes memory since busy after ∧ post result after.isKept

/-- A value that is returned satisfies `post`. -/
def OnValue (post : α → (Nat → Bool) → Prop) (result : Except CommandError α) (kept : Nat → Bool) :
    Prop :=
  ∀ value, result = .ok value → post value kept

theorem onValue_error {post : α → (Nat → Bool) → Prop} (error : CommandError)
    (kept : Nat → Bool) : OnValue post (.error error) kept :=
  fun _ same => nomatch same

theorem onValue_ok {post : α → (Nat → Bool) → Prop} {value : α} {kept : Nat → Bool}
    (holds : post value kept) : OnValue post (.ok value) kept := by
  intro other same
  cases same
  exact holds

theorem safe_of_run {action : Eval σ α} {result : Except CommandError α}
    {post : Except CommandError α → (Nat → Bool) → Prop}
    (runs : action.run.run world = some (result, after))
    (goes : world.Goes memory since busy after) (holds : post result after.isKept) :
    Safe memory since busy action world post := by
  intro other last ends
  rw [runs] at ends
  cases ends
  exact ⟨goes, holds⟩

theorem safe_pure {value : α} {post : α → (Nat → Bool) → Prop}
    (orderly : world.Orderly memory since busy) (holds : post value world.isKept) :
    Safe memory since busy (pure value) world (OnValue post) :=
  safe_of_run (run_pure value world) orderly.goes (onValue_ok holds)

theorem safe_throw {error : CommandError} {post : α → (Nat → Bool) → Prop}
    (orderly : world.Orderly memory since busy) :
    Safe memory since busy (throw error) world (OnValue post) :=
  safe_of_run (run_throw error world) orderly.goes (onValue_error error _)

theorem safe_ofExcept {result : Except CommandError α} {post : α → (Nat → Bool) → Prop}
    (orderly : world.Orderly memory since busy)
    (holds : ∀ value, result = .ok value → post value world.isKept) :
    Safe memory since busy (ofExcept result) world (OnValue post) :=
  safe_of_run (run_ofExcept result world) orderly.goes holds

theorem Safe.weaken {action : Eval σ α}
    {strong weak : Except CommandError α → (Nat → Bool) → Prop}
    (safe : Safe memory since busy action world strong)
    (implies : ∀ result kept, strong result kept → weak result kept) :
    Safe memory since busy action world weak :=
  fun result after runs => ⟨(safe result after runs).1, implies _ _ (safe result after runs).2⟩

theorem Safe.bind {first : Eval σ α} {next : α → Eval σ β} {middle : α → (Nat → Bool) → Prop}
    {post : β → (Nat → Bool) → Prop} (safe : Safe memory since busy first world (OnValue middle))
    (rest : ∀ value after, world.Goes memory since busy after → middle value after.isKept →
      Safe memory since busy (next value) after (OnValue post)) :
    Safe memory since busy (first >>= next) world (OnValue post) := by
  refine ensures_bind.2 ?_
  intro result after runs
  obtain ⟨goes, holds⟩ := safe result after runs
  cases result with
  | error error => exact ⟨goes, onValue_error error _⟩
  | ok value =>
    intro result last ends
    obtain ⟨more, ended⟩ := rest value after goes (holds value rfl) result last ends
    exact ⟨goes.trans more, ended⟩

theorem safe_after {first : Eval σ α} {next : α → Eval σ β} {value : α}
    {post : Except CommandError β → (Nat → Bool) → Prop}
    (runs : first.run.run world = some (.ok value, after))
    (goes : world.Goes memory since busy after)
    (rest : Safe memory since busy (next value) after post) :
    Safe memory since busy (first >>= next) world post := by
  intro result last ends
  rw [run_bind, runs] at ends
  obtain ⟨more, ended⟩ := rest result last ends
  exact ⟨goes.trans more, ended⟩

theorem Safe.outcome {action : Eval σ α} {post : Except CommandError α → (Nat → Bool) → Prop}
    (safe : Safe memory since busy action world post) :
    Safe memory since busy (Eval.outcome action) world (OnValue post) := by
  intro result after ends
  rw [run_outcome] at ends
  obtain ⟨made, runs, same⟩ := Option.map_eq_some_iff.1 ends
  cases same
  exact ⟨(safe _ _ runs).1, onValue_ok (safe _ _ runs).2⟩

theorem Safe.recorded {action : Eval σ α} {post : Except CommandError α → (Nat → Bool) → Prop}
    (safe : Safe memory since busy action world post) :
    Safe memory since busy (Eval.recorded action) world post := by
  intro result after ends
  rw [run_recorded] at ends
  obtain ⟨⟨made, last⟩, runs, same⟩ := Option.map_eq_some_iff.1 ends
  obtain ⟨goes, holds⟩ := safe made last runs
  cases made with
  | ok value =>
    cases same
    exact ⟨goes, holds⟩
  | error error =>
    cases same
    have quiet : last.Quiet (last.record (.failed error last.attempts)) :=
      last.quiet_record fun _ => rfl
    exact ⟨goes.trans (goes.orderly.goes_of_quiet quiet rfl rfl), holds⟩

/-- What is safe inside changes of the frames is safe, because the frames are put back. -/
theorem Safe.inScopes {action : Eval σ α} {post : Except CommandError α → (Nat → Bool) → Prop}
    (scopes : List Scope) (orderly : world.Orderly memory since busy)
    (safe : ∀ inside : World σ, inside.Orderly memory since busy → inside.cells = world.cells →
      inside.context.frames = Scope.visible scopes world.context.frames →
        Safe memory since busy action inside post) :
    Safe memory since busy (Eval.inScopes scopes action) world post := by
  induction scopes generalizing world with
  | nil => exact safe world orderly rfl rfl
  | cons scope rest ih =>
    cases scope with
    | inner frame =>
      refine ensures_inner.2 fun result after runs => ?_
      have ran := ih (orderly.withContext (world.context.push frame)) safe
      obtain ⟨goes, holds⟩ := ran result after runs
      have keeps := World.lasting_keeps.inner frame goes.keeps
      exact ⟨⟨goes.orderly.withContext _, keeps, congrArg List.tail goes.frames⟩, holds⟩
    | outer =>
      cases running : world.context.frames with
      | nil =>
        refine (ensures_outer_nil running).2 (ih orderly ?_)
        intro inside inOrder cells frames
        apply safe inside inOrder cells
        rw [frames, running]
        rfl
      | cons frame others =>
        refine (ensures_outer running).2 fun result after runs => ?_
        have ran := ih (orderly.withContext world.context.pop) safe
        obtain ⟨goes, holds⟩ := ran result after runs
        have keeps := World.lasting_keeps.outer running goes.keeps
        refine ⟨⟨goes.orderly.withContext _, keeps, ?_⟩, holds⟩
        show frame :: after.context.frames = world.context.frames
        rw [goes.frames, running]
        simp only [Context.pop, running, List.tail_cons]

end Rules

end Eval

end ChatLine
