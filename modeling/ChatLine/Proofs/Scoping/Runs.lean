import ChatLine.Proofs.Scoping.Watching
import ChatLine.Proofs.Scoping.Worlds
import ChatLine.Proofs.Sharing.Runs

set_option autoImplicit false

namespace ChatLine

variable {σ α : Type}

open Command

/-- The calls run cells at home if their parts belong to the frames. What they answer waits for
nothing, and a command that runs at most once has run. -/
def Caller.Lexical (memory : σ → List Command) (since : Nat) (call : Caller σ)
    (watched : (Nat → Frames) → Caller σ) : Prop :=
  ∀ ledger world command arguments kinds, world.AtHome memory since ledger →
    command.BelongsTo ledger since world.context.frames →
    (∀ argument ∈ arguments, argument.BelongsTo ledger since world.context.frames) →
      Eval.Lexical memory since ledger (call command arguments kinds)
        (fun home => watched home command arguments kinds) world fun result kept =>
          Eval.OnValue (fun reply kept => reply.Idle kept since) result kept ∧ command.Ran kept

/-- The texts that run as command lines run cells at home. -/
def LineCaller.Lexical (memory : σ → List Command) (since : Nat) (line : LineCaller σ)
    (watched : (Nat → Frames) → LineCaller σ) : Prop :=
  ∀ ledger world text kinds, world.AtHome memory since ledger →
    Eval.Lexical memory since ledger (line text kinds) (fun home => watched home text kinds) world
      (Eval.OnValue fun reply kept => reply.Idle kept since)

/-- What belongs to the frames belongs to them while calls go on. -/
theorem belong_later {ledger later : Ledger} {since : Nat} {frames after : Frames}
    {commands : List Command}
    (belong : ∀ command ∈ commands, command.BelongsTo ledger since frames) (le : ledger.Le later)
    (same : after = frames) : ∀ command ∈ commands, command.BelongsTo later since after := by
  rw [same]
  exact fun command inside => (belong command inside).mono le

theorem Command.MadeOf.belongs {ledger : Ledger} {since : Nat} {frames : Frames}
    {parts : List Command} {command : Command} (made : command.MadeOf ledger.kept since parts)
    (belong : ∀ part ∈ parts, part.BelongsTo ledger since frames) :
    command.BelongsTo ledger since frames := by
  induction made with
  | part among => exact belong _ among
  | idle idle => exact .of_idle idle
  | applied _ _ callee bound => exact ⟨callee, allBelong_iff.2 bound⟩

section Step

variable {memory : σ → List Command} {since : Nat} {ledger : Ledger} {host : Host σ}
  {call : Caller σ} {watched : (Nat → Frames) → Caller σ} {line : LineCaller σ}
  {watchedLine : (Nat → Frames) → LineCaller σ} {world : World σ} {arguments : List Command}

theorem Caller.Lexical.answered (calls : call.Lexical memory since watched)
    (atHome : world.AtHome memory since ledger) {command : Command}
    (belongs : command.BelongsTo ledger since world.context.frames)
    (given : ∀ argument ∈ arguments, argument.BelongsTo ledger since world.context.frames)
    (kinds : List Kind) :
    Eval.Lexical memory since ledger (call command arguments kinds)
      (fun home => watched home command arguments kinds) world
      (Eval.OnValue fun reply kept => reply.Idle kept since) :=
  (calls ledger world command arguments kinds atHome belongs given).weaken fun _ _ both => both.1

theorem Eval.text_lexical (calls : call.Lexical memory since watched)
    (atHome : world.AtHome memory since ledger) {command : Command}
    (belongs : command.BelongsTo ledger since world.context.frames) :
    Eval.Lexical memory since ledger (Eval.text call command)
      (fun home => Eval.text (watched home) command) world
      (Eval.OnValue fun _ kept => command.Ran kept) := by
  have ran : Eval.Lexical memory since ledger (call command [] [.string])
      (fun home => watched home command [] [.string]) world
      (Eval.OnValue fun _ kept => command.Ran kept) :=
    (calls ledger world command [] [.string] atHome belongs (List.forall_mem_nil _)).weaken
      fun _ _ both _ _ => both.2
  apply ran.bind
  intro reply later after le atHome _ ran
  apply Eval.lexical_after (Eval.run_get after) (.refl later) rfl
  exact Eval.lexical_ofExcept atHome fun _ _ => ran

theorem Eval.texts_lexical (calls : call.Lexical memory since watched)
    (atHome : world.AtHome memory since ledger) {commands : List Command}
    (belong : ∀ command ∈ commands, command.BelongsTo ledger since world.context.frames) :
    Eval.Lexical memory since ledger (Eval.texts call commands)
      (fun home => Eval.texts (watched home) commands) world
      (Eval.OnValue fun _ kept => ∀ command ∈ commands, command.Ran kept) := by
  induction commands generalizing world ledger with
  | nil => exact Eval.lexical_pure atHome (List.forall_mem_nil _)
  | cons command rest ih =>
    obtain ⟨here, others⟩ := List.forall_mem_cons.1 belong
    apply (Eval.text_lexical calls atHome here).bind
    intro text later after le atHome frames ran
    apply (ih atHome (belong_later others le frames)).bind
    intro texts lastly last more lastHome _ ranOthers
    exact Eval.lexical_pure lastHome (List.forall_mem_cons.2 ⟨ran.mono more.kept, ranOthers⟩)

theorem Function.bindFormal_lexical (calls : call.Lexical memory since watched)
    (atHome : world.AtHome memory since ledger) {rest : List Command}
    (given : ∀ argument ∈ rest, argument.BelongsTo ledger since world.context.frames)
    (kinds : List Kind) (all : List Command) (formal : Formal) :
    Eval.Lexical memory since ledger (bindFormal call kinds all formal rest)
      (fun home => bindFormal (watched home) kinds all formal rest) world
      (Eval.OnValue fun bound _ => ∀ argument ∈ bound.2, argument ∈ rest) := by
  have same : ∀ argument ∈ rest, argument ∈ rest := fun _ inside => inside
  cases formal with
  | context => exact Eval.lexical_pure atHome same
  | arguments => exact Eval.lexical_pure atHome same
  | kinds => exact Eval.lexical_pure atHome same
  | tail =>
    apply (Eval.texts_lexical calls atHome given).bind
    exact fun _ _ _ _ afterHome _ _ => Eval.lexical_pure afterHome (List.forall_mem_nil _)
  | plain type =>
    cases rest with
    | nil => exact Eval.lexical_pure atHome (List.forall_mem_nil _)
    | cons argument rest =>
      apply (Eval.text_lexical calls atHome (List.forall_mem_cons.1 given).1).bind
      intro text later after _ afterHome _ _
      have read : Eval.Lexical memory since later (Eval.ofExcept (Binding.coerce text type))
          (fun _ => Eval.ofExcept (Binding.coerce text type)) after (Eval.OnValue fun _ _ => True) :=
        Eval.lexical_ofExcept afterHome fun _ _ => trivial
      apply read.bind
      exact fun _ _ _ _ lastHome _ _ =>
        Eval.lexical_pure lastHome fun _ inside => List.mem_cons_of_mem _ inside

theorem Function.bindAll_lexical (calls : call.Lexical memory since watched)
    (atHome : world.AtHome memory since ledger) {rest : List Command}
    (given : ∀ argument ∈ rest, argument.BelongsTo ledger since world.context.frames)
    (kinds : List Kind) (all : List Command) (formals : List Formal) :
    Eval.Lexical memory since ledger (bindFormals call kinds all formals rest)
      (fun home => bindFormals (watched home) kinds all formals rest) world
      (Eval.OnValue fun _ _ => True) := by
  induction formals generalizing world ledger rest with
  | nil => exact Eval.lexical_pure atHome trivial
  | cons formal formals ih =>
    apply (bindFormal_lexical calls atHome given kinds all formal).bind
    rintro ⟨binding, left⟩ later after le afterHome frames among
    apply (ih afterHome fun argument inside =>
      belong_later given le frames argument (among argument inside)).bind
    exact fun _ _ _ _ lastHome _ _ => Eval.lexical_pure lastHome trivial

/-- Binding evaluates arguments. Where a function could take more of them than it did, all have run. -/
theorem Function.bindFormals_lexical (calls : call.Lexical memory since watched)
    (atHome : world.AtHome memory since ledger)
    (given : ∀ argument ∈ arguments, argument.BelongsTo ledger since world.context.frames)
    (f : Function) (kinds : List Kind) :
    Eval.Lexical memory since ledger (bindFormals call kinds arguments f.formals arguments)
      (fun home => bindFormals (watched home) kinds arguments f.formals arguments) world
      (Eval.OnValue fun bound kept =>
        (∀ given, .arguments given ∈ bound.1 → given = arguments) ∧
          (f.hasTail = true ∨ arguments.length - bound.2.length < f.positionalCount →
            ∀ argument ∈ arguments, argument.Ran kept)) := by
  intro result after runs
  obtain ⟨later, le, afterHome, frames, _, watches⟩ :=
    bindAll_lexical calls atHome given kinds arguments f.formals result after runs
  refine ⟨later, le, afterHome, frames, ?_, watches⟩
  rintro ⟨bindings, rest⟩ rfl
  refine ⟨bindFormals_own f.formals arguments world _ after runs _ rfl, ?_⟩
  intro more
  obtain ⟨used, left, bound⟩ := exists_bound f.formals arguments runs
  obtain ⟨nothingElse, _, texts, complete, _⟩ := bound.complete bindings rest rfl
  have all := bound.parts
  rw [← nothingElse, bound.rest_eq_nil more, List.append_nil] at all
  rw [← all] at complete
  obtain ⟨lastly, _, lastHome, _, ran, _⟩ :=
    Eval.texts_lexical calls atHome given (.ok texts) after complete
  rw [afterHome.kept, ← lastHome.kept]
  exact ran texts rfl

theorem World.AtHome.lt_size (atHome : world.AtHome memory since ledger) {cell : Nat}
    {inner : Command} {frames : Frames}
    (belongs : (Command.lazy cell inner).BelongsTo ledger since frames) :
    cell < world.cells.size := by
  by_cases young : since ≤ cell
  · cases unsettled : world.kept? cell with
    | some outcome => exact World.lt_size_of_kept? unsettled
    | none =>
      rw [← atHome.made]
      refine ((belongs ?_).1 young).1
      rw [atHome.kept]
      exact World.isKept_eq_false unsettled
  · exact Nat.lt_of_lt_of_le (Nat.lt_of_not_le young) atHome.begun

theorem Frames.Fit.head {frames : Frames} (fit : frames.Fit ledger since) :
    ∀ command ∈ frames.headD [], command.BelongsTo ledger since frames.tail := by
  cases frames with
  | nil => exact List.forall_mem_nil _
  | cons frame caller => exact fun command inside => (fit.1 command inside).1

/-- With the homes that are known, the arguments of the line that runs are at home around it. -/
theorem World.AtHome.framed (atHome : world.AtHome memory since ledger) {home : Nat → Frames}
    (agrees : ledger.Agrees home) : world.Framed home since := by
  refine ⟨atHome.begun, fun frame caller running cell inner inside young => ?_⟩
  have fit := atHome.frames
  rw [running] at fit
  obtain ⟨there, same⟩ := (fit.1 _ inside).2 cell inner rfl young
  exact (agrees cell there).trans same

/-- Local code runs cells at home. -/
theorem Program.run_lexical (calls : call.Lexical memory since watched)
    (lines : line.Lexical memory since watchedLine)
    {own : List Command} {frames : Frames} {post : (Nat → Bool) → α → Prop}
    (program : Program σ α) (atHome : world.AtHome memory since ledger)
    (running : world.context.frames = frames)
    (given : ∀ command ∈ own, command.BelongsTo ledger since frames)
    (isLocal : program.Local memory since own (frames.headD []) frames post ledger.kept) :
    Eval.Lexical memory since ledger (program.run call line)
      (fun home => program.run (watched home) (watchedLine home)) world
      (Eval.OnValue fun value kept => post kept value) := by
  induction program generalizing world ledger with
  | done value => exact Eval.lexical_pure atHome isLocal
  | call scopes command arguments kinds next ih =>
    have called : Eval.Lexical memory since ledger
        (Eval.inScopes scopes (call command arguments kinds))
        (fun home => Eval.inScopes scopes (watched home command arguments kinds)) world
        fun result kept => Eval.OnValue (fun reply kept => reply.Idle kept since) result kept ∧
          command.Ran kept := by
      rcases isLocal.1 with ⟨rfl, made⟩ | ⟨rfl, made⟩
      · obtain ⟨ofCommand, ofArguments⟩ := List.forall_mem_cons.1 made
        rw [← running] at given
        exact calls ledger world command arguments kinds atHome (ofCommand.belongs given)
          fun argument inside => (ofArguments argument inside).belongs given
      · obtain ⟨ofCommand, ofArguments⟩ := List.forall_mem_cons.1 made
        have framed := atHome.frames.head
        rw [← running] at ofCommand ofArguments
        refine Eval.Lexical.outer atHome.frames ?_
        exact calls ledger _ command arguments kinds (atHome.withContext atHome.frames.tail)
          (ofCommand.belongs framed) fun argument inside => (ofArguments argument inside).belongs framed
    apply called.outcome.bind
    rintro outcome later after le afterHome same ⟨idle, ran⟩
    exact ih outcome afterHome (same.trans running) (fun part inside => (given part inside).mono le)
      (isLocal.2 later.kept outcome le.kept ran idle)
  | line text kinds next ih =>
    apply (lines ledger world text kinds atHome).outcome.bind
    intro outcome later after le afterHome same idle
    exact ih outcome afterHome (same.trans running) (fun part inside => (given part inside).mono le)
      (isLocal later.kept outcome le.kept idle)
  | look next ih =>
    apply Eval.lexical_after (Eval.run_get world) (.refl ledger) rfl
    exact ih _ _ atHome running given (isLocal _ _ atHome.tree running)
  | spend tokens next ih =>
    apply Eval.lexical_after (Eval.run_get world) (.refl ledger) rfl
    cases world.context.budget.take? tokens with
    | none => exact ih false atHome running given (isLocal false)
    | some budget =>
      apply Eval.lexical_after (Eval.run_modify _ world) (.refl ledger) rfl
      exact ih true (atHome.withContext atHome.frames) running given (isLocal true)
  | administrator next ih =>
    apply Eval.lexical_after (Eval.run_get world) (.refl ledger) rfl
    apply Eval.lexical_after (Eval.run_modify _ world) (.refl ledger) rfl
    exact ih _ (atHome.withContext atHome.frames) running given (isLocal _)
  | draw low high next ih =>
    simp only [Program.run]
    apply Eval.lexical_after (Eval.run_get world) (.refl ledger) rfl
    generalize world.generator.draw low high = drawn
    obtain ⟨value, generator⟩ := drawn
    refine Eval.lexical_after (Eval.run_set world { world with generator := generator })
      (.refl ledger) rfl ?_
    refine ih value ?_ running given (isLocal value)
    exact atHome.of_same rfl atHome.frames atHome.tree atHome.remembers fun _ _ inside => inside
  | addAlias name text next ih =>
    have tree := Bot.only_addAlias atHome.tree name text
      fun command meant => Command.idle_ofLine meant ledger.kept since
    apply Eval.lexical_after (Eval.run_update _ world) (.refl ledger) rfl
    exact ih _ (atHome.withBot tree) running given (isLocal _)
  | removeAlias name next ih =>
    have tree := Bot.only_removeAlias atHome.tree name
    apply Eval.lexical_after (Eval.run_update _ world) (.refl ledger) rfl
    exact ih _ (atHome.withBot tree) running given (isLocal _)
  | change update next ih =>
    obtain ⟨remembers, rest⟩ := isLocal world.application atHome.remembers
    apply Eval.lexical_after (Eval.run_get world) (.refl ledger) rfl
    refine Eval.lexical_after (Eval.run_set world
      { world with application := update world.application }) (.refl ledger) rfl ?_
    refine ih _ ?_ running given rest
    exact atHome.of_same rfl atHome.frames atHome.tree remembers fun _ _ inside => inside

namespace Evaluate

theorem invoke_lexical (isLocal : host.Local memory since)
    (calls : call.Lexical memory since watched) (lines : line.Lexical memory since watchedLine)
    (atHome : world.AtHome memory since ledger)
    (given : ∀ argument ∈ arguments, argument.BelongsTo ledger since world.context.frames)
    (shared : ∀ argument ∈ arguments, ∃ cell inner, argument = .lazy cell inner) (f : Function)
    {bindings : Bindings} (own : ∀ given, .arguments given ∈ bindings → given = arguments) :
    Eval.Lexical memory since ledger (invoke host call line f bindings)
      (fun home => invoke host (watched home) (watchedLine home) f bindings) world
      (Eval.OnValue fun value kept => ∀ reply, value = .reply reply → reply.Idle kept since) := by
  apply (Program.run_lexical calls lines _ atHome rfl given (isLocal.codeOf f.code shared own)).bind
  intro result later after le afterHome _ idle
  cases result with
  | error failure => exact Eval.lexical_throw afterHome
  | ok value => exact Eval.lexical_pure afterHome fun reply same => idle reply (same ▸ rfl)

theorem belong_sharedFrom (atHome : world.AtHome memory since ledger)
    (given : ∀ argument ∈ arguments, argument.BelongsTo ledger since world.context.frames) :
    ∀ argument ∈ sharedFrom world.cells.size arguments, argument.BelongsTo
      (ledger.grow arguments.length world.context.frames) since world.context.frames := by
  rw [← atHome.made]
  exact fun argument inside => (fits_sharedFrom given argument inside).1

theorem callFunction_lexical (isLocal : host.Local memory since)
    (calls : call.Lexical memory since watched) (lines : line.Lexical memory since watchedLine)
    (atHome : world.AtHome memory since ledger)
    (given : ∀ argument ∈ arguments, argument.BelongsTo ledger since world.context.frames)
    (f : Function) (kinds : List Kind) :
    Eval.Lexical memory since ledger (callFunction host call line f arguments kinds)
      (fun home => callFunction host (watched home) (watchedLine home) f arguments kinds) world
      (Eval.OnValue fun reply kept => reply.Idle kept since) := by
  apply Eval.lexical_after (Eval.run_share arguments world)
    (ledger.le_grow arguments.length world.context.frames) rfl
  have opened := atHome.grow arguments.length
  have belong := belong_sharedFrom atHome given
  have inCells (argument : Command)
      (inside : argument ∈ sharedFrom world.cells.size arguments) := exists_of_mem_sharedFrom inside
  generalize sharedFrom world.cells.size arguments = shared at belong inCells ⊢
  apply (Function.bindFormals_lexical calls opened belong f kinds).bind
  rintro ⟨bindings, rest⟩ later after le afterHome frames ⟨own, ran⟩
  have curried (more : f.hasTail = true ∨ shared.length - rest.length < f.positionalCount) :
      Eval.Lexical memory since later (pure (.command (f.curry shared)) : Eval σ Reply)
        (fun _ => pure (.command (f.curry shared))) after
        (Eval.OnValue fun reply kept => reply.Idle kept since) := by
    apply Eval.lexical_pure afterHome
    intro command same
    cases same
    exact idle_curry f inCells (ran more)
  dsimp only
  split
  · rename_i fewer
    split
    · exact curried (.inr (Nat.lt_of_lt_of_le fewer f.required_le))
    · exact Eval.lexical_throw afterHome
  · split
    · exact Eval.lexical_throw afterHome
    · rename_i others first
      have among : Kind.command ∈ List.filter _ kinds := first ▸ List.mem_cons_self
      have more := (List.mem_filter.1 among).2
      rw [bne_self_eq_false, Bool.or_false, Bool.or_eq_true, decide_eq_true_eq] at more
      exact curried more
    · apply (invoke_lexical isLocal calls lines afterHome (belong_later belong le frames) inCells f
        own).bind
      intro value lastly last more lastHome _ idle
      apply Eval.lexical_ofExcept lastHome
      rintro reply delivered command rfl
      exact idle _ (eq_of_deliver_command delivered) command rfl

theorem callFirst_lexical (calls : call.Lexical memory since watched)
    (atHome : world.AtHome memory since ledger)
    (given : ∀ argument ∈ arguments, argument.BelongsTo ledger since world.context.frames)
    (kinds : List Kind) (functions : List Function) :
    Eval.Lexical memory since ledger (callFirst call arguments kinds functions)
      (fun home => callFirst (watched home) arguments kinds functions) world
      (Eval.OnValue fun reply kept => reply.Idle kept since) := by
  induction functions generalizing world ledger with
  | nil => exact Eval.lexical_throw atHome
  | cons f rest ih =>
    have attempts {world : World σ} {ledger : Ledger} (atHome : world.AtHome memory since ledger)
        (count : Nat) : ({ world with attempts := count } : World σ).AtHome memory since ledger :=
      atHome.of_same rfl atHome.frames atHome.tree atHome.remembers fun _ _ inside => inside
    apply Eval.lexical_after (Eval.run_modify _ world) (.refl ledger) rfl
    have plain : (Command.function f).BelongsTo ledger since world.context.frames := trivial
    have begun := attempts atHome (world.attempts + 1)
    apply (calls.answered begun plain given kinds).outcome.bind
    intro outcome later after le afterHome frames idle
    apply Eval.lexical_after (Eval.run_modify _ after) (.refl later) rfl
    split
    · exact Eval.lexical_pure (attempts afterHome _) (idle _ rfl)
    · exact Eval.lexical_throw (attempts afterHome _)
    · exact ih (attempts afterHome _) (belong_later given le frames)

theorem payForLine_lexical (atHome : world.AtHome memory since ledger) :
    Eval.Lexical memory since ledger (payForLine : Eval σ Unit) (fun _ => payForLine) world
      (Eval.OnValue fun _ _ => True) := by
  apply Eval.lexical_after (Eval.run_get world) (.refl ledger) rfl
  cases world.context.budget.take? 1 with
  | none => exact Eval.lexical_throw atHome
  | some budget =>
    exact Eval.lexical_of_run (Eval.run_modify _ world) (.refl ledger)
      (atHome.withContext atHome.frames) rfl (Eval.onValue_ok trivial)

/-- A stored line finds the arguments in its frame, and they are at home where it was called. -/
theorem callStored_lexical (calls : call.Lexical memory since watched)
    (atHome : world.AtHome memory since ledger) {text : String} {body : Command}
    (belongs : (Command.stored text body).BelongsTo ledger since world.context.frames)
    (given : ∀ argument ∈ arguments, argument.BelongsTo ledger since world.context.frames)
    (kinds : List Kind) :
    Eval.Lexical memory since ledger (callStored call text body arguments kinds)
      (fun home => callStored (watched home) text body arguments kinds) world
      (Eval.OnValue fun reply kept => reply.Idle kept since) := by
  apply (payForLine_lexical atHome).bind
  intro _ later paid le paidHome frames _
  have grown := later.le_grow arguments.length paid.context.frames
  apply Eval.lexical_after (Eval.run_share arguments paid) grown rfl
  have opened := paidHome.grow arguments.length
  have fits := fits_sharedFrom (belong_later given le frames)
  apply Eval.lexical_after (Eval.run_modify _ (paid.grow arguments.length)) (.refl _) rfl
  apply Eval.Lexical.inner
  have idle : body.Idle ledger.kept since := belongs
  refine calls.answered ?_ (.of_idle ((idle.mono le.kept).mono grown.kept)) (List.forall_mem_nil _)
    kinds
  refine (opened.record fun _ _ => Event.noConfusion).withContext ⟨?_, opened.frames⟩
  rw [← paidHome.made]
  exact fits

/-- A command that runs at most once runs at home. -/
theorem settle_lexical (calls : call.Lexical memory since watched)
    (atHome : world.AtHome memory since ledger) {cell : Nat} {inner : Command}
    (belongs : (Command.lazy cell inner).BelongsTo ledger since world.context.frames)
    (given : ∀ argument ∈ arguments, argument.BelongsTo ledger since world.context.frames)
    (kinds : List Kind) :
    Eval.Lexical memory since ledger (settle call cell inner arguments kinds)
      (fun home => settle (watched home) cell inner arguments kinds) world
      (Eval.OnValue fun outcome kept => ∀ reply, outcome = .ok reply → reply.Idle kept since) := by
  intro result last ends
  rw [run_settle] at ends
  cases unsettled : world.kept? cell with
  | some outcome =>
    rw [unsettled] at ends
    cases ends
    refine ⟨ledger, .refl ledger, atHome, rfl, Eval.onValue_ok ?_, fun home _ => ?_⟩
    · rintro reply rfl
      exact atHome.replies cell reply unsettled
    · rw [run_settle, unsettled]
  | none =>
    rw [unsettled] at ends
    obtain ⟨⟨outcome, after⟩, runs, same⟩ := Option.map_eq_some_iff.1 ends
    cases same
    have isOpen : ledger.kept cell = false := by
      rw [atHome.kept]
      exact World.isKept_eq_false unsettled
    obtain ⟨home, inside⟩ := belongs isOpen
    obtain ⟨later, le, afterHome, frames, ⟨idle, _⟩, watches⟩ :=
      calls ledger _ inner arguments kinds (atHome.begin home) inside given _ _ runs
    have stays : ∀ other, later.kept other = true → (after.keep cell outcome).isKept other = true := by
      intro other kept
      rw [afterHome.kept] at kept
      exact World.isKept_keep after cell other outcome kept
    refine ⟨_, le.trans (Ledger.le_keeping stays), afterHome.keep cell idle, frames,
      Eval.onValue_ok ?_, fun home agrees => ?_⟩
    · exact fun reply answered => (idle reply answered).mono stays
    · have watching := watches home agrees
      dsimp only at watching
      rw [run_settle, unsettled]
      dsimp only
      rw [watching]
      rfl

theorem callLazy_lexical (calls : call.Lexical memory since watched)
    (atHome : world.AtHome memory since ledger) {cell : Nat} {inner : Command}
    (belongs : (Command.lazy cell inner).BelongsTo ledger since world.context.frames)
    (given : ∀ argument ∈ arguments, argument.BelongsTo ledger since world.context.frames)
    (kinds : List Kind) :
    Eval.Lexical memory since ledger (callLazy call cell inner arguments kinds)
      (fun home => callLazy (watched home) cell inner arguments kinds) world
      (Eval.OnValue fun reply kept => reply.Idle kept since) := by
  apply (settle_lexical calls atHome belongs given kinds).bind
  intro outcome later after le afterHome _ idle
  have answered : Eval.Lexical memory since later (Eval.ofExcept outcome)
      (fun _ => Eval.ofExcept outcome) after
      (Eval.OnValue fun reply kept => reply.Idle kept since) :=
    Eval.lexical_ofExcept afterHome idle
  apply answered.bind
  intro reply lastly last more lastHome _ idle
  split
  · exact Eval.lexical_pure lastHome idle
  · apply Eval.lexical_after (Eval.run_get last) (.refl lastly) rfl
    exact Eval.lexical_throw lastHome

theorem dispatch_lexical (calls : call.Lexical memory since watched)
    (atHome : world.AtHome memory since ledger) (id : Nat) (name : String)
    (given : ∀ argument ∈ arguments, argument.BelongsTo ledger since world.context.frames)
    (kinds : List Kind) :
    Eval.Lexical memory since ledger (dispatch call id name arguments kinds)
      (fun home => dispatch (watched home) id name arguments kinds) world
      (Eval.OnValue fun reply kept => reply.Idle kept since) := by
  apply Eval.lexical_after (Eval.run_get world) (.refl ledger) rfl
  cases found : (world.bot.groups.children id).resolve name with
  | error error => exact Eval.lexical_throw atHome
  | ok child =>
    obtain ⟨full, node⟩ := child
    apply Eval.lexical_after (Eval.run_ofExcept (.ok (full, node)) world) (.refl ledger) rfl
    have idle := Node.idle_command ((atHome.tree.children id).of_resolve found)
    exact calls.answered atHome (.of_idle idle) given kinds

theorem callGroupAlone_lexical (calls : call.Lexical memory since watched)
    (atHome : world.AtHome memory since ledger) (id : Nat) (kinds : List Kind) :
    Eval.Lexical memory since ledger (callGroupAlone call id kinds)
      (fun home => callGroupAlone (watched home) id kinds) world
      (Eval.OnValue fun reply kept => reply.Idle kept since) := by
  unfold callGroupAlone
  split
  · apply Eval.lexical_pure atHome
    intro command same
    cases same
    exact fun cell impossible => impossible
  · apply Eval.lexical_after (Eval.run_get world) (.refl ledger) rfl
    cases found : (world.bot.groups.children id).get? "" with
    | none => exact Eval.lexical_throw atHome
    | some node =>
      have idle := Node.idle_command ((atHome.tree.children id).of_get? found).2
      exact calls.answered atHome (.of_idle idle) (List.forall_mem_nil _) kinds

theorem callGroup_lexical (calls : call.Lexical memory since watched)
    (atHome : world.AtHome memory since ledger) (id : Nat)
    (given : ∀ argument ∈ arguments, argument.BelongsTo ledger since world.context.frames)
    (kinds : List Kind) :
    Eval.Lexical memory since ledger (callGroup call id arguments kinds)
      (fun home => callGroup (watched home) id arguments kinds) world
      (Eval.OnValue fun reply kept => reply.Idle kept since) := by
  cases arguments with
  | nil => exact callGroupAlone_lexical calls atHome id kinds
  | cons first rest =>
    obtain ⟨here, others⟩ := List.forall_mem_cons.1 given
    apply (Eval.text_lexical calls atHome here).bind
    intro name later after le afterHome frames _
    exact dispatch_lexical calls afterHome id name (belong_later others le frames) kinds

/-- The entry of the tree may be answered a command, which waits for nothing. -/
theorem callRoot_lexical (calls : call.Lexical memory since watched)
    (atHome : world.AtHome memory since ledger)
    (given : ∀ argument ∈ arguments, argument.BelongsTo ledger since world.context.frames)
    (kinds : List Kind) :
    Eval.Lexical memory since ledger (callRoot call arguments kinds)
      (fun home => callRoot (watched home) arguments kinds) world
      (Eval.OnValue fun reply kept => reply.Idle kept since) := by
  cases arguments with
  | nil => exact callGroupAlone_lexical calls atHome Groups.topId kinds
  | cons first rest =>
    obtain ⟨here, others⟩ := List.forall_mem_cons.1 given
    apply (calls.answered atHome here (List.forall_mem_nil _) Kind.commandOrText).bind
    intro reply later after le afterHome frames idle
    have rest := belong_later others le frames
    split
    · exact calls.answered afterHome (.of_idle (idle _ rfl)) rest kinds
    · exact dispatch_lexical calls afterHome Groups.topId _ rest kinds
    · apply Eval.lexical_after (Eval.run_get after) (.refl later) rfl
      exact Eval.lexical_throw afterHome

theorem callForeign_lexical (isLocal : host.Local memory since)
    (calls : call.Lexical memory since watched) (lines : line.Lexical memory since watchedLine)
    (atHome : world.AtHome memory since ledger) (label : String) (index : Nat)
    (given : ∀ argument ∈ arguments, argument.BelongsTo ledger since world.context.frames)
    (kinds : List Kind) :
    Eval.Lexical memory since ledger (callForeign host call line label index arguments kinds)
      (fun home => callForeign host (watched home) (watchedLine home) label index arguments kinds) world
      (Eval.OnValue fun reply kept => reply.Idle kept since) := by
  unfold callForeign
  split
  · rename_i code found
    have runs : (code arguments kinds).Local memory since arguments
        (world.context.frames.headD []) world.context.frames
        (fun kept outcome => ∀ reply, outcome = .ok reply → reply.Idle kept since) ledger.kept :=
      (isLocal.foreign index code kinds ledger.kept arguments world.context.frames found).weaken
        (fun _ _ idle => idle) (List.forall_mem_nil _)
    apply (Program.run_lexical calls lines _ atHome rfl given runs).bind
    intro outcome later after le afterHome _ idle
    exact Eval.lexical_ofExcept afterHome idle
  · exact Eval.lexical_throw atHome

/-- A step runs cells at home if the calls and the texts that it runs do. -/
theorem step_lexical (isLocal : host.Local memory since)
    (calls : call.Lexical memory since watched) (lines : line.Lexical memory since watchedLine)
    (atHome : world.AtHome memory since ledger)
    {command : Command} (belongs : command.BelongsTo ledger since world.context.frames)
    (given : ∀ argument ∈ arguments, argument.BelongsTo ledger since world.context.frames)
    (kinds : List Kind) :
    Eval.Lexical memory since ledger (step host call line command arguments kinds)
      (fun home => step host (watched home) (watchedLine home) command arguments kinds) world
      (Eval.OnValue fun reply kept => reply.Idle kept since) := by
  cases command with
  | literal text =>
    apply Eval.lexical_ofExcept atHome
    unfold callLiteral
    intro reply answered command same
    split at answered
    · cases answered
      cases same
    · cases answered
  | function f => exact callFunction_lexical isLocal calls lines atHome given f kinds
  | documented command =>
    exact callFunction_lexical isLocal calls lines atHome given command.function kinds
  | overloads set =>
    apply Eval.lexical_after (Eval.run_share arguments world)
      (ledger.le_grow arguments.length world.context.frames) rfl
    exact callFirst_lexical calls (atHome.grow arguments.length) (belong_sharedFrom atHome given)
      kinds set.functions
  | stored text body => exact callStored_lexical calls atHome belongs given kinds
  | lazy cell inner => exact callLazy_lexical calls atHome belongs given kinds
  | applied callee bound =>
    refine calls.answered atHome belongs.1 ?_ kinds
    exact List.forall_mem_append.2 ⟨allBelong_iff.1 belongs.2, given⟩
  | group id => exact callGroup_lexical calls atHome id given kinds
  | root => exact callRoot_lexical calls atHome given kinds
  | orphan => exact Eval.lexical_throw atHome
  | foreign label index =>
    exact callForeign_lexical isLocal calls lines atHome label index given kinds

theorem callLine_lexical (calls : call.Lexical memory since watched) :
    (callLine call).Lexical memory since fun home => callLine (watched home) := by
  intro ledger world text kinds atHome
  unfold callLine
  beta_reduce
  cases meant : (Expr.read text).toCommand with
  | error error => exact Eval.lexical_throw atHome
  | ok command =>
    apply Eval.lexical_after (Eval.run_ofExcept (.ok command) world) (.refl ledger) rfl
    exact calls.answered atHome (.of_idle (Expr.idle_toCommand meant ledger.kept since))
      (List.forall_mem_nil _) kinds

/-- Every call runs cells at home, if its parts belong to the frames. Under watch it goes the same
way, because the arguments of every line that runs are at home around it. -/
theorem run_lexical (isLocal : host.Local memory since) (depth : Nat) :
    (run host depth).Lexical memory since fun home =>
      runWhere (fun world _ _ => world.Framed home since) host depth := by
  induction depth with
  | zero =>
    intro ledger world command arguments kinds atHome belongs given result after runs
    cases runs
  | succ depth ih =>
    intro ledger world command arguments kinds atHome belongs given result after runs
    have lexical :=
      (step_lexical isLocal ih (callLine_lexical ih) atHome belongs given kinds).recorded
    obtain ⟨later, le, afterHome, frames, idle, watches⟩ := lexical result after runs
    refine ⟨later, le, afterHome, frames, ⟨idle, ?_⟩, fun home agrees => ?_⟩
    · rintro cell inner rfl
      rw [afterHome.kept]
      exact isKept_of_run runs (atHome.lt_size belongs)
    · have framed : world.Framed home since := atHome.framed (agrees.before le)
      exact (Eval.run_provided _ framed).trans (watches home agrees)

end Evaluate

end Step

end ChatLine
