import ChatLine.Proofs.Calls.Binding
import ChatLine.Proofs.Calls.Kinds
import ChatLine.Proofs.Line.Meaning
import ChatLine.Proofs.Sharing.Safe

set_option autoImplicit false

namespace ChatLine

variable {σ α : Type}

open Command

theorem Expr.idle_toCommand {expr : Expr} {command : Command} (meant : expr.toCommand = .ok command)
    (kept : Nat → Bool) (since : Nat) : command.Idle kept since := by
  apply Expr.toCommand_induction _ _ meant
  · exact fun text cell impossible => impossible
  · rintro bound idle cell (impossible | waits)
    · exact impossible
    · obtain ⟨command, inside, waits⟩ := anyWaits_iff.1 waits
      exact idle command inside cell waits

theorem Command.idle_ofLine {text : String} {command : Command}
    (meant : Command.ofLine text = .ok command) (kept : Nat → Bool) (since : Nat) :
    command.Idle kept since := by
  obtain ⟨body, said, rfl⟩ := Command.ofLine_eq_ok_iff.1 meant
  exact Expr.idle_toCommand said kept since

/-- The calls keep a world in order if their parts are apart. What they answer waits for nothing, and
a command that runs at most once has run. -/
def Caller.Safe (memory : σ → List Command) (since : Nat) (call : Caller σ) : Prop :=
  ∀ busy world command arguments kinds, world.Orderly memory since busy →
    Apart world.isKept since (world.Free busy) ([command] :: arguments :: world.context.frames) →
      Eval.Safe memory since busy (call command arguments kinds) world fun result kept =>
        Eval.OnValue (fun reply kept => reply.Idle kept since) result kept ∧ command.Ran kept

/-- The texts that run as command lines keep a world in order if the frames are apart. -/
def LineCaller.Safe (memory : σ → List Command) (since : Nat) (line : LineCaller σ) : Prop :=
  ∀ busy world text kinds, world.Orderly memory since busy →
    Apart world.isKept since (world.Free busy) world.context.frames →
      Eval.Safe memory since busy (line text kinds) world
        (Eval.OnValue fun reply kept => reply.Idle kept since)

section Step

variable {memory : σ → List Command} {since : Nat} {busy : Nat → Prop} {host : Host σ}
  {call : Caller σ} {line : LineCaller σ} {world : World σ}

theorem Caller.Safe.answered (calls : call.Safe memory since)
    (orderly : world.Orderly memory since busy) {command : Command} {arguments : List Command}
    (apart : Apart world.isKept since (world.Free busy)
      ([command] :: arguments :: world.context.frames)) (kinds : List Kind) :
    Eval.Safe memory since busy (call command arguments kinds) world
      (Eval.OnValue fun reply kept => reply.Idle kept since) :=
  (calls busy world command arguments kinds orderly apart).weaken fun _ _ both => both.1

theorem Eval.text_safe (calls : call.Safe memory since) (orderly : world.Orderly memory since busy)
    {command : Command} (apart : Apart world.isKept since (world.Free busy)
      ([command] :: [] :: world.context.frames)) :
    Eval.Safe memory since busy (Eval.text call command) world
      (Eval.OnValue fun _ kept => command.Ran kept) := by
  have ran : Eval.Safe memory since busy (call command [] [.string]) world
      (Eval.OnValue fun _ kept => command.Ran kept) :=
    (calls busy world command [] [.string] orderly apart).weaken fun _ _ both _ _ => both.2
  apply ran.bind
  intro reply after goes ran
  apply Eval.safe_after (Eval.run_get after) goes.orderly.goes
  exact Eval.safe_ofExcept goes.orderly fun _ _ => ran

theorem Eval.texts_safe (calls : call.Safe memory since)
    (orderly : world.Orderly memory since busy) {commands arguments : List Command}
    (apart : Apart world.isKept since (world.Free busy) (arguments :: world.context.frames))
    (among : ∀ command ∈ commands, command ∈ arguments) :
    Eval.Safe memory since busy (Eval.texts call commands) world
      (Eval.OnValue fun _ kept => ∀ command ∈ commands, command.Ran kept) := by
  induction commands generalizing world with
  | nil => exact Eval.safe_pure orderly (List.forall_mem_nil _)
  | cons command rest ih =>
    obtain ⟨here, others⟩ := List.forall_mem_cons.1 among
    apply (Eval.text_safe calls orderly (apart.alone here)).bind
    intro text after goes ran
    apply (ih goes.orderly (goes.apart [arguments] apart) others).bind
    intro texts last later ranOthers
    exact Eval.safe_pure later.orderly (List.forall_mem_cons.2 ⟨ran.mono later.stays, ranOthers⟩)

/-- Binding evaluates arguments. Where a function could take more of them than it did, all have run. -/
theorem Function.bindFormals_safe (calls : call.Safe memory since)
    (orderly : world.Orderly memory since busy) {arguments : List Command}
    (apart : Apart world.isKept since (world.Free busy) (arguments :: world.context.frames))
    (f : Function) (kinds : List Kind) :
    Eval.Safe memory since busy (bindFormals call kinds arguments f.formals arguments) world
      (Eval.OnValue fun bound kept =>
        (∀ given, .arguments given ∈ bound.1 → given = arguments) ∧
          (f.hasTail = true ∨ arguments.length - bound.2.length < f.positionalCount →
            ∀ argument ∈ arguments, argument.Ran kept)) := by
  intro result after runs
  obtain ⟨used, left, bound⟩ := exists_bound f.formals arguments runs
  have among : ∀ command ∈ used, command ∈ arguments := by
    intro command inside
    rw [bound.parts]
    exact List.mem_append_left left inside
  obtain ⟨read, evaluated⟩ := bound.evaluated
  obtain ⟨goes, ran⟩ := Eval.texts_safe calls orderly apart among read after evaluated
  refine ⟨goes, ?_⟩
  rintro ⟨bindings, rest⟩ rfl
  refine ⟨bindFormals_own f.formals arguments world _ after runs _ rfl, ?_⟩
  intro more
  obtain ⟨nothingElse, _, texts, complete, _⟩ := bound.complete bindings rest rfl
  have all : arguments = used := by
    rw [bound.parts, ← nothingElse, bound.rest_eq_nil more, List.append_nil]
  rw [evaluated] at complete
  cases complete
  rw [all]
  exact ran texts rfl

/-- A world in order in which code runs that can know some free cells. -/
structure World.Admits (memory : σ → List Command) (since : Nat) (busy owned : Nat → Prop)
    (frames : Frames) (world : World σ) : Prop where
  orderly : world.Orderly memory since busy
  running : world.context.frames = frames
  free : ∀ cell, owned cell → world.Free busy cell
  apart : Apart world.isKept since (world.Free busy) frames

theorem World.Admits.later {owned : Nat → Prop} {frames : Frames} {after : World σ}
    (admits : world.Admits memory since busy owned frames)
    (goes : world.Goes memory since busy after) : after.Admits memory since busy owned frames where
  orderly := goes.orderly
  running := goes.frames.trans admits.running
  free := fun cell owns => goes.free cell (admits.free cell owns)
  apart := (admits.apart.mono goes.stays).weaken goes.free

/-- Discreet code keeps a world in order. -/
theorem Program.run_safe (calls : call.Safe memory since) (lines : line.Safe memory since)
    {owned : Nat → Prop} {frames : Frames} {post : (Nat → Bool) → α → Prop} (program : Program σ α)
    (admits : world.Admits memory since busy owned frames)
    (discreet : program.Discreet memory since owned frames post world.isKept) :
    Eval.Safe memory since busy (program.run call line) world
      (Eval.OnValue fun value kept => post kept value) := by
  have orderly := admits.orderly
  induction program generalizing world with
  | done value => exact Eval.safe_pure orderly discreet
  | call scopes command arguments kinds next ih =>
    have called : Eval.Safe memory since busy
        (Eval.inScopes scopes (call command arguments kinds)) world fun result kept =>
          Eval.OnValue (fun reply kept => reply.Idle kept since) result kept ∧
            command.Ran kept := by
      apply Eval.Safe.inScopes scopes orderly
      intro inside inOrder cells visible
      apply calls busy inside command arguments kinds inOrder
      rw [World.isKept_of_cells cells, World.free_of_cells cells, visible, admits.running]
      exact discreet.1.weaken admits.free
    apply called.outcome.bind
    rintro outcome after goes ⟨idle, ran⟩
    have rest := discreet.2 after.isKept outcome goes.stays ran idle
    exact ih outcome (admits.later goes) rest goes.orderly
  | line text kinds next ih =>
    have answered := lines busy world text kinds orderly (admits.running ▸ admits.apart)
    apply answered.outcome.bind
    intro outcome after goes idle
    exact ih outcome (admits.later goes) (discreet after.isKept outcome goes.stays idle) goes.orderly
  | look next ih =>
    apply Eval.safe_after (Eval.run_get world) orderly.goes
    exact ih _ _ admits (discreet _ _ orderly.tree admits.running) orderly
  | spend tokens next ih =>
    apply Eval.safe_after (Eval.run_get world) orderly.goes
    cases world.context.budget.take? tokens with
    | none => exact ih false admits (discreet false) orderly
    | some budget =>
      have goes : world.Goes memory since busy
          { world with context := { world.context with budget := budget } } :=
        orderly.goes_of_quiet ⟨rfl, rfl, fun _ => rfl⟩ rfl rfl
      apply Eval.safe_after (Eval.run_modify _ world) goes
      exact ih true (admits.later goes) (discreet true) goes.orderly
  | administrator next ih =>
    apply Eval.safe_after (Eval.run_get world) orderly.goes
    have goes : world.Goes memory since busy { world with context :=
        { world.context with administrator := world.context.administrator.ask.2 } } :=
      orderly.goes_of_quiet ⟨rfl, rfl, fun _ => rfl⟩ rfl rfl
    apply Eval.safe_after (Eval.run_modify _ world) goes
    exact ih _ (admits.later goes) (discreet _) goes.orderly
  | draw low high next ih =>
    simp only [Program.run]
    apply Eval.safe_after (Eval.run_get world) orderly.goes
    generalize world.generator.draw low high = drawn
    obtain ⟨value, generator⟩ := drawn
    have goes : world.Goes memory since busy { world with generator := generator } :=
      orderly.goes_of_quiet ⟨rfl, rfl, fun _ => rfl⟩ rfl rfl
    apply Eval.safe_after (Eval.run_set world _) goes
    exact ih value (admits.later goes) (discreet value) goes.orderly
  | addAlias name text next ih =>
    have goes := orderly.goes_of_bot <| Bot.only_addAlias orderly.tree name text
      fun command meant => Command.idle_ofLine meant world.isKept since
    apply Eval.safe_after (Eval.run_update _ world) goes
    exact ih _ (admits.later goes) (discreet _) goes.orderly
  | removeAlias name next ih =>
    have goes := orderly.goes_of_bot (Bot.only_removeAlias orderly.tree name)
    apply Eval.safe_after (Eval.run_update _ world) goes
    exact ih _ (admits.later goes) (discreet _) goes.orderly
  | change update next ih =>
    obtain ⟨remembers, rest⟩ := discreet world.application orderly.remembers
    have goes : world.Goes memory since busy
        { world with application := update world.application } :=
      ⟨orderly.of_same rfl (fun _ => rfl) orderly.tree remembers,
        World.lasting_keeps.quiet ⟨rfl, rfl, fun _ => rfl⟩, rfl⟩
    apply Eval.safe_after (Eval.run_get world) orderly.goes
    apply Eval.safe_after (Eval.run_set world _) goes
    exact ih _ (admits.later goes) rest goes.orderly

namespace Evaluate

/-- The code of a function waits for nothing in what it hands back. -/
theorem invoke_safe (discreet : host.Discreet memory since) (calls : call.Safe memory since)
    (lines : line.Safe memory since) (orderly : world.Orderly memory since busy)
    {arguments : List Command}
    (apart : Apart world.isKept since (world.Free busy) (arguments :: world.context.frames))
    (shared : ∀ argument ∈ arguments, ∃ cell inner, argument = .lazy cell inner) (f : Function)
    {bindings : Bindings} (own : ∀ given, .arguments given ∈ bindings → given = arguments) :
    Eval.Safe memory since busy (invoke host call line f bindings) world
      (Eval.OnValue fun value kept => ∀ reply, value = .reply reply → reply.Idle kept since) := by
  have code := discreet.codeOf f.code (apart.weaken fun _ _ => trivial) shared own
  have admits : world.Admits memory since busy
      (waitingIn world.isKept since (arguments :: world.context.frames)) world.context.frames := by
    refine ⟨orderly, rfl, ?_, apart.tail⟩
    rintro cell ⟨part, inside, waits⟩
    exact apart.owned part inside cell waits
  apply (Program.run_safe calls lines _ admits code).bind
  intro result after goes idle
  cases result with
  | error failure => exact Eval.safe_throw goes.orderly
  | ok value => exact Eval.safe_pure goes.orderly fun reply same => idle reply (same ▸ rfl)

theorem callFunction_safe (discreet : host.Discreet memory since) (calls : call.Safe memory since)
    (lines : line.Safe memory since) (orderly : world.Orderly memory since busy)
    {arguments : List Command}
    (apart : Apart world.isKept since (world.Free busy) (arguments :: world.context.frames))
    (f : Function) (kinds : List Kind) :
    Eval.Safe memory since busy (callFunction host call line f arguments kinds) world
      (Eval.OnValue fun reply kept => reply.Idle kept since) := by
  have opened := orderly.grow arguments.length
  apply Eval.safe_after (Eval.run_share arguments world) opened
  have separate := orderly.apart_shared apart
  have inCells (argument : Command)
      (inside : argument ∈ sharedFrom world.cells.size arguments) := exists_of_mem_sharedFrom inside
  generalize sharedFrom world.cells.size arguments = shared at separate inCells ⊢
  apply (Function.bindFormals_safe calls opened.orderly separate f kinds).bind
  rintro ⟨bindings, rest⟩ after goes ⟨own, ran⟩
  have curried (more : f.hasTail = true ∨ shared.length - rest.length < f.positionalCount) :
      Eval.Safe memory since busy (pure (.command (f.curry shared)) : Eval σ Reply) after
        (Eval.OnValue fun reply kept => reply.Idle kept since) := by
    apply Eval.safe_pure goes.orderly
    intro command same
    cases same
    exact idle_curry f inCells (ran more)
  dsimp only
  split
  · rename_i fewer
    split
    · exact curried (.inr (Nat.lt_of_lt_of_le fewer f.required_le))
    · exact Eval.safe_throw goes.orderly
  · split
    · exact Eval.safe_throw goes.orderly
    · rename_i others first
      have among : Kind.command ∈ List.filter _ kinds := first ▸ List.mem_cons_self
      have more := (List.mem_filter.1 among).2
      rw [bne_self_eq_false, Bool.or_false, Bool.or_eq_true, decide_eq_true_eq] at more
      exact curried more
    · have invoked := invoke_safe discreet calls lines goes.orderly
        (goes.apart [shared] separate) inCells f own
      apply invoked.bind
      intro value last later idle
      apply Eval.safe_ofExcept later.orderly
      rintro reply delivered command rfl
      exact idle _ (eq_of_deliver_command delivered) command rfl

theorem callFirst_safe (calls : call.Safe memory since) (orderly : world.Orderly memory since busy)
    {arguments : List Command}
    (apart : Apart world.isKept since (world.Free busy) (arguments :: world.context.frames))
    (kinds : List Kind) (functions : List Function) :
    Eval.Safe memory since busy (callFirst call arguments kinds functions) world
      (Eval.OnValue fun reply kept => reply.Idle kept since) := by
  induction functions generalizing world with
  | nil => exact Eval.safe_throw orderly
  | cons f rest ih =>
    have attempts {world : World σ} (orderly : world.Orderly memory since busy) (count : Nat) :
        world.Goes memory since busy { world with attempts := count } :=
      orderly.goes_of_quiet ⟨rfl, rfl, fun _ => rfl⟩ rfl rfl
    have begun := attempts orderly (world.attempts + 1)
    apply Eval.safe_after (Eval.run_modify _ world) begun
    have separate := begun.apart [arguments] apart
    have nothing : ∀ command ∈ [Command.function f], command.Idle world.isKept since :=
      List.forall_mem_singleton.2 fun cell impossible => impossible
    have answered := calls.answered begun.orderly (separate.idle nothing) kinds
    apply answered.outcome.bind
    intro outcome after goes idle
    have ended := attempts goes.orderly (after.attempts - 1)
    apply Eval.safe_after (Eval.run_modify _ after) ended
    split
    · exact Eval.safe_pure ended.orderly (idle _ rfl)
    · exact Eval.safe_throw ended.orderly
    · exact ih ended.orderly (ended.apart [arguments] (goes.apart [arguments] separate))

theorem payForLine_safe (orderly : world.Orderly memory since busy) :
    Eval.Safe memory since busy (payForLine : Eval σ Unit) world
      (Eval.OnValue fun _ _ => True) := by
  apply Eval.safe_after (Eval.run_get world) orderly.goes
  cases world.context.budget.take? 1 with
  | none => exact Eval.safe_throw orderly
  | some budget =>
    apply Eval.safe_of_run (Eval.run_modify _ world)
    · exact orderly.goes_of_quiet ⟨rfl, rfl, fun _ => rfl⟩ rfl rfl
    · exact Eval.onValue_ok trivial

/-- A stored line finds shared arguments in its frame. -/
theorem callStored_safe (calls : call.Safe memory since) (orderly : world.Orderly memory since busy)
    {text : String} {body : Command} {arguments : List Command}
    (apart : Apart world.isKept since (world.Free busy)
      ([.stored text body] :: arguments :: world.context.frames)) (kinds : List Kind) :
    Eval.Safe memory since busy (callStored call text body arguments kinds) world
      (Eval.OnValue fun reply kept => reply.Idle kept since) := by
  apply (payForLine_safe orderly).bind
  intro _ paid goes _
  have bodyApart : Apart paid.isKept since (paid.Free busy)
      ([body] :: arguments :: paid.context.frames) := by
    have parts := goes.apart [[.stored text body], arguments] apart
    have sound : (Command.stored text body).Sound paid.isKept since :=
      parts.sound _ List.mem_cons_self _ List.mem_cons_self
    exact parts.replace (List.forall_mem_singleton.2 sound) fun cell waits => waits
  have opened := goes.orderly.grow arguments.length
  apply Eval.safe_after (Eval.run_share arguments paid) opened
  have separate := (goes.orderly.apart_shared bodyApart.swap).swap
  have entered : (paid.grow arguments.length).Goes memory since busy
      ((paid.grow arguments.length).record (.entered text)) :=
    opened.orderly.goes_of_quiet (World.quiet_record _ fun _ => rfl) rfl rfl
  apply Eval.safe_after (Eval.run_modify _ (paid.grow arguments.length)) entered
  apply Eval.Safe.inScopes [.inner _] entered.orderly
  intro inside inOrder cells visible
  apply calls.answered inOrder
  rw [World.isKept_of_cells cells, World.free_of_cells cells, visible]
  exact separate.nothing.swap

/-- A command that runs at most once is busy while it runs. -/
theorem settle_safe (calls : call.Safe memory since) (orderly : world.Orderly memory since busy)
    {cell : Nat} {inner : Command} {arguments : List Command}
    (apart : Apart world.isKept since (world.Free busy)
      ([.lazy cell inner] :: arguments :: world.context.frames)) (kinds : List Kind) :
    Eval.Safe memory since busy (settle call cell inner arguments kinds) world
      (Eval.OnValue fun outcome kept => ∀ reply, outcome = .ok reply → reply.Idle kept since) := by
  intro result last ends
  rw [run_settle] at ends
  cases unsettled : world.kept? cell with
  | some outcome =>
    rw [unsettled] at ends
    cases ends
    refine ⟨orderly.goes, Eval.onValue_ok ?_⟩
    rintro reply rfl
    exact orderly.replies cell reply unsettled
  | none =>
    rw [unsettled] at ends
    obtain ⟨⟨outcome, after⟩, runs, same⟩ := Option.map_eq_some_iff.1 ends
    cases same
    have open_ := World.isKept_eq_false unsettled
    have own (young : since ≤ cell) :
        AnyWaits world.isKept since cell [Command.lazy cell inner] :=
      .inl ⟨open_, .inl ⟨young, rfl⟩⟩
    have begun := orderly.begin (fun young => (apart.separate (own young)).1) open_
      world.context.frames
    obtain ⟨notInside, sound⟩ :=
      apart.sound [.lazy cell inner] List.mem_cons_self _ List.mem_cons_self open_
    have inner_apart : Apart world.isKept since (world.Free busy)
        ([inner] :: arguments :: world.context.frames) := by
      apply apart.replace (List.forall_mem_singleton.2 sound)
      intro other waits
      exact .inl ⟨open_, .inr (anyWaits_singleton.1 waits)⟩
    -- The cell waits neither inside itself nor in the other parts, so being busy is no harm.
    have parts : Apart world.isKept since
        (world.Free fun other => busy other ∨ since ≤ cell ∧ other = cell)
        ([inner] :: arguments :: world.context.frames) := by
      apply inner_apart.claim
      intro part among other waits
      obtain ⟨inside, idle⟩ := inner_apart.owned part among other waits
      refine ⟨inside, ?_⟩
      rintro (runs | ⟨young, rfl⟩)
      · exact idle runs
      · rcases List.mem_cons.1 among with rfl | others
        · exact notInside (anyWaits_singleton.1 waits)
        · exact (apart.separate (own young)).2 part others waits
    obtain ⟨goes, idle, _⟩ := calls _ _ inner arguments kinds begun parts _ _ runs
    have inside : cell < after.cells.size :=
      Nat.lt_of_lt_of_le (orderly.lt_size apart) goes.keeps.size
    refine ⟨⟨goes.orderly.keep idle inside, ?_, goes.frames⟩, Eval.onValue_ok ?_⟩
    · exact World.lasting_keeps.keep outcome unsettled goes.keeps
    · intro reply answered
      exact (idle reply answered).mono fun other => World.isKept_keep after cell other outcome

theorem callLazy_safe (calls : call.Safe memory since) (orderly : world.Orderly memory since busy)
    {cell : Nat} {inner : Command} {arguments : List Command}
    (apart : Apart world.isKept since (world.Free busy)
      ([.lazy cell inner] :: arguments :: world.context.frames)) (kinds : List Kind) :
    Eval.Safe memory since busy (callLazy call cell inner arguments kinds) world
      (Eval.OnValue fun reply kept => reply.Idle kept since) := by
  apply (settle_safe calls orderly apart kinds).bind
  intro outcome after goes idle
  have answered : Eval.Safe memory since busy (Eval.ofExcept outcome) after
      (Eval.OnValue fun reply kept => reply.Idle kept since) :=
    Eval.safe_ofExcept goes.orderly idle
  apply answered.bind
  intro reply last later idle
  split
  · exact Eval.safe_pure later.orderly idle
  · apply Eval.safe_after (Eval.run_get last) later.orderly.goes
    exact Eval.safe_throw later.orderly

theorem Node.idle_command {kept : Nat → Bool} {node : Node}
    (only : node.Only (Command.Idle kept since)) : node.command.Idle kept since := by
  cases node with
  | leaf command => exact only
  | group id below => exact fun cell impossible => impossible

theorem dispatch_safe (calls : call.Safe memory since) (orderly : world.Orderly memory since busy)
    (id : Nat) (name : String) {arguments : List Command}
    (apart : Apart world.isKept since (world.Free busy) (arguments :: world.context.frames))
    (kinds : List Kind) :
    Eval.Safe memory since busy (dispatch call id name arguments kinds) world
      (Eval.OnValue fun reply kept => reply.Idle kept since) := by
  apply Eval.safe_after (Eval.run_get world) orderly.goes
  cases found : (world.bot.groups.children id).resolve name with
  | error error => exact Eval.safe_throw orderly
  | ok child =>
    obtain ⟨full, node⟩ := child
    apply Eval.safe_after (Eval.run_ofExcept (.ok (full, node)) world) orderly.goes
    have idle := Node.idle_command ((orderly.tree.children id).of_resolve found)
    exact calls.answered orderly (apart.idle (List.forall_mem_singleton.2 idle)) kinds

theorem callGroupAlone_safe (calls : call.Safe memory since)
    (orderly : world.Orderly memory since busy) (id : Nat) (kinds : List Kind)
    (apart : Apart world.isKept since (world.Free busy) world.context.frames) :
    Eval.Safe memory since busy (callGroupAlone call id kinds) world
      (Eval.OnValue fun reply kept => reply.Idle kept since) := by
  unfold callGroupAlone
  split
  · apply Eval.safe_pure orderly
    intro command same
    cases same
    exact fun cell impossible => impossible
  · apply Eval.safe_after (Eval.run_get world) orderly.goes
    cases found : (world.bot.groups.children id).get? "" with
    | none => exact Eval.safe_throw orderly
    | some node =>
      have idle := Node.idle_command ((orderly.tree.children id).of_get? found).2
      exact calls.answered orderly (apart.nothing.idle (List.forall_mem_singleton.2 idle)) kinds

theorem callGroup_safe (calls : call.Safe memory since) (orderly : world.Orderly memory since busy)
    (id : Nat) {arguments : List Command}
    (apart : Apart world.isKept since (world.Free busy) (arguments :: world.context.frames))
    (kinds : List Kind) :
    Eval.Safe memory since busy (callGroup call id arguments kinds) world
      (Eval.OnValue fun reply kept => reply.Idle kept since) := by
  cases arguments with
  | nil => exact callGroupAlone_safe calls orderly id kinds apart.tail
  | cons first rest =>
    apply (Eval.text_safe calls orderly (apart.alone List.mem_cons_self)).bind
    intro name after goes _
    have others := (goes.apart [first :: rest] apart).subset fun _ => List.mem_cons_of_mem first
    exact dispatch_safe calls goes.orderly id name others kinds

theorem callRoot_safe (calls : call.Safe memory since) (orderly : world.Orderly memory since busy)
    {arguments : List Command}
    (apart : Apart world.isKept since (world.Free busy) (arguments :: world.context.frames))
    (kinds : List Kind) :
    Eval.Safe memory since busy (callRoot call arguments kinds) world
      (Eval.OnValue fun reply kept => reply.Idle kept since) := by
  cases arguments with
  | nil => exact callGroupAlone_safe calls orderly Groups.topId kinds apart.tail
  | cons first rest =>
    apply (calls.answered orderly (apart.alone List.mem_cons_self) Kind.commandOrText).bind
    intro reply after goes idle
    have others := (goes.apart [first :: rest] apart).subset fun _ => List.mem_cons_of_mem first
    split
    · have nothing := List.forall_mem_singleton.2 (idle _ rfl)
      exact calls.answered goes.orderly (others.idle nothing) kinds
    · exact dispatch_safe calls goes.orderly Groups.topId _ others kinds
    · apply Eval.safe_after (Eval.run_get after) goes.orderly.goes
      exact Eval.safe_throw goes.orderly

theorem callForeign_safe (discreet : host.Discreet memory since) (calls : call.Safe memory since)
    (lines : line.Safe memory since) (orderly : world.Orderly memory since busy) (label : String)
    (index : Nat) {arguments : List Command}
    (apart : Apart world.isKept since (world.Free busy) (arguments :: world.context.frames))
    (kinds : List Kind) :
    Eval.Safe memory since busy (callForeign host call line label index arguments kinds) world
      (Eval.OnValue fun reply kept => reply.Idle kept since) := by
  unfold callForeign
  split
  · rename_i code found
    have runs := discreet.foreign index code kinds _ arguments _ found
      (apart.weaken fun _ _ => trivial)
    have admits : world.Admits memory since busy
        (waitingIn world.isKept since (arguments :: world.context.frames))
        world.context.frames := by
      refine ⟨orderly, rfl, ?_, apart.tail⟩
      rintro cell ⟨part, inside, waits⟩
      exact apart.owned part inside cell waits
    apply (Program.run_safe calls lines _ admits runs).bind
    intro outcome after goes idle
    exact Eval.safe_ofExcept goes.orderly idle
  · exact Eval.safe_throw orderly

/-- A step keeps a world in order if the calls and the texts that it runs do. -/
theorem step_safe (discreet : host.Discreet memory since) (calls : call.Safe memory since)
    (lines : line.Safe memory since) (orderly : world.Orderly memory since busy)
    {command : Command} {arguments : List Command}
    (apart : Apart world.isKept since (world.Free busy)
      ([command] :: arguments :: world.context.frames)) (kinds : List Kind) :
    Eval.Safe memory since busy (step host call line command arguments kinds) world
      (Eval.OnValue fun reply kept => reply.Idle kept since) := by
  cases command with
  | literal text =>
    apply Eval.safe_ofExcept orderly
    unfold callLiteral
    intro reply answered command same
    split at answered
    · cases answered
      cases same
    · cases answered
  | function f => exact callFunction_safe discreet calls lines orderly apart.tail f kinds
  | documented command =>
    exact callFunction_safe discreet calls lines orderly apart.tail command.function kinds
  | overloads set =>
    have opened := orderly.grow arguments.length
    apply Eval.safe_after (Eval.run_share arguments world) opened
    exact callFirst_safe calls opened.orderly (orderly.apart_shared apart.tail) kinds set.functions
  | stored text body => exact callStored_safe calls orderly apart kinds
  | lazy cell inner => exact callLazy_safe calls orderly apart kinds
  | applied callee bound => exact calls.answered orderly apart.applied kinds
  | group id => exact callGroup_safe calls orderly id apart.tail kinds
  | root => exact callRoot_safe calls orderly apart.tail kinds
  | orphan => exact Eval.safe_throw orderly
  | foreign label index =>
    exact callForeign_safe discreet calls lines orderly label index apart.tail kinds

theorem callLine_safe (calls : call.Safe memory since) : (callLine call).Safe memory since := by
  intro busy world text kinds orderly apart
  unfold callLine
  cases meant : (Expr.read text).toCommand with
  | error error => exact Eval.safe_throw orderly
  | ok command =>
    apply Eval.safe_after (Eval.run_ofExcept (.ok command) world) orderly.goes
    have idle := Expr.idle_toCommand meant world.isKept since
    exact calls.answered orderly (apart.nothing.idle (List.forall_mem_singleton.2 idle)) kinds

/-- Every call keeps a world in order, if what waits is apart in it. -/
theorem run_safe (discreet : host.Discreet memory since) (depth : Nat) :
    (run host depth).Safe memory since := by
  induction depth with
  | zero =>
    intro busy world command arguments kinds orderly apart result after runs
    cases runs
  | succ depth ih =>
    intro busy world command arguments kinds orderly apart result after runs
    have safe := (step_safe discreet ih (callLine_safe ih) orderly apart kinds).recorded
    obtain ⟨goes, idle⟩ := safe result after runs
    refine ⟨goes, idle, ?_⟩
    rintro cell inner rfl
    exact isKept_of_run runs (orderly.lt_size apart)

end Evaluate

end Step

end ChatLine
