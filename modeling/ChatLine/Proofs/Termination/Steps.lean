import ChatLine.Proofs.Calls.Binding
import ChatLine.Proofs.Calls.Kinds
import ChatLine.Proofs.Termination.Running

set_option autoImplicit false

namespace ChatLine

variable {σ : Type}

/-- A command that runs at most once, in a cell that there is. -/
inductive Command.Shared (size : Nat) : Command → Prop
  | intro {cell : Nat} {inner : Command} (inside : cell < size) (ordinary : inner.Ordinary) :
    Shared size (.lazy cell inner)

theorem Command.Shared.ordinary {size : Nat} {command : Command} (shared : command.Shared size) :
    command.Ordinary := by
  obtain ⟨inside, ordinary⟩ := shared
  exact ordinary

theorem Command.Shared.mono {size larger : Nat} (grows : size ≤ larger) {command : Command}
    (shared : command.Shared size) : command.Shared larger := by
  obtain ⟨inside, ordinary⟩ := shared
  exact ⟨Nat.lt_of_lt_of_le inside grows, ordinary⟩

/-- Sharing commands leads to a later world, in which each of them costs one more at most. -/
theorem Eval.exists_shared {world : World σ} (tame : world.Tame) {commands : List Command}
    (ordinary : Command.AllOrdinary commands) :
    ∃ shared after, (Eval.share commands).run.run world = some (.ok shared, after) ∧
      world.Later after ∧ (∀ command ∈ shared, command.Shared after.cells.size) ∧
      shared.length = commands.length ∧
      Command.peakOf after.isKept shared ≤ Command.peakOf world.isKept commands + 1 := by
  induction commands generalizing world with
  | nil => exact ⟨[], world, rfl, tame.later, List.forall_mem_nil _, rfl, Nat.zero_le _⟩
  | cons command rest ih =>
    have added := tame.addLazy command
    obtain ⟨shared, after, runs, later, allShared, sameLength, peaks⟩ := ih added.tame ordinary.2
    refine ⟨.lazy world.cells.size command :: shared, after, ?_, added.trans later, ?_, ?_, ?_⟩
    · unfold share
      rw [run_bind, run_get]
      dsimp only
      rw [run_bind, run_set]
      dsimp only
      rw [run_bind, runs]
      rfl
    · refine List.forall_mem_cons.2 ⟨⟨?_, ordinary.1⟩, allShared⟩
      have grown := later.cells
      simp only [World.addLazy, World.addCell, Array.size_push] at grown
      omega
    · simp only [List.length_cons, sameLength]
    · have first := (added.trans later).cost_le command 0 0
      have others := added.peakOf_le rest
      simp only [Command.peakOf, Command.cost]
      split <;> omega

namespace Evaluate

section Arguments

variable {call : Nat → Caller σ} {tokens bound : Nat} {world : World σ}

/-- A world in which calls of some shared arguments come to an end. -/
structure CanBind (world : World σ) (tokens bound : Nat) (arguments : List Command) : Prop where
  tame : world.Tame
  spent : world.tokens ≤ tokens
  shared : ∀ argument ∈ arguments, argument.Shared world.cells.size
  peak : Command.peakOf world.isKept arguments + world.standing < bound

theorem CanBind.later {after : World σ} {arguments left : List Command}
    (canBind : CanBind world tokens bound arguments) (later : world.Later after)
    (fewer : ∀ argument ∈ left, argument ∈ arguments) : CanBind after tokens bound left := by
  refine ⟨later.tame, Nat.le_trans later.tokens canBind.spent, ?_, ?_⟩
  · intro argument inside
    exact (canBind.shared argument (fewer argument inside)).mono later.cells
  · have peaks : Command.peakOf after.isKept left ≤ Command.peakOf world.isKept arguments :=
      Command.peakOf_le fun argument inside =>
        Nat.le_trans (later.cost_le argument 0 0)
          (Command.cost_le_peakOf world.isKept (fewer argument inside))
    have stands := later.standing_le
    have before := canBind.peak
    omega

theorem text_ends (calls : CallsEnd call tokens bound) (tame : world.Tame)
    (spent : world.tokens ≤ tokens) {command : Command} (ordinary : command.Ordinary)
    (cheap : command.cost world.isKept 0 0 + world.standing < bound) :
    Eval.Ends (fun depth => Eval.text (call depth) command) world fun _ after =>
      command.Shared world.cells.size → command.HasRun after.isKept := by
  apply (calls command [] [.string] world ordinary trivial tame (.inr ⟨spent, cheap⟩)).bind
  intro reply after later answered
  refine Eval.ends_after rfl later.tame.later (Eval.ends_ofExcept later.tame ?_)
  intro _ _ shared
  obtain ⟨inside, ordinaryInner⟩ := shared
  exact ⟨_, answered.2 _ _ rfl inside, ordinaryInner⟩

theorem shared_text_ends (calls : CallsEnd call tokens bound) {command : Command}
    {rest : List Command} (canBind : CanBind world tokens bound (command :: rest)) :
    Eval.Ends (fun depth => Eval.text (call depth) command) world fun _ after =>
      command.HasRun after.isKept := by
  have shared := canBind.shared command List.mem_cons_self
  have cheap := Command.cost_le_peakOf world.isKept (List.mem_cons_self (a := command) (l := rest))
  have peak := canBind.peak
  exact (text_ends calls canBind.tame canBind.spent shared.ordinary (by omega)).weaken
    fun _ _ _ ran => ran shared

theorem texts_ends (calls : CallsEnd call tokens bound) {commands : List Command}
    (canBind : CanBind world tokens bound commands) :
    Eval.Ends (fun depth => Eval.texts (call depth) commands) world fun _ after =>
      ∀ command ∈ commands, command.HasRun after.isKept := by
  induction commands generalizing world with
  | nil => exact Eval.ends_pure canBind.tame (List.forall_mem_nil _)
  | cons command rest ih =>
    apply (shared_text_ends calls canBind).bind
    intro _ after later firstRan
    apply (ih (canBind.later later fun _ => List.mem_cons_of_mem _)).bind
    intro _ last laterRest restRan
    exact Eval.ends_pure laterRest.tame
      (List.forall_mem_cons.2 ⟨firstRan.mono laterRest.stays, restRan⟩)

/-- What binding formal parameters takes from the arguments has run. If anything is left, each
positional parameter took one argument, and there was no tail. -/
def Takes (formals : List Formal) (arguments left : List Command) (kept : Nat → Bool) : Prop :=
  ∃ used, arguments = used ++ left ∧ (∀ argument ∈ used, argument.HasRun kept) ∧
    (left ≠ [] → used.length = (Formal.positional formals).length ∧ Formal.tail ∉ formals)

theorem Takes.cons {formal : Formal} {formals : List Formal} {arguments middle left : List Command}
    {kept later : Nat → Bool} (stays : ∀ cell, kept cell = true → later cell = true)
    (first : Takes [formal] arguments middle kept) (others : Takes formals middle left later) :
    Takes (formal :: formals) arguments left later := by
  obtain ⟨usedFirst, rfl, ranFirst, fullFirst⟩ := first
  obtain ⟨used, rfl, ran, full⟩ := others
  refine ⟨usedFirst ++ used, (List.append_assoc _ _ _).symm, ?_, ?_⟩
  · exact List.forall_mem_append.2
      ⟨fun argument inside => (ranFirst argument inside).mono stays, ran⟩
  · intro remains
    obtain ⟨countFirst, noTailFirst⟩ := fullFirst (List.append_ne_nil_of_right_ne_nil _ remains)
    obtain ⟨count, noTail⟩ := full remains
    have parts : Formal.positional (formal :: formals) =
        Formal.positional [formal] ++ Formal.positional formals := by
      simp only [Formal.positional, ← List.filter_append, List.singleton_append]
    refine ⟨?_, ?_⟩
    · rw [List.length_append, countFirst, count, parts, List.length_append]
    · intro inside
      rcases List.mem_cons.1 inside with same | among
      · exact noTailFirst (same ▸ List.mem_singleton_self _)
      · exact noTail among

theorem takes_nothing {formal : Formal} (plain : formal.isPositional = false)
    (arguments : List Command) (kept : Nat → Bool) : Takes [formal] arguments arguments kept := by
  refine ⟨[], rfl, List.forall_mem_nil _, fun _ => ⟨?_, ?_⟩⟩
  · simp [Formal.positional, plain]
  · intro inside
    rw [List.mem_singleton] at inside
    subst inside
    cases plain

theorem bindFormal_ends (calls : CallsEnd call tokens bound) (kinds : List Kind)
    (all : List Command) (formal : Formal) {rest : List Command}
    (canBind : CanBind world tokens bound rest) :
    Eval.Ends (fun depth => Function.bindFormal (call depth) kinds all formal rest) world
      fun bound after => (∀ given, bound.1 = .arguments given → given = all) ∧
        Takes [formal] rest bound.2 after.isKept := by
  cases formal with
  | context =>
    exact Eval.ends_pure canBind.tame ⟨fun _ same => (nomatch same), takes_nothing rfl _ _⟩
  | arguments =>
    refine Eval.ends_pure canBind.tame ⟨?_, takes_nothing rfl _ _⟩
    intro given same
    cases same
    rfl
  | kinds => exact Eval.ends_pure canBind.tame ⟨fun _ same => (nomatch same), takes_nothing rfl _ _⟩
  | tail =>
    apply (texts_ends calls canBind).bind
    intro texts after later ran
    refine Eval.ends_pure later.tame ⟨fun _ same => (nomatch same), rest, ?_, ran, ?_⟩
    · rw [List.append_nil]
    · exact fun remains => absurd rfl remains
  | plain type =>
    cases rest with
    | nil =>
      refine Eval.ends_pure canBind.tame ⟨?_, [], rfl, List.forall_mem_nil _, ?_⟩
      · intro given same
        cases type <;> cases same
      · exact fun remains => absurd rfl remains
    | cons argument rest =>
      apply (shared_text_ends calls canBind).bind
      intro text after later ran
      have coerced : Eval.Ends (fun _ => Eval.ofExcept (Binding.coerce text type)) after
          fun binding _ => ∀ given, binding ≠ .arguments given :=
        Eval.ends_ofExcept later.tame fun _ found => Binding.coerce_ne_arguments found
      apply coerced.bind
      intro binding last laterRest noArguments
      refine Eval.ends_pure laterRest.tame ⟨fun given same => absurd same (noArguments given),
        [argument], rfl, ?_, fun _ => ⟨rfl, ?_⟩⟩
      · exact List.forall_mem_singleton.2 (ran.mono laterRest.stays)
      · exact fun inside => nomatch List.mem_singleton.1 inside

theorem bindFormals_ends (calls : CallsEnd call tokens bound) (kinds : List Kind)
    (all : List Command) (formals : List Formal) {rest : List Command}
    (canBind : CanBind world tokens bound rest) :
    Eval.Ends (fun depth => Function.bindFormals (call depth) kinds all formals rest) world
      fun bound after => (∀ given, .arguments given ∈ bound.1 → given = all) ∧
        Takes formals rest bound.2 after.isKept := by
  induction formals generalizing world rest with
  | nil =>
    refine Eval.ends_pure canBind.tame ⟨fun _ inside => (nomatch inside), [], rfl, ?_, ?_⟩
    · exact List.forall_mem_nil _
    · exact fun _ => ⟨rfl, List.not_mem_nil⟩
  | cons formal formals ih =>
    apply (bindFormal_ends calls kinds all formal canBind).bind
    intro first after later bound
    obtain ⟨binding, middle⟩ := first
    obtain ⟨own, takes⟩ := bound
    have remains : ∀ argument ∈ middle, argument ∈ rest := by
      obtain ⟨used, same, _⟩ := takes
      intro argument inside
      rw [same]
      exact List.mem_append_right used inside
    apply (ih (canBind.later later remains)).bind
    intro others last laterRest boundRest
    obtain ⟨bindings, left⟩ := others
    refine Eval.ends_pure laterRest.tame ⟨?_, ?_⟩
    · intro given inside
      rcases List.mem_cons.1 inside with same | among
      · exact own given same.symm
      · exact boundRest.1 given among
    · exact takes.cons laterRest.stays boundRest.2

end Arguments

/-- A function that takes fewer arguments than it could has taken all there are. -/
theorem Takes.all {f : Function} {arguments left : List Command} {kept : Nat → Bool}
    (takes : Takes f.formals arguments left kept)
    (more : f.hasTail = true ∨ arguments.length - left.length < f.positionalCount) :
    ∀ argument ∈ arguments, argument.HasRun kept := by
  obtain ⟨used, rfl, ran, full⟩ := takes
  have none_left : left = [] := by
    apply Classical.byContradiction
    intro remains
    obtain ⟨count, noTail⟩ := full remains
    rcases more with tail | fewer
    · exact noTail (List.contains_iff_mem.1 tail)
    · rw [List.length_append, count] at fewer
      unfold Function.positionalCount at fewer
      omega
  rw [none_left, List.append_nil]
  exact ran

theorem settled_curry {f : Function} (other : f.code ≠ .builtin .eval) {arguments : List Command}
    {kept : Nat → Bool} (ran : ∀ argument ∈ arguments, argument.HasRun kept) :
    (f.curry arguments).Settled kept := by
  unfold Function.curry
  split
  · exact other
  · exact ⟨other, ran⟩

/-- The built-in `eval` takes nothing away, so it is never given back with the arguments it has. -/
theorem not_eval_of_more {f : Function} (genuine : f.Genuine) {taken : Nat}
    (more : taken < f.required ∨ f.hasTail = true ∨ taken < f.positionalCount) :
    f.code ≠ .builtin .eval := by
  intro runsEval
  rw [genuine runsEval] at more
  rcases more with fewer | tail | fewer
  · exact Nat.not_lt_zero _ fewer
  · cases tail
  · exact Nat.not_lt_zero _ fewer

theorem settled_deliver {value : Value} {f : Function} {kinds : List Kind} {reply : Reply}
    {kept : Nat → Bool} (settled : ∀ complete, value = .reply complete → complete.Settled kept)
    (delivered : value.deliver f kinds = .ok reply) : reply.Settled kept := by
  rintro command rfl
  exact settled _ (eq_of_deliver_command delivered) command rfl

/-- The code of a function comes to an end, and hands back no command but a settled one. -/
theorem invoke_ends {host : Host σ} {call : Nat → Caller σ} {line : Nat → LineCaller σ}
    {tokens bound : Nat} {world : World σ} {arguments : List Command} (abides : host.Abides)
    (calls : CallsEnd call tokens bound) (lines : LinesEnd line) {f : Function}
    {bindings : Bindings}
    (affords : Affords world tokens bound arguments (decide (f.code = .builtin .eval)))
    (own : ∀ given, .arguments given ∈ bindings → given = arguments) :
    Eval.Ends (fun depth => invoke host (call depth) (line depth) f bindings) world
      fun value after => ∀ reply, value = .reply reply → reply.Settled after.isKept := by
  have code : (host.codeOf f.code bindings).Abides arguments world.context.frames
      (decide (f.code = .builtin .eval)) [] Value.Known := by
    cases same : f.code with
    | builtin builtin =>
      apply builtin.native_abides own
      intro isEval
      rw [isEval, decide_eq_true rfl]
    | host index =>
      have known := abides index arguments world.context.frames bindings own
      exact known
  apply (program_ends calls lines _ affords rfl (List.forall_mem_nil _) code).bind
  intro result after later ended
  obtain ⟨known, holds, settled⟩ := ended
  cases result with
  | error failure => exact Eval.ends_throw later.tame
  | ok value =>
    apply Eval.ends_pure later.tame
    intro reply same command answered
    exact settled command (holds value rfl reply same command answered)

/-- A function that is called comes to an end. -/
theorem callFunction_ends {host : Host σ} {call : Nat → Caller σ} {line : Nat → LineCaller σ}
    {bound : Nat} {world : World σ} {arguments : List Command} (abides : host.Abides)
    (calls : CallsEnd call world.tokens bound) (lines : LinesEnd line) {f : Function}
    (genuine : f.Genuine) (tame : world.Tame) (ordinary : Command.AllOrdinary arguments)
    (work : f.cost arguments.length (Command.peakOf world.isKept arguments) +
      world.standing ≤ bound)
    (kinds : List Kind) :
    Eval.Ends (fun depth => callFunction host (call depth) (line depth) f arguments kinds) world
      fun reply after => reply.Settled after.isKept := by
  obtain ⟨shared, after, runs, later, allShared, sameLength, peaks⟩ := Eval.exists_shared tame ordinary
  apply Eval.ends_after runs later
  have stands := later.standing_le
  have enough := f.lt_cost arguments.length (Command.peakOf world.isKept arguments)
  have canBind : CanBind after world.tokens bound shared :=
    ⟨later.tame, later.tokens, allShared, by omega⟩
  have affords : Affords after world.tokens bound shared (decide (f.code = .builtin .eval)) := by
    refine ⟨later.tame, later.tokens, ?_, canBind.peak, ?_⟩
    · exact Command.allOrdinary_iff.2 fun argument inside => (allShared argument inside).ordinary
    · intro isEval
      rw [decide_eq_true_eq] at isEval
      simp only [Function.cost, if_pos isEval] at work
      omega
  apply (bindFormals_ends calls kinds shared f.formals canBind).bind
  intro taken last laterBound binds
  obtain ⟨bindings, left⟩ := taken
  obtain ⟨own, takes⟩ := binds
  have curried : (shared.length - left.length < f.required ∨ f.hasTail = true ∨
      shared.length - left.length < f.positionalCount) →
      Eval.Ends (fun _ => (pure (.command (f.curry shared)) : Eval σ Reply)) last
        fun reply after => reply.Settled after.isKept := by
    intro more
    apply Eval.ends_pure laterBound.tame
    intro command same
    cases same
    refine settled_curry (not_eval_of_more genuine more) (takes.all ?_)
    rcases more with fewer | rest
    · exact .inr (Nat.lt_of_lt_of_le fewer f.required_le)
    · exact rest
  dsimp only
  split
  · rename_i fewer
    split
    · exact curried (.inl fewer)
    · exact Eval.ends_throw laterBound.tame
  · split
    · exact Eval.ends_throw laterBound.tame
    · rename_i others first
      have more :
          (f.hasTail || decide (shared.length - left.length < f.positionalCount)) = true := by
        have among : Kind.command ∈ List.filter _ kinds := first ▸ List.mem_cons_self
        simpa using (List.mem_filter.1 among).2
      rw [Bool.or_eq_true, decide_eq_true_eq] at more
      exact curried (.inr more)
    · apply (invoke_ends abides calls lines (affords.later laterBound) own).bind
      intro value final laterFinal settled
      exact Eval.ends_ofExcept laterFinal.tame fun reply delivered =>
        settled_deliver settled delivered

section Callees

variable {call : Nat → Caller σ} {tokens bound : Nat} {world : World σ} {arguments : List Command}

theorem callFirst_ends (calls : CallsEnd call tokens bound) (kinds : List Kind)
    {functions : List Function} (genuine : ∀ f ∈ functions, f.Genuine) (tame : world.Tame)
    (spent : world.tokens ≤ tokens) (ordinary : Command.AllOrdinary arguments)
    (peak : Command.peakOf world.isKept arguments + 5 * arguments.length + 2 +
      world.standing < bound) :
    Eval.Ends (fun depth => callFirst (call depth) arguments kinds functions) world
      fun reply after => reply.Settled after.isKept := by
  induction functions generalizing world with
  | nil => exact Eval.ends_throw tame
  | cons f rest ih =>
    obtain ⟨genuineFirst, genuineRest⟩ := List.forall_mem_cons.1 genuine
    have attempt {world : World σ} (tame : world.Tame) (attempts : Nat) :
        world.Later { world with attempts := attempts } :=
      tame.later_of_same rfl rfl rfl rfl
    have begun := attempt tame (world.attempts + 1)
    have less :
        ({ world with attempts := world.attempts + 1 } : World σ).work (.function f) arguments <
        bound := by
      have cheap := f.cost_le arguments.length (Command.peakOf world.isKept arguments)
      show f.cost arguments.length (Command.peakOf world.isKept arguments) + world.standing < bound
      omega
    apply Eval.ends_after rfl begun
    have ordinaryFirst : (Command.function f).Ordinary := genuineFirst
    have called := calls.settled ordinaryFirst ordinary begun.tame spent less kinds
    apply called.outcome.bind
    intro outcome after later answered
    have ended := attempt later.tame (after.attempts - 1)
    apply Eval.ends_after rfl ended
    split
    · rename_i reply
      exact Eval.ends_pure ended.tame (answered reply rfl)
    · exact Eval.ends_throw ended.tame
    · have sofar := (begun.trans later).trans ended
      have peaks := sofar.peakOf_le arguments
      have stands := sofar.standing_le
      have cheaper : Command.peakOf
          ({ after with attempts := after.attempts - 1 } : World σ).isKept arguments +
          5 * arguments.length + 2 +
          ({ after with attempts := after.attempts - 1 } : World σ).standing < bound := by omega
      exact ih genuineRest ended.tame (Nat.le_trans sofar.tokens spent) cheaper

theorem callOverloads_ends (calls : CallsEnd call world.tokens bound) {set : Overloads}
    (genuine : ∀ f ∈ set.functions, f.Genuine) (tame : world.Tame)
    (ordinary : Command.AllOrdinary arguments)
    (work : Command.peakOf world.isKept arguments + 5 * arguments.length + 4 +
      world.standing ≤ bound)
    (kinds : List Kind) :
    Eval.Ends (fun depth => callOverloads (call depth) set arguments kinds) world
      fun reply after => reply.Settled after.isKept := by
  obtain ⟨shared, after, runs, later, allShared, sameLength, peaks⟩ := Eval.exists_shared tame ordinary
  have stands := later.standing_le
  apply Eval.ends_after runs later
  refine callFirst_ends calls kinds genuine later.tame later.tokens ?_ (by omega)
  exact Command.allOrdinary_iff.2 fun argument inside => (allShared argument inside).ordinary

/-- Entering a stored line costs a token, so whatever it calls has fewer. -/
theorem payForLine_ends (tame : world.Tame) :
    Eval.Ends (fun _ => (payForLine : Eval σ Unit)) world fun _ after =>
      after.tokens < world.tokens := by
  apply Eval.ends_after rfl tame.later
  cases taken : world.context.budget.take? 1 with
  | none => exact Eval.ends_throw tame
  | some budget =>
    obtain ⟨later, fewer⟩ := tame.spend taken
    apply Eval.ends_of_run (fun _ => rfl) later
    intro _ _
    show budget.remaining.getD 0 < world.tokens
    omega

theorem callStored_ends (calls : CallsEnd call world.tokens bound) (text : String) {body : Command}
    (ordinaryBody : body.Ordinary) (tame : world.Tame) (ordinary : Command.AllOrdinary arguments)
    (kinds : List Kind) :
    Eval.Ends (fun depth => callStored (call depth) text body arguments kinds) world
      fun reply after => reply.Settled after.isKept := by
  apply (payForLine_ends tame).bind
  intro _ paid laterPaid fewer
  obtain ⟨frame, after, runs, later, allShared, _⟩ := Eval.exists_shared laterPaid.tame ordinary
  have recorded := later.tame.record (.entered text)
  refine Eval.ends_after runs later (Eval.ends_after rfl recorded ?_)
  have ordinaryFrame : Command.AllOrdinary frame :=
    Command.allOrdinary_iff.2 fun argument inside => (allShared argument inside).ordinary
  have inside : ({ after.record (.entered text) with
      context := (after.record (.entered text)).context.push frame } : World σ).Tame :=
    ⟨recorded.tame.limited, List.forall_mem_cons.2 ⟨ordinaryFrame, recorded.tame.frames⟩,
      recorded.tame.kept, recorded.tame.tree⟩
  have ended := (calls body [] kinds _ ordinaryBody trivial inside
    (.inl (Nat.lt_of_le_of_lt later.tokens fewer))).weaken
      fun reply after later answered => answered.1
  exact Eval.Ends.inner (fun (reply : Reply) kept => reply.Settled kept) recorded.tame ended

/-- What a command that runs at most once settles for is kept, if there is a cell for it. -/
theorem settle_ends (calls : CallsEnd call world.tokens bound) {cell : Nat} {inner : Command}
    (ordinaryInner : inner.Ordinary) (tame : world.Tame) (ordinary : Command.AllOrdinary arguments)
    (work : world.work (.lazy cell inner) arguments ≤ bound) (kinds : List Kind) :
    Eval.Ends (fun depth => settle (call depth) cell inner arguments kinds) world
      fun outcome after => (∀ reply, outcome = .ok reply → reply.Settled after.isKept) ∧
        (cell < world.cells.size → after.isKept cell = true) := by
  apply Eval.ends_after rfl tame.later
  cases found : world.kept? cell with
  | some outcome =>
    refine Eval.ends_pure tame ⟨?_, ?_⟩
    · intro reply same command answered
      subst same answered
      exact tame.kept cell command found
    · intro _
      simp only [World.isKept, found, Option.isSome_some]
  | none =>
    have recorded := tame.record (.evaluated cell world.context.frames)
    have missing : world.isKept cell = false := by
      simp only [World.isKept, found, Option.isSome_none]
    have less :
        (world.record (.evaluated cell world.context.frames)).work inner arguments < bound := by
      simp only [World.work, Command.cost, missing] at work
      show inner.cost world.isKept arguments.length (Command.peakOf world.isKept arguments) +
        world.standing < bound
      simp only [Bool.false_eq_true, if_false] at work
      omega
    apply Eval.ends_after rfl recorded
    refine (calls inner arguments kinds _ ordinaryInner ordinary recorded.tame
      (.inr ⟨Nat.le_refl _, less⟩)).outcome.bind ?_
    intro outcome after later answered
    have settled : ∀ command, outcome = .ok (.command command) → command.Settled after.isKept :=
      fun command same => (answered _ same).1 command rfl
    have kept := later.tame.keep cell settled
    refine Eval.ends_after rfl kept (Eval.ends_pure kept.tame ⟨?_, ?_⟩)
    · intro reply same
      exact (answered reply same).1.mono kept.stays
    · intro inside
      have within : cell < after.cells.size := Nat.lt_of_lt_of_le inside later.cells
      have stored : (after.keep cell outcome).kept? cell = some outcome := by
        rw [World.kept?_keep, if_pos ⟨rfl, within⟩]
      show (after.keep cell outcome).isKept cell = true
      simp only [World.isKept, stored, Option.isSome_some]

theorem callLazy_ends (calls : CallsEnd call world.tokens bound) {cell : Nat} {inner : Command}
    (ordinaryInner : inner.Ordinary) (tame : world.Tame) (ordinary : Command.AllOrdinary arguments)
    (work : world.work (.lazy cell inner) arguments ≤ bound) (kinds : List Kind) :
    Eval.Ends (fun depth => callLazy (call depth) cell inner arguments kinds) world
      (Answered (.lazy cell inner) world) := by
  apply (settle_ends calls ordinaryInner tame ordinary work kinds).bind
  intro outcome after later settled
  obtain ⟨replies, kept⟩ := settled
  cases outcome with
  | error error => exact Eval.ends_throw later.tame
  | ok reply =>
    apply Eval.ends_after rfl later.tame.later
    split
    · refine Eval.ends_pure later.tame ⟨replies reply rfl, ?_⟩
      intro other _ same inside
      cases same
      exact kept inside
    · exact Eval.ends_after rfl later.tame.later (Eval.ends_throw later.tame)

theorem dispatch_ends (calls : CallsEnd call tokens bound) (id : Nat) (name : String)
    (kinds : List Kind) (tame : world.Tame) (spent : world.tokens ≤ tokens)
    (ordinary : Command.AllOrdinary arguments)
    (cheap : Command.peakOf world.isKept arguments + 5 * arguments.length + 5 +
      world.standing < bound) :
    Eval.Ends (fun depth => dispatch (call depth) id name arguments kinds) world
      fun reply after => reply.Settled after.isKept := by
  apply Eval.ends_after rfl tame.later
  cases found : (world.bot.groups.children id).resolve name with
  | error error => exact Eval.ends_throw tame
  | ok child =>
    obtain ⟨full, node⟩ := child
    have placed := (tame.tree.children id).of_resolve found
    have suitable : node.command.Ordinary ∧ node.command.cost world.isKept arguments.length
        (Command.peakOf world.isKept arguments) ≤
        Command.peakOf world.isKept arguments + 5 * arguments.length + 5 := by
      cases node with
      | leaf command =>
        have placed : command.Placed := placed
        have below := placed.cost_le world.isKept arguments.length
          (Command.peakOf world.isKept arguments)
        exact ⟨placed.ordinary, Nat.le_succ_of_le below⟩
      | group id below => exact ⟨trivial, Nat.le_refl _⟩
    apply Eval.ends_after rfl tame.later
    have less : world.work node.command arguments < bound := by
      unfold World.work
      omega
    exact calls.settled suitable.1 ordinary tame spent less kinds

theorem callGroupAlone_ends (calls : CallsEnd call tokens bound) (id : Nat) (kinds : List Kind)
    (tame : world.Tame) (spent : world.tokens ≤ tokens) (cheap : 4 + world.standing < bound) :
    Eval.Ends (fun depth => callGroupAlone (call depth) id kinds) world
      fun reply after => reply.Settled after.isKept := by
  unfold callGroupAlone
  split
  · apply Eval.ends_pure tame
    intro command same
    cases same
    trivial
  · apply Eval.ends_after rfl tame.later
    cases found : (world.bot.groups.children id).get? "" with
    | none => exact Eval.ends_throw tame
    | some node =>
      obtain ⟨plain, placed⟩ := (tame.tree.children id).of_get? found
      cases node with
      | group id below => cases plain rfl
      | leaf command =>
        have placed : command.Placed := placed
        have below := placed.cost_le world.isKept 0 0
        have less : world.work command [] < bound := by
          rw [work_alone]
          omega
        exact calls.settled placed.ordinary Command.allOrdinary_nil tame spent less kinds

theorem callGroup_ends (calls : CallsEnd call world.tokens bound) (id : Nat) (tame : world.Tame)
    (ordinary : Command.AllOrdinary arguments) (work : world.work (.group id) arguments ≤ bound)
    (kinds : List Kind) :
    Eval.Ends (fun depth => callGroup (call depth) id arguments kinds) world
      fun reply after => reply.Settled after.isKept := by
  simp only [World.work, Command.cost] at work
  cases arguments with
  | nil => exact callGroupAlone_ends calls id kinds tame (Nat.le_refl _) (by omega)
  | cons first rest =>
    simp only [Command.peakOf, List.length_cons] at work
    apply (text_ends calls tame (Nat.le_refl _) ordinary.1 (by omega)).bind
    intro name after later _
    have peaks := later.peakOf_le rest
    have stands := later.standing_le
    exact dispatch_ends calls id name kinds later.tame later.tokens ordinary.2 (by omega)

theorem callRoot_ends (calls : CallsEnd call world.tokens bound) (tame : world.Tame)
    (ordinary : Command.AllOrdinary arguments) (work : world.work .root arguments ≤ bound)
    (kinds : List Kind) :
    Eval.Ends (fun depth => callRoot (call depth) arguments kinds) world
      fun reply after => reply.Settled after.isKept := by
  simp only [World.work, Command.cost] at work
  cases arguments with
  | nil => exact callGroupAlone_ends calls Groups.topId kinds tame (Nat.le_refl _) (by omega)
  | cons first rest =>
    simp only [Command.peakOf, List.length_cons] at work
    have less : world.work first [] < bound := by
      rw [work_alone]
      omega
    have called := calls.settled ordinary.1 Command.allOrdinary_nil tame (Nat.le_refl _) less
      Kind.commandOrText
    apply called.bind
    intro reply after later answered
    have peaks := later.peakOf_le rest
    have stands := later.standing_le
    split
    · rename_i command
      have settled := answered command rfl
      have below := settled.cost_le rest.length (Command.peakOf after.isKept rest)
      have less : after.work command rest < bound := by
        unfold World.work
        omega
      exact calls.settled settled.ordinary ordinary.2 later.tame later.tokens less kinds
    · exact dispatch_ends calls Groups.topId _ kinds later.tame later.tokens ordinary.2 (by omega)
    · exact Eval.ends_after rfl later.tame.later (Eval.ends_throw later.tame)

end Callees

/-- Whatever a command is, one step of its call comes to an end. -/
theorem step_ends {host : Host σ} {call : Nat → Caller σ} {line : Nat → LineCaller σ}
    {world : World σ} {command : Command} {arguments : List Command} (abides : host.Abides)
    (calls : CallsEnd call world.tokens (world.work command arguments)) (lines : LinesEnd line)
    (ordinary : command.Ordinary) (ordinaryArguments : Command.AllOrdinary arguments)
    (tame : world.Tame) (kinds : List Kind) :
    Eval.Ends (fun depth => step host (call depth) (line depth) command arguments kinds) world
      (Answered command world) := by
  have alone {action : Nat → Eval σ Reply}
      (ends : Eval.Ends action world fun reply after => reply.Settled after.isKept)
      (eager : ∀ cell inner, command ≠ .lazy cell inner) :
      Eval.Ends action world (Answered command world) :=
    ends.weaken fun reply after later settled =>
      ⟨settled, fun cell inner same => absurd same (eager cell inner)⟩
  cases command with
  | literal text =>
    refine alone (Eval.ends_ofExcept tame ?_) fun _ _ same => nomatch same
    intro reply answered
    unfold callLiteral at answered
    split at answered
    · cases answered
      exact fun _ same => nomatch same
    · cases answered
  | function f =>
    exact alone (callFunction_ends abides calls lines ordinary tame ordinaryArguments
      (Nat.le_refl _) kinds) fun _ _ same => nomatch same
  | documented command =>
    exact alone (callFunction_ends abides calls lines ordinary tame ordinaryArguments
      (Nat.le_refl _) kinds) fun _ _ same => nomatch same
  | overloads set =>
    exact alone (callOverloads_ends calls ordinary tame ordinaryArguments (Nat.le_refl _) kinds)
      fun _ _ same => nomatch same
  | stored text body =>
    have ordinaryBody : body.Ordinary := ordinary
    exact alone (callStored_ends calls text ordinaryBody tame ordinaryArguments kinds)
      fun _ _ same => nomatch same
  | lazy cell inner =>
    have ordinaryInner : inner.Ordinary := ordinary
    exact callLazy_ends calls ordinaryInner tame ordinaryArguments (Nat.le_refl _) kinds
  | applied callee bound =>
    have all : Command.AllOrdinary (bound ++ arguments) :=
      Command.allOrdinary_iff.2 (List.forall_mem_append.2
        ⟨Command.allOrdinary_iff.1 ordinary.2, Command.allOrdinary_iff.1 ordinaryArguments⟩)
    have less :
        world.work callee (bound ++ arguments) < world.work (.applied callee bound) arguments := by
      simp only [World.work, Command.cost, Command.peakOf_append, List.length_append]
      omega
    have called := calls.settled ordinary.1 all tame (Nat.le_refl _) less kinds
    exact alone called fun _ _ same => nomatch same
  | group id =>
    exact alone (callGroup_ends calls id tame ordinaryArguments (Nat.le_refl _) kinds)
      fun _ _ same => nomatch same
  | root =>
    exact alone (callRoot_ends calls tame ordinaryArguments (Nat.le_refl _) kinds)
      fun _ _ same => nomatch same
  | orphan => exact Eval.ends_throw tame
  | foreign label index => exact ordinary.elim

end Evaluate

end ChatLine
