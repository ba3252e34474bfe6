import ChatLine.Proofs.Bot.Naming
import ChatLine.Proofs.Calls.Kinds
import ChatLine.Proofs.Calls.Programs
import ChatLine.Proofs.Calls.Requests
import ChatLine.Proofs.Scoping.Watching

set_option autoImplicit false

namespace ChatLine

variable {σ : Type}

namespace World

/-- The world in which a word has been read as the only argument of a call. -/
def readWord (world : World σ) (word : String) : World σ :=
  ((world.grow 1).record (.evaluated world.cells.size world.context.frames)).keep world.cells.size
    (.ok (.text word))

def outside (world : World σ) : World σ :=
  { world with context := world.context.pop }

/-- Another world in which words have been read, and which has other frames; nothing else happened. -/
structure ReadsOn (world after : World σ) (frames : Frames) : Prop where
  bot : after.bot = world.bot
  context : after.context = { world.context with frames := frames }
  generator : after.generator = world.generator
  application : after.application = world.application
  size : world.cells.size ≤ after.cells.size
  kept : ∀ cell < world.cells.size, after.kept? cell = world.kept? cell

end World

def Command.parameter (word : String) : Command :=
  .applied .root [.literal "param", .literal word]

/-- The command `param` stands at its name, in a tree that is in good order. -/
structure Bot.HasParameter (bot : Bot) : Prop where
  ordered : bot.Ordered
  found : bot.groups.top.at? ["param"] = some (.leaf (.documented Builtin.parameter.documented))

/-- An argument that is read with an index where a stored line runs: the one that the line was called
with; or, if that is a call of `param` which has not run, an argument that this call reads outside. It
is in a cell, belongs to some frames, and is handed on as often as there are levels. -/
inductive World.Passes (world : World σ) :
    Frames → Nat → Nat → Nat → Command → Frames → Prop
  | here {frame : Frame} {home : Frames} {index cell : Nat} {argument : Command}
      (found : frame[index]? = some (.lazy cell argument)) :
      Passes world (frame :: home) index 0 cell argument home
  | on {frame : Frame} {rest home : Frames} {index own next levels cell : Nat} {word : String}
      {argument : Command} (found : frame[index]? = some (.lazy own (.parameter word)))
      (there : own < world.cells.size) (unsettled : world.kept? own = none)
      (reads : Binding.coerce word .int = .ok (.int (some next)))
      (passes : Passes world rest next levels cell argument home) :
      Passes world (frame :: rest) index (levels + 1) cell argument home

namespace World.Passes

variable {world after : World σ} {frames home : Frames} {index levels cell : Nat}
  {argument : Command}

theorem mono (passes : world.Passes frames index levels cell argument home)
    (size : world.cells.size ≤ after.cells.size)
    (kept : ∀ own < world.cells.size, after.kept? own = world.kept? own) :
    after.Passes frames index levels cell argument home := by
  induction passes with
  | here found => exact .here found
  | on found there unsettled reads _ ih =>
    exact .on found (Nat.lt_of_lt_of_le there size) ((kept _ there).trans unsettled) reads ih

variable (budget : Budget) (text : String) {arguments : List Command} {position : Nat}

/-- Where a stored line runs, its arguments are read. -/
theorem enter (found : arguments[position]? = some argument) :
    (world.enter budget text arguments).Passes
      (world.enter budget text arguments).context.frames position 0 (world.cells.size + position)
        argument world.context.frames :=
  .here (Command.getElem?_sharedFrom found)

/-- An argument that reads one of the line around is handed on. -/
theorem enter_on {word : String} (found : arguments[position]? = some (.parameter word))
    (reads : Binding.coerce word .int = .ok (.int (some index)))
    (passes : world.Passes world.context.frames index levels cell argument home) :
    (world.enter budget text arguments).Passes
      (world.enter budget text arguments).context.frames position (levels + 1) cell argument home := by
  have size : (world.enter budget text arguments).cells.size =
      world.cells.size + arguments.length := size_grow world arguments.length
  have kept : (world.enter budget text arguments).kept? = world.kept? :=
    kept?_grow world arguments.length
  have before : position < arguments.length := (List.getElem?_eq_some_iff.1 found).1
  refine .on (Command.getElem?_sharedFrom found) ?_ ?_ reads ?_
  · rw [size]
    exact Nat.add_lt_add_left before _
  · rw [kept]
    exact kept?_eq_none (Nat.le_add_right _ _)
  · exact passes.mono (size ▸ Nat.le_add_right _ _) fun own _ => congrFun kept own

end World.Passes

section Reading

variable {world near : World σ} {frame : Frame} {frames : Frames}

theorem World.ReadsOn.refl (world : World σ) : world.ReadsOn world world.context.frames :=
  ⟨rfl, rfl, rfl, rfl, Nat.le_refl _, fun _ _ => rfl⟩

theorem World.ReadsOn.record (reading : world.ReadsOn near frames) (event : Event) :
    world.ReadsOn (near.record event) frames :=
  ⟨reading.bot, reading.context, reading.generator, reading.application, reading.size, reading.kept⟩

theorem World.ReadsOn.outside (reading : world.ReadsOn near (frame :: frames)) (word : String) :
    world.ReadsOn (near.readWord word).outside frames := by
  have size : (near.readWord word).outside.cells.size = near.cells.size + 1 :=
    (size_keep _ _ _).trans (size_grow near 1)
  refine ⟨reading.bot, ?_, reading.generator, reading.application, ?_, fun cell there => ?_⟩
  · change near.context.pop = _
    rw [reading.context]
    rfl
  · rw [size]
    exact Nat.le_succ_of_le reading.size
  · have other : ¬ (near.cells.size = cell ∧ near.cells.size < (near.grow 1).cells.size) :=
      fun both => absurd (Nat.lt_of_lt_of_le there reading.size) (Nat.not_lt.2 (Nat.le_of_eq both.1))
    refine ((kept?_keep _ _ _ _).trans (if_neg other)).trans ?_
    exact (congrFun (kept?_grow near 1) cell).trans (reading.kept cell there)

end Reading

namespace Eval

variable {α : Type}

def resultIn (action : Eval σ α) (world : World σ) : Option (Except CommandError α) :=
  (action.run.run world).map Prod.fst

theorem resultIn_eq_some {action : Eval σ α} {world : World σ} {result : Except CommandError α} :
    action.resultIn world = some result ↔ ∃ after, action.run.run world = some (result, after) := by
  simp only [resultIn, Option.map_eq_some_iff, Prod.exists, exists_and_right, exists_eq_right]

theorem resultIn_recorded (action : Eval σ α) (world : World σ) :
    (recorded action).resultIn world = action.resultIn world := by
  rw [resultIn, run_recorded, Option.map_map]
  rfl

end Eval

namespace Evaluate

variable {host : Host σ} {world : World σ} {word : String} {index : Nat} {kinds : List Kind}

theorem run_text_shared (depth : Nat) (word : String) :
    (Eval.text (run host (depth + 2)) (.lazy world.cells.size (.literal word))).run.run
      (world.grow 1) = some (.ok word, world.readWord word) := by
  apply Eval.run_text_of_answer
  have fresh : (world.grow 1).kept? world.cells.size = none := by
    rw [World.kept?_grow]
    exact World.kept?_eq_none (Nat.le_refl _)
  rw [run, Eval.run_recorded, step, run_callLazy, fresh]
  dsimp only
  rw [run_literal host depth word rfl]
  rfl

/-- What `param` is given is read as an index. -/
theorem run_prepare_parameter (depth : Nat)
    (reads : Binding.coerce word .int = .ok (.int (some index)))
    (wanted : ∃ kind ∈ kinds, kind ≠ .command) :
    (prepare (run host (depth + 2)) Builtin.parameter.function [.literal word] kinds).run.run world =
      some (.ok [.context, .int (some index), .kinds kinds], world.readWord word) := by
  have bound : (Function.bindFormals (run host (depth + 2)) kinds
      (Command.sharedFrom world.cells.size [.literal word]) Builtin.parameter.function.formals
      (Command.sharedFrom world.cells.size [.literal word])).run.run (world.grow 1) =
        some (.ok ([.context, .int (some index), .kinds kinds], []), world.readWord word) := by
    change (Function.bindFormals _ _ _ [.context, .plain .int, .kinds] _).run.run _ = _
    simp only [Command.sharedFrom, Function.bindFormals, Function.bindFormal, Eval.run_bind,
      Eval.run_pure, run_text_shared, Eval.run_ofExcept, reads]
  have accepted : Builtin.parameter.function.accept
      (Command.sharedFrom world.cells.size [.literal word]).length kinds
      ([.context, .int (some (index : Int)), .kinds kinds], []) =
        .ok [.context, .int (some (index : Int)), .kinds kinds] := by
    obtain ⟨kind, inside, other⟩ := wanted
    unfold Function.accept
    dsimp only
    split
    · rename_i fewer
      exact absurd fewer (Nat.lt_irrefl 1)
    · split
      · rename_i empty
        exact absurd (bne_iff_ne.2 other) (List.filter_eq_nil_iff.1 empty kind inside)
      · rfl
  rw [prepare, Eval.run_bind, Eval.run_share]
  dsimp only [List.length_singleton]
  rw [Eval.run_bind, bound]
  dsimp only
  rw [accepted]
  rfl

/-- The code of `param` calls the argument without the innermost frame. -/
theorem run_invoke_parameter (call : Caller σ) (line : LineCaller σ) {frame : Frame} {rest : Frames}
    (running : world.context.frames = frame :: rest) {argument : Command}
    (found : frame[index]? = some argument) :
    (invoke host call line Builtin.parameter.function
        [.context, .int (some index), .kinds kinds]).run.run world =
      ((call argument [] kinds).run.run world.outside).map fun made =>
        (made.1.map Value.reply, { made.2 with context := made.2.context.push frame }) := by
  have argument_found : Builtin.Parameter.find? frame index = some argument := by
    rw [Builtin.Parameter.find?, if_neg (Int.not_lt.2 (Int.natCast_nonneg index)), Int.toNat_natCast]
    exact found
  have called : ((Builtin.Parameter.run index kinds : Native σ Reply).runWith call line).run.run world =
      ((call argument [] kinds).run.run world.outside).map fun made =>
        (.ok (made.1.mapError Failure.error),
          { made.2 with context := made.2.context.push frame }) := by
    have context : ((Native.context : Native σ Context).runWith call line).run.run world =
        some (.ok (.ok world.context), world) := rfl
    rw [Builtin.Parameter.run, Native.runWith_bind, Eval.run_bind, context]
    dsimp only
    rw [running]
    dsimp only
    rw [argument_found]
    dsimp only
    have hidden : (Eval.inScopes [.outer] (call argument [] kinds)).run.run world =
        ((call argument [] kinds).run.run world.outside).map fun made =>
          (made.1, { made.2 with context := made.2.context.push frame }) :=
      Eval.run_outer _ running
    rw [Native.runWith_callWithin, Eval.run_bind, Eval.run_outcome, hidden]
    rcases (call argument [] kinds).run.run world.outside with _ | ⟨_ | _, _⟩ <;> rfl
  have code : (host.codeOf Builtin.parameter.function.code
      [.context, .int (some (index : Int)), .kinds kinds]) =
        Builtin.Parameter.run index kinds >>= fun reply => pure (.reply reply) := rfl
  have whole : ((host.codeOf Builtin.parameter.function.code
      [.context, .int (some (index : Int)), .kinds kinds]).runWith call line).run.run world =
        ((call argument [] kinds).run.run world.outside).map fun made =>
          (.ok ((made.1.map Value.reply).mapError Failure.error),
            { made.2 with context := made.2.context.push frame }) := by
    rw [code, Native.runWith_bind, Eval.run_bind, called]
    rcases (call argument [] kinds).run.run world.outside with _ | ⟨_ | _, _⟩ <;> rfl
  unfold Native.runWith at whole
  rw [invoke, Eval.run_bind, whole]
  rcases (call argument [] kinds).run.run world.outside with _ | ⟨_ | _, _⟩ <;> rfl

/-- What is asked of a command that runs at most once is of a kind that was asked for. -/
theorem fits_of_lazy {depth cell : Nat} {inner : Command} {reply : Reply} {after : World σ}
    (answered : (run host depth (.lazy cell inner) [] kinds).run.run world = some (.ok reply, after)) :
    reply.fits kinds = true := by
  cases depth with
  | zero => cases answered
  | succ depth =>
    exact (reply.fits_iff kinds).2
      ((callLazy_keeps cell inner [] kinds).recorded world _ _ answered reply rfl)

/-- The call of `param` on a word results in what the argument results in, called without the
innermost frame. -/
theorem resultIn_documented_parameter (depth : Nat) {frame : Frame} {rest : Frames}
    (running : world.context.frames = frame :: rest) {cell : Nat} {argument : Command}
    (found : frame[index]? = some (.lazy cell argument))
    (reads : Binding.coerce word .int = .ok (.int (some index)))
    (wanted : ∃ kind ∈ kinds, kind ≠ .command) :
    (run host (depth + 3) (.documented Builtin.parameter.documented) [.literal word]
        kinds).resultIn world =
      (run host (depth + 2) (.lazy cell argument) [] kinds).resultIn
        (world.readWord word).outside := by
  have runsNow : Builtin.parameter.function.defers [Command.literal word].length kinds = false := rfl
  change (Eval.recorded (callFunction host (run host (depth + 2)) _ Builtin.parameter.function
    [.literal word] kinds)).resultIn world = _
  rw [Eval.resultIn_recorded, callFunction_of_not_defers runsNow, Eval.resultIn, Eval.run_bind,
    run_prepare_parameter depth reads wanted]
  dsimp only
  have frames : (world.readWord word).context.frames = frame :: rest := running
  rw [Eval.run_bind, run_invoke_parameter _ _ frames found, Eval.resultIn]
  cases answered : (run host (depth + 2) (.lazy cell argument) [] kinds).run.run
      (world.readWord word).outside with
  | none => rfl
  | some made =>
    obtain ⟨error | reply, after⟩ := made
    · rfl
    · have delivered : (Value.reply reply).deliver Builtin.parameter.function kinds = .ok reply := by
        rw [Value.deliver, Reply.require, if_pos (fits_of_lazy answered)]
      exact congrArg some delivered

/-- What a line says with `param` and a word, the command `param` does. -/
theorem resultIn_parameter_eq (depth : Nat) (parameter : world.bot.HasParameter) :
    (run host (depth + 2) (.parameter word) [] kinds).resultIn world =
      (run host depth (.documented Builtin.parameter.documented) [.literal word] kinds).resultIn
        world := by
  have words : Text.spaced "param" = ["param"] := by decide +kernel
  have get : world.bot.groups.top.get? "param" =
      some (.leaf (.documented Builtin.parameter.documented)) := parameter.found
  have sits : world.bot.groups.top.sits? (Text.spaced "param") =
      some (.documented Builtin.parameter.documented) := by
    rw [words, Children.sits?_leaf (by decide) get, if_pos rfl]
  have plain : ∀ id below, world.bot.groups.top.get? "param" ≠ some (.group id below) := by
    rw [get]
    exact fun _ _ same => nomatch same
  have way : (world.bot.slotPath "param").length = 1 := by
    rw [Bot.slotPath_eq, words, Children.slot_plain plain]
    rfl
  have single : ¬ Children.Leads world.bot.groups.top (Text.spaced "param") := by
    rw [words]
    exact Children.not_leads_plain plain []
  have called : (run host (depth + 1) .root [.literal "param", .literal word] kinds).run.run world =
      (Eval.recorded (run host depth (.documented Builtin.parameter.documented) [.literal word]
        kinds)).run.run world := by
    have never : Children.Leads world.bot.groups.top (Text.spaced "param") →
        [Command.literal word] = [] ∧ kinds.contains .command = false :=
      fun leads => absurd leads single
    have goes := run_root_path host depth parameter.ordered sits never
    rw [way, words] at goes
    exact goes
  rw [Command.parameter, run_applied, Eval.resultIn_recorded, List.append_nil, Eval.resultIn, called]
  exact Eval.resultIn_recorded _ world

/-- A command that has not run yet, and that answers what it was asked for, is answered as such. -/
theorem resultIn_lazy (depth : Nat) {own : Nat} {inner : Command} (unsettled : world.kept? own = none)
    (fits : ∀ reply after, (run host depth inner [] kinds).run.run
      (world.record (.evaluated own world.context.frames)) = some (.ok reply, after) →
        reply.fits kinds = true) :
    (run host (depth + 1) (.lazy own inner) [] kinds).resultIn world =
      (run host depth inner [] kinds).resultIn
        (world.record (.evaluated own world.context.frames)) := by
  change (Eval.recorded (callLazy (run host depth) own inner [] kinds)).resultIn world = _
  rw [Eval.resultIn_recorded, Eval.resultIn, run_callLazy, unsettled, Eval.resultIn]
  dsimp only
  cases answered : (run host depth inner [] kinds).run.run
      (world.record (.evaluated own world.context.frames)) with
  | none => rfl
  | some made =>
    obtain ⟨error | reply, after⟩ := made
    · rfl
    · rw [Option.map_some, Option.map_some, Option.map_some, replay,
        if_pos (fits reply after answered)]

/-- An argument that is read with an index, directly or through other lines, is answered as it would
be answered in the place where it was written: there, inside the frames that it belongs to, nothing is
different but that indices have been read. -/
theorem resultIn_parameter {frames home : Frames} {levels cell : Nat} {argument : Command}
    (parameter : world.bot.HasParameter)
    (passes : world.Passes frames index levels cell argument home)
    {near : World σ} (reading : world.ReadsOn near frames)
    (reads : Binding.coerce word .int = .ok (.int (some index))) :
    ∃ there : World σ, world.ReadsOn there home ∧ ∀ depth kinds, (∃ kind ∈ kinds, kind ≠ .command) →
      (run host (depth + 4 * levels + 5) (.parameter word) [] kinds).resultIn near =
        (run host (depth + 2) (.lazy cell argument) [] kinds).resultIn there := by
  induction passes generalizing near word with
  | here found =>
    refine ⟨_, reading.outside word, fun depth kinds wanted => ?_⟩
    rw [resultIn_parameter_eq _ (reading.bot ▸ parameter)]
    exact resultIn_documented_parameter depth (congrArg Context.frames reading.context) found reads
      wanted
  | @on frame rest _ index own next levels cell inner argument found there unsettled readsInner _ ih =>
    have read := reading.outside word
    obtain ⟨last, readsOn, same⟩ := ih (read.record (.evaluated own rest)) readsInner
    refine ⟨last, readsOn, fun depth kinds wanted => ?_⟩
    have deeper := same depth kinds wanted
    have running : (near.readWord word).outside.context.frames = rest :=
      congrArg Context.frames read.context
    rw [resultIn_parameter_eq _ (reading.bot ▸ parameter), resultIn_documented_parameter _
      (congrArg Context.frames reading.context) found reads wanted]
    refine (resultIn_lazy _ ((read.kept own there).trans unsettled) fun reply after ran => ?_).trans ?_
    · rw [running] at ran
      obtain ⟨_, answered⟩ := Eval.resultIn_eq_some.1
        (deeper.symm.trans (Eval.resultIn_eq_some.2 ⟨after, ran⟩))
      exact fits_of_lazy answered
    · rw [running]
      exact deeper

end Evaluate

end ChatLine
