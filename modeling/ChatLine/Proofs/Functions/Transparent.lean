import ChatLine.Proofs.Functions.Answering
import ChatLine.Proofs.Scoping.Parameter

set_option autoImplicit false

namespace ChatLine

variable {σ : Type}

open Command

/-- What was not asked for its text has not run: the cells after those of the commands that were
evaluated keep nothing. -/
theorem World.Closed.unread {states : Matching → σ → σ → Prop} (persistent : Persistent states)
    {host : Host σ} {world after : World σ} (blind : host.Blind states world.cells.size)
    (closed : world.Closed)
    (application : ∀ matching : Matching,
      (∀ cell, cell < world.cells.size → matching.live cell cell) →
        states matching world.application world.application)
    {depth more : Nat} {first : List Command} {contents : List String}
    (within : ∀ command ∈ first, command.Within world.cells.size)
    (runs : (Eval.texts (Evaluate.run host depth) (sharedFrom world.cells.size first)).run.run
      (world.grow (first.length + more)) = some (.ok contents, after))
    {cell : Nat} (later : world.cells.size + first.length ≤ cell)
    (inside : cell < world.cells.size + (first.length + more)) : after.kept? cell = none := by
  -- In a second world the cells after the first ones are there, but belong to nothing.
  have own := Matching.start_own world.cells.size (first.length + more)
  have alike := (closed.alike (first.length + more) (application _ own)).grow first.length 0
  rw [World.grow_zero] at alike
  have fresh : (world.grow first.length).Fresh (.start world.cells.size (first.length + more))
      world.cells.size first.length :=
    (closed.alike (first.length + more) (application _ own)).fresh_grow first.length
  have adopted := alike.adopt persistent fresh fun other new there =>
    ⟨new, Nat.lt_of_lt_of_le there (by omega)⟩
  have same := alike_sharedFrom (allAlike_of_within adopted.own within) fun position there =>
    Matching.join_pair _ world.cells.size world.cells.size there
  have agree := Eval.texts_agree (Evaluate.run_agrees persistent blind depth) adopted same
  obtain ⟨_, _, _, matching, grows, ended, _⟩ := agree.back runs
  have spare : matching.spare cell := by
    rw [grows.spare]
    exact ⟨⟨by omega, inside⟩, by omega⟩
  exact (ended.spare spare).2.1

namespace Builtin

/-- The position among the branches of the one that a comparison of two texts selects. -/
def Choose.selected (comparator : Comparator) (left right : String) : Nat :=
  if comparator.holds (order left right) then 0 else 1

variable {call : Caller σ} {line : LineCaller σ} {world after : World σ}

/-- The code of `if` calls the branch that is selected, and nothing after that. -/
theorem Choose.repeats_run {left sign right : Command} {first relation second : String}
    {branches : List Command} {comparator : Comparator} {branch : Command}
    (evaluates : (Eval.texts call [left, sign, right]).run.run world =
      some (.ok [first, relation, second], after))
    (reads : Comparator.ofText? relation = some comparator)
    (found : branches[selected comparator first second]? = some branch) (kinds : List Kind) :
    (run (left :: sign :: right :: branches) kinds).Repeats call line world
      (call branch [] kinds) after id := by
  obtain ⟨_, _, one, same, asked, evaluates⟩ := Eval.exists_of_run_texts_cons evaluates
  cases same
  obtain ⟨_, _, two, same, askedSign, evaluates⟩ := Eval.exists_of_run_texts_cons evaluates
  cases same
  obtain ⟨_, _, three, same, askedRight, evaluates⟩ := Eval.exists_of_run_texts_cons evaluates
  cases same
  cases evaluates
  cases branches with
  | nil => cases found
  | cons onTrue others =>
    have chosen : (if comparator.holds (order first second) then some onTrue else others.head?) =
        some branch := by
      rw [← found, selected]
      cases comparator.holds (order first second) with
      | true => rfl
      | false => exact List.head?_eq_getElem?
    refine Native.repeats_after (Native.run_text asked) ?_
    refine Native.repeats_after (Native.run_text askedSign) ?_
    refine Native.repeats_after (Native.run_text askedRight) ?_
    rw [reads]
    dsimp only
    rw [chosen]
    exact Native.repeats_call branch [] kinds _

/-- The code of `eval` calls the command that its first argument is. -/
theorem Eval.repeats_run_command {first callee : Command}
    (evaluates : (call first [] Kind.commandOrText).run.run world =
      some (.ok (.command callee), after)) (rest : List Command) (kinds : List Kind) :
    (run (first :: rest) kinds).Repeats call line world (call callee rest kinds) after id := by
  have asked : Native.Repeats call line (Native.call first [] Kind.commandOrText) world
      (call first [] Kind.commandOrText) world id := Native.repeats_call first [] _ world
  unfold Native.Repeats at asked
  rw [evaluates] at asked
  exact Native.repeats_after asked (Native.repeats_call callee rest kinds _)

/-- The code of `eval` runs a text that is its only argument as a line. -/
theorem Eval.repeats_run_line {first : Command} {text : String}
    (evaluates : (call first [] Kind.commandOrText).run.run world = some (.ok (.text text), after))
    (kinds : List Kind) :
    (run [first] kinds).Repeats call line world (line text kinds) after id := by
  have asked : Native.Repeats call line (Native.call first [] Kind.commandOrText) world
      (call first [] Kind.commandOrText) world id := Native.repeats_call first [] _ world
  unfold Native.Repeats at asked
  rw [evaluates] at asked
  exact Native.repeats_after asked (Native.repeats_callLine text kinds _)

end Builtin

namespace Evaluate

variable {host : Host σ} {call : Caller σ} {line : LineCaller σ} {command : Command}
  {arguments : List Command} {kinds : List Kind} {world : World σ}

/-- A function that takes the arguments as they come binds nothing of them. -/
theorem run_reach_arguments {f : Function} (formals : f.formals = [.context, .arguments, .kinds])
    (wanted : ∃ kind ∈ kinds, kind ≠ .command) :
    (reach call f arguments kinds).run.run world =
      some (.ok (.code [.context, .arguments (sharedFrom world.cells.size arguments), .kinds kinds]),
        world.grow arguments.length) := by
  have binds : (Function.bindFormals call kinds (sharedFrom world.cells.size arguments) f.formals
      (sharedFrom world.cells.size arguments)).run.run (world.grow arguments.length) =
        some (.ok ([.context, .arguments (sharedFrom world.cells.size arguments), .kinds kinds],
          sharedFrom world.cells.size arguments), world.grow arguments.length) := by
    rw [formals]
    rfl
  have nothing : f.positionalCount = 0 := by
    rw [Function.positionalCount, formals]
    rfl
  have early : f.early? (sharedFrom world.cells.size arguments)
      (arguments.length - (sharedFrom world.cells.size arguments).length) kinds = none := by
    refine Function.early?_eq_none_iff.2 ⟨?_, ?_, wanted⟩
    · exact Nat.le_trans (Nat.le_trans f.required_le (Nat.le_of_eq nothing)) (Nat.zero_le _)
    · rintro ⟨tail | fewer, _⟩
      · rw [Function.hasTail, formals] at tail
        cases tail
      · rw [nothing] at fewer
        cases fewer
  rw [run_reach_of_binds binds, early]
  rfl

/-- What `param` is given is read as an index; more than that it does not look at. -/
theorem run_reach_parameter {given : Command} {surplus : List Command} {word : String} {index : Int}
    {asked : World σ}
    (evaluates : (Eval.text call (.lazy world.cells.size given)).run.run
      (world.grow (surplus.length + 1)) = some (.ok word, asked))
    (reads : Binding.coerce word .int = .ok (.int (some index)))
    (wanted : ∃ kind ∈ kinds, kind ≠ .command) :
    (reach call Builtin.parameter.function (given :: surplus) kinds).run.run world =
      some (.ok (.code [.context, .int (some index), .kinds kinds]), asked) := by
  have binds : (Function.bindFormals call kinds (sharedFrom world.cells.size (given :: surplus))
      Builtin.parameter.function.formals (sharedFrom world.cells.size (given :: surplus))).run.run
        (world.grow (given :: surplus).length) =
          some (.ok ([.context, .int (some index), .kinds kinds],
            sharedFrom (world.cells.size + 1) surplus), asked) := by
    change (Function.bindFormals _ _ _ [.context, .plain .int, .kinds] (.lazy _ _ :: _)).run.run
      (world.grow (surplus.length + 1)) = _
    simp only [Function.bindFormals, Function.bindFormal, Eval.run_bind, Eval.run_pure, evaluates,
      Eval.run_ofExcept, reads]
  have taken : (given :: surplus).length - (sharedFrom (world.cells.size + 1) surplus).length = 1 := by
    rw [length_sharedFrom, List.length_cons, Nat.add_sub_cancel_left]
  have early : Builtin.parameter.function.early? (sharedFrom world.cells.size (given :: surplus))
      ((given :: surplus).length - (sharedFrom (world.cells.size + 1) surplus).length) kinds =
        none := by
    rw [taken]
    refine Function.early?_eq_none_iff.2 ⟨Nat.le_refl 1, ?_, wanted⟩
    rintro ⟨tail | fewer, _⟩
    · cases tail
    · exact absurd fewer (Nat.lt_irrefl 1)
  rw [run_reach_of_binds binds, early]
  rfl

/-- A function that takes the arguments as they come, and whose code repeats a call, answers what that
call answers. -/
theorem run_of_repeats (wanted : ∃ kind ∈ kinds, kind ≠ .command) {f : Function}
    (isFunction : command.function? = some f) (formals : f.formals = [.context, .arguments, .kinds])
    {depth : Nat} {native : Native σ Reply} {action : Eval σ Reply} {there : World σ}
    (code : host.codeOf f.code [.context, .arguments (sharedFrom world.cells.size arguments),
      .kinds kinds] = native >>= fun reply => pure (.reply reply))
    (repeats : native.Repeats (run host depth) (callLine (run host depth))
      (world.grow arguments.length) action there id)
    (fits : ∀ reply after, action.run.run there = some (.ok reply, after) → reply.kind ∈ kinds) :
    (run host (depth + 1) command arguments kinds).run.run world =
      (Eval.recorded action).run.run there := by
  rw [run, Eval.run_recorded, Eval.run_recorded, run_step_of_invoke id isFunction
    (run_reach_arguments formals wanted) (run_invoke_of_repeats code repeats) fits]
  cases action.run.run there <;> rfl

end Evaluate

def World.inside (world : World σ) (frame : Frame) : World σ :=
  { world with context := world.context.push frame }

/-- A word that has been read is in a new cell, and nothing else has changed. -/
theorem World.readsOn_readWord (world : World σ) (word : String) :
    world.ReadsOn (world.readWord word) world.context.frames := by
  refine ⟨rfl, rfl, rfl, rfl, ?_, fun cell there => ?_⟩
  · exact Nat.le_trans (Nat.le_succ _)
      (Nat.le_of_eq ((size_keep _ _ _).trans (size_grow world 1)).symm)
  · have other : ¬ (world.cells.size = cell ∧ world.cells.size < (world.grow 1).cells.size) :=
      fun both => absurd there (Nat.not_lt.2 (Nat.le_of_eq both.1))
    exact ((kept?_keep _ _ _ _).trans (if_neg other)).trans (congrFun (kept?_grow world 1) cell)

namespace Evaluate

variable {host : Host σ} {kinds : List Kind} {world : World σ}

/-- The command `if`, when its condition has been evaluated, comes to the same as the branch that the
condition selects; and whatever stands in the place of the other branches makes no difference. -/
def AnswersBranch (host : Host σ) (kinds : List Kind) (world : World σ) : Prop :=
  ∀ (depth : Nat) (command left sign right : Command) (branches : List Command)
    (first relation second : String) (comparator : Comparator) (branch : Command)
    (tested : World σ),
    command.function? = some Builtin.choose.function →
    (∀ part ∈ [left, sign, right], part.Within world.cells.size) →
    (Eval.texts (run host (depth + 1)) (sharedFrom world.cells.size [left, sign, right])).run.run
      (world.grow (branches.length + 3)) = some (.ok [first, relation, second], tested) →
    Comparator.ofText? relation = some comparator →
    let position := Builtin.Choose.selected comparator first second
    branches[position]? = some branch →
    (run host (depth + 2) command (left :: sign :: right :: branches) kinds).ComesLike world
        (run host depth branch [] kinds) tested
        (fun outcome after => after.keep (world.cells.size + 3 + position) outcome) ∧
      ∀ others : List Command, others.length = branches.length → others[position]? = some branch →
        (run host (depth + 2) command (left :: sign :: right :: others) kinds).run.run world =
          (run host (depth + 2) command (left :: sign :: right :: branches) kinds).run.run world

/-- The command `param`, when it has read its index, comes to the same as the argument with that index,
which has not run before, in the frames around the line that is running. -/
def AnswersArgument (host : Host σ) (kinds : List Kind) (world : World σ) : Prop :=
  ∀ (depth : Nat) (command given : Command) (surplus : List Command) (word : String) (index : Nat)
    (frame : Frame) (frames : Frames) (cell : Nat) (argument : Command) (asked : World σ),
    command.function? = some Builtin.parameter.function →
    world.context.frames = frame :: frames →
    (Eval.text (run host (depth + 1)) (.lazy world.cells.size given)).run.run
      (world.grow (surplus.length + 1)) = some (.ok word, asked) →
    Binding.coerce word .int = .ok (.int (some index)) →
    frame[index]? = some (.lazy cell argument) → asked.kept? cell = none →
    asked.outside.context.frames = frames ∧
      (run host (depth + 2) command (given :: surplus) kinds).ComesLike world
        (run host depth argument [] kinds) asked.outside
        fun outcome after => (after.keep cell outcome).inside frame

/-- The command `eval` on one text comes to the same as the text as a line, where nothing has changed
but that the text has been read. -/
def AnswersLine (host : Host σ) (kinds : List Kind) (world : World σ) : Prop :=
  ∀ (depth : Nat) (command : Command) (text : String),
    command.function? = some Builtin.eval.function →
    world.ReadsOn (world.readWord text) world.context.frames ∧
      (run host (depth + 3) command [.literal text] kinds).ComesLike world
        (callLine (run host (depth + 2)) text kinds) (world.readWord text) fun _ after => after

/-- The command `eval`, when its first argument has been evaluated to a command, comes to the same as
that command on the other arguments. -/
def AnswersCommand (host : Host σ) (kinds : List Kind) (world : World σ) : Prop :=
  ∀ (depth : Nat) (command first : Command) (rest : List Command) (callee : Command)
    (evaluated : World σ),
    command.function? = some Builtin.eval.function →
    (run host (depth + 1) (.lazy world.cells.size first) [] Kind.commandOrText).run.run
      (world.grow (rest.length + 1)) = some (.ok (.command callee), evaluated) →
    (run host (depth + 2) command (first :: rest) kinds).ComesLike world
      (run host (depth + 1) callee (sharedFrom (world.cells.size + 1) rest) kinds) evaluated
      fun _ after => after

variable (honest : host.HonoursKinds) (wanted : ∃ kind ∈ kinds, kind ≠ .command)
include honest wanted

theorem answersBranch {states : Matching → σ → σ → Prop} (persistent : Persistent states)
    (blind : host.Blind states world.cells.size) (closed : world.Closed)
    (application : ∀ matching : Matching,
      (∀ cell, cell < world.cells.size → matching.live cell cell) →
        states matching world.application world.application) :
    AnswersBranch host kinds world := by
  intro depth command left sign right branches first relation second comparator branch tested
    isFunction within evaluates reads position found
  have size : world.cells.size + 1 + 1 + 1 = world.cells.size + 3 := rfl
  have unread : tested.kept? (world.cells.size + 3 + position) = none := by
    have before : position < branches.length := (List.getElem?_eq_some_iff.1 found).1
    rw [Nat.add_comm branches.length] at evaluates
    refine closed.unread persistent blind application within evaluates ?_ ?_
    · exact Nat.le_add_right _ _
    · rw [List.length_cons, List.length_cons, List.length_singleton]
      omega
  have answers (others : List Command) (same : others.length = branches.length)
      (there : others[position]? = some branch) :
      (run host (depth + 2) command (left :: sign :: right :: others) kinds).run.run world =
        (Eval.recorded (run host (depth + 1) (.lazy (world.cells.size + 3 + position) branch) []
          kinds)).run.run tested := by
    refine run_of_repeats wanted isFunction rfl rfl ?_ fun reply after runs =>
      run_keeps honest _ _ _ _ _ _ _ runs reply rfl
    refine Builtin.Choose.repeats_run ?_ reads (getElem?_sharedFrom there) kinds
    rw [← same] at evaluates
    exact evaluates
  refine ⟨?_, fun others same there => ?_⟩
  · exact (lazy_comesLike honest depth unread branch [] kinds).recorded.of_run_eq
      (answers branches rfl found)
  · rw [answers others same there, answers branches rfl found]

theorem answersArgument : AnswersArgument host kinds world := by
  intro depth command given surplus word index frame frames cell argument asked isFunction running
    evaluates reads found unread
  have opened : (world.grow (surplus.length + 1)).context.frames = frame :: frames := running
  have asking : asked.context.frames = frame :: frames :=
    ((Eval.closed_lasts World.lasting_frames).text
      (run_lasts World.lasting_frames (depth + 1)) _ _ _ _ evaluates).trans opened
  refine ⟨?_, ?_⟩
  · rw [World.outside, Context.pop, asking]
    rfl
  · have hidden : asked.outside.kept? cell = none := unread
    have called := lazy_comesLike honest depth hidden argument [] kinds
    have steps : (step host (run host (depth + 1)) (callLine (run host (depth + 1))) command
        (given :: surplus) kinds).run.run world =
          ((run host (depth + 1) (.lazy cell argument) [] kinds).run.run asked.outside).map
            fun made => (made.1, made.2.inside frame) := by
      refine run_step_of_invoke (fun after => after.inside frame) isFunction
        (run_reach_parameter evaluates reads wanted) ?_ ?_
      · exact run_invoke_parameter _ _ asking found
      · exact fun reply after runs => run_keeps honest _ _ _ _ _ _ _ runs reply rfl
    refine (called.map (fun after => after.inside frame) steps ?_).recorded
    rintro before _ ⟨journal, rfl⟩
    exact ⟨journal, rfl⟩

theorem answersLine : AnswersLine host kinds world := by
  intro depth command text isFunction
  refine ⟨world.readsOn_readWord text, ?_⟩
  have read : (run host (depth + 2) (.lazy world.cells.size (.literal text)) []
      Kind.commandOrText).run.run (world.grow 1) = some (.ok (.text text), world.readWord text) := by
    have fresh : (world.grow 1).kept? world.cells.size = none := by
      rw [World.kept?_grow]
      exact World.kept?_eq_none (Nat.le_refl _)
    rw [run, Eval.run_recorded, step, run_callLazy_of_unsettled fresh, run_literal host depth text rfl]
    rfl
  have answers : (run host (depth + 3) command [.literal text] kinds).run.run world =
      (Eval.recorded (callLine (run host (depth + 2)) text kinds)).run.run (world.readWord text) :=
    run_of_repeats wanted isFunction rfl rfl (Builtin.Eval.repeats_run_line read kinds)
      fun reply after runs =>
        callLine_keeps (run_keeps honest (depth + 2)) _ _ _ _ _ runs reply rfl
  exact (Eval.comesLike_self _ _).recorded.of_run_eq answers

theorem answersCommand : AnswersCommand host kinds world := by
  intro depth command first rest callee evaluated isFunction evaluates
  have answers : (run host (depth + 2) command (first :: rest) kinds).run.run world =
      (Eval.recorded (run host (depth + 1) callee (sharedFrom (world.cells.size + 1) rest)
        kinds)).run.run evaluated :=
    run_of_repeats wanted isFunction rfl rfl (Builtin.Eval.repeats_run_command evaluates _ kinds)
      fun reply after runs => run_keeps honest _ _ _ _ _ _ _ runs reply rfl
  exact (Eval.comesLike_self _ _).recorded.of_run_eq answers

/-- The commands that answer in the place of another one are transparent, for every list of kinds with
one in it that is no command. What they come to is what that other one comes to, its errors included,
and the world is left as that one leaves it, but for the journal and for the cell that keeps what it
answered.

The commands of the application must answer with a kind that they are asked for. So that the condition
of an `if` can have nothing to do with its branches, the code of the application must be blind. -/
theorem forwarding_is_transparent {states : Matching → σ → σ → Prop} (persistent : Persistent states)
    (blind : host.Blind states world.cells.size) (closed : world.Closed)
    (application : ∀ matching : Matching,
      (∀ cell, cell < world.cells.size → matching.live cell cell) →
        states matching world.application world.application) :
    AnswersBranch host kinds world ∧ AnswersArgument host kinds world ∧
      AnswersLine host kinds world ∧ AnswersCommand host kinds world :=
  ⟨answersBranch honest wanted persistent blind closed application, answersArgument honest wanted,
    answersLine honest wanted, answersCommand honest wanted⟩

omit honest wanted in
/-- Where the condition holds, the answer is that of the first branch, whatever the other branch is. -/
theorem forwarding_is_transparent_if :
    let world := World.start (.empty .standard) (.fresh .unlimited none) () 0
    world.Closed ∧ Host.none.HonoursKinds ∧ (∃ kind ∈ [Kind.string], kind ≠ .command) ∧
    ∀ other, ∃ after,
      (run Host.none 5 (.documented Builtin.choose.documented)
        [.literal "a", .literal "==", .literal "a", .literal "x", other] [.string]).run.run world =
          some (.ok (.text "x"), after) := by
  intro world
  have closed : world.Closed :=
    ⟨fun cell command impossible => (nomatch impossible), fun frame inside => (nomatch inside),
      ⟨trivial, fun node inside => (nomatch inside)⟩, fun cell frames inside => (nomatch inside)⟩
  have honest : Host.none.HonoursKinds := Host.honoursKinds_of_foreign fun _ => rfl
  have wanted : ∃ kind ∈ [Kind.string], kind ≠ .command := ⟨.string, by decide, by decide⟩
  have persistent : Persistent fun (_ : Matching) => @Eq Unit := fun _ _ _ _ _ same => same
  refine ⟨closed, honest, wanted, fun other => ?_⟩
  obtain ⟨answersBranch, _⟩ := forwarding_is_transparent honest wanted persistent
    (Host.blind_none _ _) closed fun _ _ => rfl
  have within : ∀ part ∈ [Command.literal "a", .literal "==", .literal "a"],
      part.Within world.cells.size := by
    intro part inside
    simp only [List.mem_cons, List.not_mem_nil, or_false] at inside
    rcases inside with rfl | rfl | rfl <;> exact fun cell impossible => impossible
  have selected : Builtin.Choose.selected .equal "a" "a" = 0 := by decide +kernel
  have found : [Command.literal "x", other][Builtin.Choose.selected .equal "a" "a"]? =
      some (.literal "x") := by
    rw [selected]
    rfl
  obtain ⟨like, _⟩ := answersBranch 3 (.documented Builtin.choose.documented) (.literal "a")
    (.literal "==") (.literal "a") [.literal "x", other] "a" "==" "a" .equal (.literal "x") _ rfl
    within rfl rfl found
  obtain ⟨after, runs, _⟩ := like.back (run_literal Host.none 2 "x" rfl)
  exact ⟨after, runs⟩

end Evaluate

end ChatLine
