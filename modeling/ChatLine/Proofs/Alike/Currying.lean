import ChatLine.Proofs.Alike.Progress

set_option autoImplicit false

namespace ChatLine

variable {σ α : Type}

open Command

namespace Eval

/-- What two computations end with differs in nothing but cells. The cells `owned` of the first world
belong, in order, to cells of the second one that follow each other from `base` on. -/
def SameEnd (states : Matching → σ → σ → Prop) (base : Nat) (owned : List Nat)
    (rel : Matching → α → α → Prop) (made other : Except CommandError α × World σ) : Prop :=
  ∃ matching : Matching, List.Forall₂ matching.live owned (List.range' base owned.length) ∧
    made.2.Alike states base matching other.2 ∧ Ended (rel matching) made.1 other.1

/-- Given enough depth, either both computations have a result or none has, and they end alike. -/
structure EndAlike (states : Matching → σ → σ → Prop) (base : Nat) (owned : List Nat)
    (rel : Matching → α → α → Prop) (first second : Nat → Eval σ α) (world other : World σ) :
    Prop where
  there : ∀ depth made, (first depth).run.run world = some made →
    ∃ otherDepth otherMade, (second otherDepth).run.run other = some otherMade ∧
      SameEnd states base owned rel made otherMade
  back : ∀ depth made, (second depth).run.run other = some made →
    ∃ otherDepth otherMade, (first otherDepth).run.run world = some otherMade ∧
      SameEnd states base owned rel otherMade made

/-- Computations end alike if they agree at all depths that are great enough. -/
theorem endAlike_of_agree {states : Matching → σ → σ → Prop} {base : Nat} {owned : List Nat}
    {rel : Matching → α → α → Prop} {first second : Nat → Eval σ α} {world other : World σ}
    {matching : Matching} {enough : Nat} (more otherMore : Nat)
    (deeper : ∀ less depth, less ≤ depth → (first less).Approximates (first depth))
    (otherDeeper : ∀ less depth, less ≤ depth → (second less).Approximates (second depth))
    (pairs : List.Forall₂ matching.live owned (List.range' base owned.length))
    (agrees : ∀ depth, enough ≤ depth →
      Agree states base rel matching (first (depth + more)) (second (depth + otherMore)) world
        other) :
    EndAlike states base owned rel first second world other where
  there := by
    rintro depth ⟨result, after⟩ runs
    have agree := agrees (max depth enough) (Nat.le_max_right _ _)
    have within : depth ≤ max depth enough + more := by omega
    obtain ⟨otherResult, otherAfter, otherRuns, later, grows, alike, ended⟩ :=
      agree.there (deeper _ _ within world _ runs)
    exact ⟨_, _, otherRuns, later, pairs.imp fun _ _ pair => grows.live pair, alike, ended⟩
  back := by
    rintro depth ⟨result, after⟩ runs
    have agree := agrees (max depth enough) (Nat.le_max_right _ _)
    have within : depth ≤ max depth enough + otherMore := by omega
    obtain ⟨otherResult, otherAfter, otherRuns, later, grows, alike, ended⟩ :=
      agree.back (otherDeeper _ _ within other _ runs)
    exact ⟨_, _, otherRuns, later, pairs.imp fun _ _ pair => grows.live pair, alike, ended⟩

theorem run_of_recorded {action : Eval σ α} {world after : World σ} {value : α}
    (runs : (recorded action).run.run world = some (.ok value, after)) :
    action.run.run world = some (.ok value, after) := by
  rw [run_recorded] at runs
  obtain ⟨⟨result, last⟩, ends, same⟩ := Option.map_eq_some_iff.1 runs
  obtain ⟨rfl, rfl⟩ := Prod.mk.inj same
  exact ends

end Eval

/-- The function on arguments that it was given in chunks, each by a call that answered with the
function on all arguments so far and did not run its code. The cells `owned` are those in which the
arguments were first put. -/
inductive Curried (host : Host σ) (f : Function) (start : World σ) :
    List Command → List Nat → Command → World σ → Prop
  | start : Curried host f start [] [] (.function f) start
  | call {given chunk : List Command} {owned : List Nat} {callee next : Command}
    {world after : World σ} {kinds : List Kind} {depth : Nat}
    (before : Curried host f start given owned callee world)
    (defers : f.defers (given ++ chunk).length kinds = true)
    (runs : (Evaluate.run host depth callee chunk kinds).run.run world =
      some (.ok (.command next), after)) :
    Curried host f start (given ++ chunk)
      (owned ++ List.range' (world.cells.size + given.length) chunk.length) next after

namespace Evaluate

variable {states : Matching → σ → σ → Prop} {base : Nat} {matching : Matching} {host : Host σ}
  {f : Function} {world other : World σ}

/-- A call of a function on further arguments is a call on all of them, deeper down. -/
theorem exists_of_run_curry {bound chunk : List Command} {kinds : List Kind} {depth : Nat}
    {reply : Reply} {after : World σ}
    (runs : (run host depth (f.curry bound) chunk kinds).run.run world = some (.ok reply, after)) :
    ∃ less, (callFunction host (run host less) (callLine (run host less)) f (bound ++ chunk)
      kinds).run.run world = some (.ok reply, after) := by
  have ofFunction {depth : Nat} {arguments : List Command}
      (runs : (run host depth (.function f) arguments kinds).run.run world =
        some (.ok reply, after)) :
      ∃ less, (callFunction host (run host less) (callLine (run host less)) f arguments
        kinds).run.run world = some (.ok reply, after) := by
    cases depth with
    | zero => cases runs
    | succ depth => exact ⟨depth, Eval.run_of_recorded runs⟩
  cases bound with
  | nil => exact ofFunction runs
  | cons first bound =>
    cases depth with
    | zero => cases runs
    | succ depth => exact ofFunction (Eval.run_of_recorded runs)

/-- A call of a function on further arguments agrees with a direct call if the calls on all arguments
do. -/
theorem exists_run_curry_agrees (bound chunk arguments : List Command) (kinds : List Kind)
    {rel : Matching → Reply → Reply → Prop} :
    ∃ more, ∀ depth, Eval.Agree states base rel matching
        (callFunction host (run host depth) (callLine (run host depth)) f (bound ++ chunk) kinds)
        (callFunction host (run host depth) (callLine (run host depth)) f arguments kinds) world
        other →
      Eval.Agree states base rel matching (run host (depth + more) (f.curry bound) chunk kinds)
        (run host (depth + 1) (.function f) arguments kinds) world other := by
  cases bound with
  | nil => exact ⟨1, fun depth agree => agree.recorded⟩
  | cons first bound => exact ⟨2, fun depth agree => agree.recorded.recordedAlone⟩

/-- What comes out of a series of calls that defer: the function on arguments that it was given. -/
theorem exists_progress (persistent : Persistent states) {start world : World σ}
    (blind : host.Blind states start.cells.size) (closed : start.Closed)
    (application : ∀ matching : Matching,
      (∀ cell, cell < start.cells.size → matching.live cell cell) →
        states matching start.application start.application)
    {given : List Command} {owned : List Nat} {callee : Command}
    (curried : Curried host f start given owned callee world)
    (within : ∀ argument ∈ given, argument.Within start.cells.size) :
    ∃ bound, callee = f.curry bound ∧ ∀ extra, ∃ matching other texts,
      Progress states host f start given owned bound world extra matching other texts := by
  induction curried with
  | start =>
    refine ⟨[], rfl, fun extra => ⟨_, _, [], Progress.begin closed f extra ?_⟩⟩
    exact application _ (Matching.start_own _ extra)
  | @call given chunk owned callee next world after kinds depth before defers runs ih =>
    obtain ⟨ofGiven, ofChunk⟩ := List.forall_mem_append.1 within
    obtain ⟨bound, rfl, further⟩ := ih ofGiven
    obtain ⟨less, called⟩ := exists_of_run_curry runs
    have goes (extra : Nat) : Reply.command next =
          .command (f.curry (sharedFrom world.cells.size (bound ++ chunk))) ∧
        ∃ later last contents, Progress states host f start (given ++ chunk)
          (owned ++ List.range' (world.cells.size + given.length) chunk.length)
          (sharedFrom world.cells.size (bound ++ chunk)) after extra later last contents := by
      obtain ⟨matching, other, texts, progress⟩ := further (chunk.length + extra)
      rw [← progress.titles.length_eq]
      exact progress.next persistent blind ofChunk defers called
    obtain ⟨same, _⟩ := goes 0
    cases same
    exact ⟨_, rfl, fun extra => (goes extra).2⟩

theorem prepare_approximates {call other : Caller σ} (calls : call.Approximates other) (f : Function)
    (arguments : List Command) (kinds : List Kind) :
    (prepare call f arguments kinds).Approximates (prepare other f arguments kinds) := by
  apply (Eval.approximates_refl _).bind
  intro shared
  exact (Eval.congruence_approximates.bindFormals calls kinds shared f.formals shared).bind fun _ =>
    Eval.approximates_refl _

/-- Bindings that are alike are accepted alike. -/
theorem accept_alike (f : Function) (count : Nat) (kinds : List Kind)
    {bound otherBound : Bindings × List Command}
    (alike : Function.BoundAlike matching bound otherBound) :
    Ended (Bindings.Alike matching) (f.accept count kinds bound)
      (f.accept count kinds otherBound) := by
  unfold Function.accept
  rw [alike.2.length_eq]
  dsimp only
  split
  · exact .error _
  · split
    · exact .error _
    · exact .ok alike.1

/-- The last call binds the parameters as the direct call does. What was evaluated before makes no
difference to the one, and can be taken off the front of the other. -/
theorem prepare_agrees (persistent : Persistent states) {start : World σ}
    (blind : host.Blind states start.cells.size) {given bound chunk : List Command}
    {owned : List Nat} {texts : List String}
    (progress : Progress states host f start given owned bound world (chunk.length + 0) matching
      other texts)
    (within : ∀ argument ∈ chunk, argument.Within start.cells.size) (kinds : List Kind) :
    ∃ enough aligned, List.Forall₂ aligned.live
        (owned ++ List.range' (world.cells.size + given.length) chunk.length)
        (List.range' start.cells.size (given ++ chunk).length) ∧
      ∀ depth, enough ≤ depth →
        Eval.Agree states start.cells.size Bindings.Alike aligned
          (prepare (run host depth) f (bound ++ chunk) kinds)
          (prepare (run host depth) f (given ++ chunk) kinds) world start := by
  obtain ⟨aligned, opened, align⟩ := progress.align persistent within
  obtain ⟨less, before⟩ := progress.evaluated
  rw [← progress.titles.length_eq]
  refine ⟨less + 2, aligned, align.owned, ?_⟩
  intro depth deep
  obtain ⟨depth, rfl⟩ : ∃ shallower, depth = shallower + 2 := ⟨depth - 2, by omega⟩
  have calls := run_agrees persistent blind (depth + 2)
  have deeper : (run host less).Approximates (run host (depth + 2)) :=
    run_approximates (by omega)
  replace before := Eval.congruence_approximates.texts deeper _ _ _ before
  rw [Nat.add_zero chunk.length, ← List.length_append] at before
  have binds : Eval.Agree states start.cells.size Function.BoundAlike aligned
      (Function.bindFormals (run host (depth + 2)) kinds
        (sharedFrom world.cells.size (bound ++ chunk)) f.formals
        (sharedFrom world.cells.size (bound ++ chunk)))
      (Function.bindFormals (run host (depth + 2)) kinds
        (sharedFrom start.cells.size (given ++ chunk)) f.formals
        (sharedFrom start.cells.size (given ++ chunk)))
      (world.grow (bound ++ chunk).length) (start.grow (given ++ chunk).length) := by
    have agree := Function.bindFormals_agree calls align.alike kinds f.formals align.all align.all
    apply agree.of_same_runs
    · exact Function.bindFormals_of_tells (align.replayed depth) align.tell progress.reads chunk
    · exact Function.bindFormals_of_tells before progress.otherTell progress.reads chunk
  apply Eval.agree_after (Eval.run_share (bound ++ chunk) world)
    (Eval.run_share (given ++ chunk) start) (.refl aligned)
  apply binds.bind
  intro later bindings otherBindings after otherAfter _ alike both
  rw [align.all.length_eq]
  exact Eval.agree_ofExcept alike (accept_alike f _ kinds both)

/-- Values that are alike are delivered as the same reply, if no command is wanted. -/
theorem deliver_eq {value second : Value} (values : value.Alike matching second) (f : Function)
    {kinds : List Kind} (plain : Kind.command ∉ kinds) :
    value.deliver f kinds = second.deliver f kinds := by
  have ended := values.deliver f kinds
  generalize delivered : value.deliver f kinds = result at ended ⊢
  generalize second.deliver f kinds = otherResult at ended ⊢
  cases ended with
  | error error => rfl
  | ok replies =>
    have wanted := kind_mem_of_deliver delivered
    rw [replies.eq_of_kind_ne fun isCommand => plain (isCommand ▸ wanted)]

/-- The function, asked for these kinds, runs its code when all is prepared, and just once. -/
def RunsCodeOnce (host : Host σ) (f : Function) (kinds : List Kind) : Prop :=
  ∀ call line arguments, callFunction host call line f arguments kinds = do
    let bindings ← prepare call f arguments kinds
    let value ← invoke host call line f bindings
    Eval.ofExcept (value.deliver f kinds)

theorem runsCodeOnce {kinds : List Kind} (plain : Kind.command ∉ kinds) :
    RunsCodeOnce host f kinds := by
  intro call line arguments
  apply callFunction_of_not_defers
  have notWanted : kinds.contains .command = false := by
    rw [← Bool.not_eq_true, List.contains_iff_mem]
    exact plain
  have notFirst : kinds.head? ≠ some .command := by
    intro first
    exact plain (List.mem_of_mem_head? first)
  unfold Function.defers
  split
  · exact notWanted
  · rw [beq_eq_false_iff_ne.2 notFirst, Bool.and_false]

/-- Asked for kinds other than commands, calls agree on the very reply if they are prepared alike. -/
theorem callFunction_agrees_of_prepare {call : Caller σ} {line : LineCaller σ}
    (blind : host.Blind states base) (calls : call.Agrees states base)
    (lines : line.Agrees states base) {arguments others : List Command} {kinds : List Kind}
    (plain : Kind.command ∉ kinds)
    (prepared : Eval.Agree states base Bindings.Alike matching (prepare call f arguments kinds)
      (prepare call f others kinds) world other) :
    Eval.Agree states base (fun _ => Eq) matching (callFunction host call line f arguments kinds)
      (callFunction host call line f others kinds) world other := by
  rw [runsCodeOnce plain, runsCodeOnce plain]
  apply prepared.bind
  intro later bindings otherBindings ready otherReady _ alike bound
  apply (invoke_agrees blind calls lines alike f bound).bind
  intro last value otherValue after otherAfter _ alike values
  rw [deliver_eq values f plain]
  exact Eval.agree_ofExcept alike (.self _)

/-- A function that was given its arguments in chunks completes with the result of one call on all of
them: for kinds that are not commands, the last call and the direct call result in the same reply or
the same error, or neither comes to an end. Before, both bind the parameters, and then run the code of
the function, just once, on bindings and in worlds that differ in nothing but cells. In the end the
journals tell of the same lines and of the same arguments that ran, in the same order, but for the
failures and for the cells around arguments that had run already; and bot, budget, generator and the
state of the application are as after the direct call.

The code of the application must be blind: it must not tell cells apart. -/
theorem curried_call_is_direct_call (persistent : Persistent states) {start : World σ}
    (blind : host.Blind states start.cells.size) (closed : start.Closed)
    (application : ∀ matching : Matching,
      (∀ cell, cell < start.cells.size → matching.live cell cell) →
        states matching start.application start.application)
    {given chunk : List Command} {owned : List Nat} {callee : Command} {kinds : List Kind}
    (curried : Curried host f start given owned callee world)
    (within : ∀ argument ∈ given ++ chunk, argument.Within start.cells.size)
    (plain : Kind.command ∉ kinds) :
    let cells := owned ++ List.range' (world.cells.size + given.length) chunk.length
    RunsCodeOnce host f kinds ∧
      (∃ bound, callee = f.curry bound ∧
        Eval.EndAlike states start.cells.size cells Bindings.Alike
          (fun depth => prepare (run host depth) f (bound ++ chunk) kinds)
          (fun depth => prepare (run host depth) f (given ++ chunk) kinds) world start) ∧
      Eval.EndAlike states start.cells.size cells (fun _ => Eq)
        (fun depth => run host depth callee chunk kinds)
        (fun depth => run host depth (.function f) (given ++ chunk) kinds) world start := by
  intro cells
  obtain ⟨ofGiven, ofChunk⟩ := List.forall_mem_append.1 within
  obtain ⟨bound, rfl, further⟩ := exists_progress persistent blind closed application curried ofGiven
  obtain ⟨matching, other, texts, progress⟩ := further (chunk.length + 0)
  obtain ⟨enough, aligned, pairs, prepared⟩ :=
    prepare_agrees persistent blind progress ofChunk kinds
  have count : (given ++ chunk).length = cells.length := by
    rw [pairs.length_eq, List.length_range']
  rw [count] at pairs
  have prepares (arguments : List Command) (less depth : Nat) (within : less ≤ depth) :
      (prepare (run host less) f arguments kinds).Approximates
        (prepare (run host depth) f arguments kinds) :=
    prepare_approximates (run_approximates within) f arguments kinds
  have runs (command : Command) (arguments : List Command) (less depth : Nat)
      (within : less ≤ depth) : (run host less command arguments kinds).Approximates
        (run host depth command arguments kinds) :=
    run_approximates within command arguments kinds
  refine ⟨runsCodeOnce plain, ⟨bound, rfl, ?_⟩, ?_⟩
  · exact Eval.endAlike_of_agree 0 0 (prepares _) (prepares _) pairs prepared
  · obtain ⟨more, completes⟩ := exists_run_curry_agrees bound chunk (given ++ chunk) kinds
    apply Eval.endAlike_of_agree more 1 (runs _ _) (runs _ _) pairs
    intro depth deep
    have calls := run_agrees persistent blind depth
    apply completes
    exact callFunction_agrees_of_prepare blind calls (callLine_agrees calls) plain
      (prepared depth deep)

/-- Two texts that are given to a function one after the other are printed as if given at once. -/
theorem curried_call_is_direct_call_print :
    let start := World.start (.empty .standard) (.fresh .unlimited none) () 0
    let print := Builtin.print.function
    let callee := print.curry [Command.lazy 0 (.literal "a")]
    ∃ world after,
      (run Host.none 3 (.function print) [.literal "a"] [.command]).run.run start =
          some (.ok (.command callee), world) ∧
        (run Host.none 5 callee [.literal "b"] [.string]).run.run world =
            some (.ok (.text "ab"), after) ∧
          ∃ depth otherAfter, (run Host.none depth (.function print)
              [.literal "a", .literal "b"] [.string]).run.run start =
                some (.ok (.text "ab"), otherAfter) ∧
            ∃ matching : Matching, matching.live 0 0 ∧ matching.live 2 1 ∧
              Journal.Alike matching after.journal otherAfter.journal := by
  intro start print callee
  have ends : ∃ world after,
      (run Host.none 3 (.function print) [.literal "a"] [.command]).run.run start =
          some (.ok (.command callee), world) ∧
        (run Host.none 5 callee [.literal "b"] [.string]).run.run world =
            some (.ok (.text "ab"), after) ∧ world.cells.size = 1 :=
    ⟨_, _, rfl, by rfl, by rfl⟩
  obtain ⟨world, after, runs, completes, size⟩ := ends
  have closed : start.Closed :=
    ⟨fun cell command impossible => (nomatch impossible), fun frame inside => (nomatch inside),
      ⟨trivial, fun node inside => (nomatch inside)⟩, fun cell frames inside => (nomatch inside)⟩
  have curried : Curried Host.none print start [.literal "a"] [0] callee world :=
    .call .start rfl runs
  have within : ∀ argument ∈ [Command.literal "a"] ++ [Command.literal "b"],
      argument.Within start.cells.size :=
    List.forall_mem_cons.2 ⟨fun cell impossible => impossible,
      List.forall_mem_singleton.2 fun cell impossible => impossible⟩
  have plain : Kind.command ∉ [Kind.string] := by decide
  have persistent : Persistent fun (_ : Matching) => @Eq Unit := fun _ _ _ _ _ same => same
  have same := curried_call_is_direct_call persistent (Host.blind_none _ _) closed (fun _ _ => rfl)
    curried within plain
  obtain ⟨depth, ⟨_, otherAfter⟩, direct, matching, pairs, alike, ended⟩ :=
    same.2.2.there 5 _ completes
  rw [size] at pairs
  cases ended with
  | ok reply =>
    cases reply
    refine ⟨world, after, runs, completes, depth, otherAfter, direct, matching, ?_, ?_,
      alike.journal⟩
    · exact (List.forall₂_cons.1 pairs).1
    · exact (List.forall₂_cons.1 (List.forall₂_cons.1 pairs).2).1

end Evaluate

end ChatLine
