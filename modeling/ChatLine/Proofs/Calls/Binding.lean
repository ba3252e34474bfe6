import ChatLine.Proofs.Calls.Cells
import ChatLine.Proofs.Calls.Programs
import Mathlib.Data.List.Forall2

set_option autoImplicit false

namespace ChatLine

variable {σ : Type}

theorem Binding.exists_of_coerce {word : String} {type : ParamType} {binding : Binding}
    (found : coerce word type = .ok binding) :
    (∃ value, binding = .int (some value)) ∨ (∃ value, binding = .float (some value)) ∨
      binding = .text (some word) := by
  unfold coerce at found
  cases type with
  | int =>
    dsimp only at found
    split at found <;> cases found
    exact .inl ⟨_, rfl⟩
  | float =>
    dsimp only at found
    split at found <;> cases found
    exact .inr (.inl ⟨_, rfl⟩)
  | double =>
    dsimp only at found
    split at found <;> cases found
    exact .inr (.inl ⟨_, rfl⟩)
  | string =>
    cases found
    exact .inr (.inr rfl)
  | other name =>
    cases found
    exact .inr (.inr rfl)

theorem Binding.coerce_ne_arguments {text : String} {type : ParamType} {binding : Binding}
    (found : coerce text type = .ok binding) (given : List Command) :
    binding ≠ .arguments given := by
  obtain ⟨value, rfl⟩ | ⟨value, rfl⟩ | rfl := exists_of_coerce found <;> exact nofun

namespace Formal

/-- The formals take arguments with these texts, and can read each of them as its type. -/
def Reads : List Formal → List String → Prop
  | _, [] => True
  | [], _ :: _ => False
  | .plain type :: formals, text :: texts =>
    (∃ binding, Binding.coerce text type = .ok binding) ∧ Reads formals texts
  | .tail :: _, _ :: _ => True
  | .context :: formals, text :: texts => Reads formals (text :: texts)
  | .arguments :: formals, text :: texts => Reads formals (text :: texts)
  | .kinds :: formals, text :: texts => Reads formals (text :: texts)

theorem reads_nil (formals : List Formal) : Reads formals [] := by
  cases formals <;> trivial

/-- A formal that is not positional leaves the texts to the others. -/
theorem reads_cons {formal : Formal} (plain : formal.isPositional = false) (formals : List Formal)
    (texts : List String) : Reads (formal :: formals) texts ↔ Reads formals texts := by
  cases texts with
  | nil => exact ⟨fun _ => reads_nil formals, fun _ => reads_nil _⟩
  | cons text texts =>
    cases formal with
    | plain type => cases plain
    | tail => cases plain
    | _ => exact Iff.rfl

theorem length_positional_cons {formal : Formal} (plain : formal.isPositional = false)
    (formals : List Formal) : (positional (formal :: formals)).length =
      (positional formals).length := by
  simp only [positional, List.filter_cons, plain, Bool.false_eq_true, if_false]

end Formal

namespace Eval

variable {call : Caller σ}

/-- The texts of the commands are those given, whenever they are asked for again, and asking changes
nothing. -/
def Replay (call : Caller σ) (world : World σ) (commands : List Command) (texts : List String) :
    Prop :=
  List.Forall₂ (fun command content => (text call command).run.run world = some (.ok content, world))
    commands texts

theorem texts_append (first second : List Command) :
    texts call (first ++ second) =
      texts call first >>= fun contents => texts call second >>= fun others =>
        pure (contents ++ others) := by
  induction first with
  | nil => simp only [List.nil_append, texts, pure_bind, bind_pure]
  | cons command rest ih =>
    simp only [List.cons_append, texts, ih, bind_assoc, pure_bind, List.cons_append]

theorem Replay.run_texts {world : World σ} {commands : List Command} {contents : List String}
    (replay : Replay call world commands contents) :
    (texts call commands).run.run world = some (.ok contents, world) := by
  induction replay with
  | nil => rfl
  | cons first others ih => simp only [texts, run_bind, first, ih, run_pure]

theorem run_texts_of_parts {world middle after : World σ} {first second : List Command}
    {contents others : List String}
    (runs : (texts call first).run.run world = some (.ok contents, middle))
    (rest : (texts call second).run.run middle = some (.ok others, after)) :
    (texts call (first ++ second)).run.run world = some (.ok (contents ++ others), after) := by
  simp only [texts_append, run_bind, runs, rest, run_pure]

theorem exists_of_run_texts_cons {command : Command} {rest : List Command} {contents : List String}
    {world after : World σ}
    (runs : (texts call (command :: rest)).run.run world = some (.ok contents, after)) :
    ∃ content others middle, contents = content :: others ∧
      (text call command).run.run world = some (.ok content, middle) ∧
      (texts call rest).run.run middle = some (.ok others, after) := by
  rcases exists_of_run_bind runs with ⟨_, _, failed⟩ | ⟨content, middle, asked, runs⟩
  · cases failed
  · rcases exists_of_run_bind runs with ⟨_, _, failed⟩ | ⟨others, last, rest, done⟩
    · cases failed
    · cases done
      exact ⟨content, others, middle, rfl, asked, rest⟩

theorem exists_of_run_texts {world middle after : World σ} {first second : List Command}
    {contents all : List String}
    (runs : (texts call first).run.run world = some (.ok contents, middle))
    (both : (texts call (first ++ second)).run.run world = some (.ok all, after)) :
    ∃ others, (texts call second).run.run middle = some (.ok others, after) ∧
      all = contents ++ others := by
  rw [texts_append, run_bind, runs] at both
  rcases exists_of_run_bind both with ⟨_, _, failed⟩ | ⟨others, last, rest, done⟩
  · cases failed
  · cases done
    exact ⟨others, rest, rfl⟩

/-- Texts that are known after the first of them were evaluated can be asked for from the start. -/
theorem run_texts_append {world middle : World σ} {first : List Command} {contents : List String}
    (runs : (texts call first).run.run world = some (.ok contents, middle))
    (replay : Replay call middle first contents) (second : List Command) :
    (texts call (first ++ second)).run.run world =
      (texts call (first ++ second)).run.run middle := by
  simp only [texts_append, run_bind, runs, replay.run_texts]

end Eval

namespace Function

open Formal

variable {call : Caller σ} {kinds : List Kind} {all : List Command}

theorem bindFormals_cons {formal : Formal} {formals : List Formal} {arguments : List Command}
    {world after : World σ} {result : Except CommandError (Bindings × List Command)}
    (runs : (bindFormals call kinds all (formal :: formals) arguments).run.run world =
      some (result, after)) :
    (∃ error, (bindFormal call kinds all formal arguments).run.run world =
        some (.error error, after) ∧ result = .error error) ∨
      ∃ binding rest middle, (bindFormal call kinds all formal arguments).run.run world =
          some (.ok (binding, rest), middle) ∧
        ∃ others, (bindFormals call kinds all formals rest).run.run middle = some (others, after) ∧
          result = others.map fun bound => (binding :: bound.1, bound.2) := by
  rcases Eval.exists_of_run_bind runs with failed | ⟨bound, middle, first, runs⟩
  · exact .inl failed
  · refine .inr ⟨bound.1, bound.2, middle, first, ?_⟩
    rcases Eval.exists_of_run_bind runs with ⟨error, failed, same⟩ | ⟨others, last, second, runs⟩
    · exact ⟨.error error, failed, same⟩
    · cases runs
      exact ⟨.ok others, second, rfl⟩

/-- What binding did: it evaluated the arguments that are `used`, in order and for their texts. If it
came to an end, the formals could read the texts, and where arguments are left every positional
parameter has taken one and there is no tail. -/
structure Bound (call : Caller σ) (formals : List Formal) (arguments used left : List Command)
    (world after : World σ) (result : Except CommandError (Bindings × List Command)) : Prop where
  parts : arguments = used ++ left
  evaluated : ∃ read, (Eval.texts call used).run.run world = some (read, after)
  complete : ∀ bindings rest, result = .ok (bindings, rest) → rest = left ∧
    (left ≠ [] → used.length = (positional formals).length ∧ Formal.tail ∉ formals) ∧
    ∃ texts, (Eval.texts call used).run.run world = some (.ok texts, after) ∧
      Reads formals texts

theorem Bound.cons_plain {formal : Formal} (plain : formal.isPositional = false)
    {formals : List Formal} {arguments used left : List Command} {world after : World σ}
    {others : Except CommandError (Bindings × List Command)} {binding : Binding}
    (bound : Bound call formals arguments used left world after others) :
    Bound call (formal :: formals) arguments used left world after
      (others.map fun bound => (binding :: bound.1, bound.2)) := by
  refine ⟨bound.parts, bound.evaluated, ?_⟩
  intro bindings rest same
  cases others with
  | error error => cases same
  | ok made =>
    cases same
    obtain ⟨nothingElse, full, texts, read, reads⟩ := bound.complete made.1 made.2 rfl
    refine ⟨nothingElse, ?_, texts, read, (reads_cons plain formals texts).2 reads⟩
    intro remains
    obtain ⟨count, noTail⟩ := full remains
    refine ⟨count.trans (length_positional_cons plain formals).symm, ?_⟩
    intro inside
    rcases List.mem_cons.1 inside with rfl | among
    · cases plain
    · exact noTail among

/-- Binding one more plain parameter to an argument that it can read. -/
theorem Bound.cons_argument {type : ParamType} {formals : List Formal} {argument : Command}
    {arguments used left : List Command} {world middle after : World σ} {text : String}
    {others : Except CommandError (Bindings × List Command)} {binding : Binding}
    (bound : Bound call formals arguments used left middle after others)
    (evaluated : (Eval.text call argument).run.run world = some (.ok text, middle))
    (readable : ∃ binding, Binding.coerce text type = .ok binding) :
    Bound call (.plain type :: formals) (argument :: arguments) (argument :: used) left world after
      (others.map fun bound => (binding :: bound.1, bound.2)) := by
  refine ⟨?_, ?_, ?_⟩
  · rw [bound.parts, List.cons_append]
  · obtain ⟨read, runs⟩ := bound.evaluated
    refine ⟨read.map fun texts => text :: texts, ?_⟩
    simp only [Eval.texts, Eval.run_bind, evaluated, runs]
    cases read <;> rfl
  · intro bindings rest same
    cases others with
    | error error => cases same
    | ok made =>
      cases same
      obtain ⟨nothingElse, full, texts, runs, reads⟩ := bound.complete made.1 made.2 rfl
      refine ⟨nothingElse, ?_, text :: texts, ?_, readable, reads⟩
      · intro remains
        obtain ⟨count, noTail⟩ := full remains
        refine ⟨?_, ?_⟩
        · simp only [List.length_cons, count, positional, List.filter_cons, isPositional, if_true]
        · intro inside
          rcases List.mem_cons.1 inside with same | among
          · cases same
          · exact noTail among
      · simp only [Eval.texts, Eval.run_bind, evaluated, runs, Eval.run_pure]

theorem bound_nil (formals : List Formal) {world after : World σ}
    {result : Except CommandError (Bindings × List Command)}
    (runs : (bindFormals call kinds all formals []).run.run world = some (result, after)) :
    Bound call formals [] [] [] world after result := by
  induction formals generalizing world result with
  | nil =>
    cases runs
    refine ⟨rfl, ⟨.ok [], rfl⟩, ?_⟩
    intro bindings rest same
    cases same
    exact ⟨rfl, fun remains => absurd rfl remains, [], rfl, trivial⟩
  | cons formal formals ih =>
    have here : ∃ binding, (bindFormal call kinds all formal []).run.run world =
        some (.ok (binding, []), world) := by
      cases formal <;> exact ⟨_, rfl⟩
    obtain ⟨binding, here⟩ := here
    rcases bindFormals_cons runs with ⟨error, failed, _⟩ | ⟨first, rest, middle, done, others, runs,
      rfl⟩
    · rw [here] at failed
      cases failed
    · rw [here] at done
      cases done
      have bound := ih runs
      refine ⟨rfl, bound.evaluated, ?_⟩
      intro bindings rest same
      cases others with
      | error error => cases same
      | ok made =>
        cases same
        obtain ⟨nothingElse, _, texts, read, _⟩ := bound.complete made.1 made.2 rfl
        cases read
        exact ⟨nothingElse, fun remains => absurd rfl remains, [], rfl, reads_nil _⟩

theorem bound_tail {formals : List Formal} {arguments : List Command} {world after : World σ}
    {result : Except CommandError (Bindings × List Command)}
    (runs : (bindFormals call kinds all (.tail :: formals) arguments).run.run world =
      some (result, after)) :
    Bound call (.tail :: formals) arguments arguments [] world after result := by
  rcases bindFormals_cons runs with ⟨error, failed, rfl⟩ | ⟨binding, rest, middle, done, others,
    runs, rfl⟩
  · rcases Eval.exists_of_run_bind failed with ⟨_, stopped, _⟩ | ⟨texts, middle, read, done⟩
    · exact ⟨(List.append_nil _).symm, ⟨_, stopped⟩, fun _ _ same => nomatch same⟩
    · cases done
  · rcases Eval.exists_of_run_bind done with ⟨_, _, failed⟩ | ⟨texts, last, read, done⟩
    · cases failed
    · cases done
      have nothing := bound_nil formals runs
      obtain ⟨_, stays⟩ := nothing.evaluated
      cases stays
      refine ⟨(List.append_nil _).symm, ⟨_, read⟩, ?_⟩
      intro bindings rest same
      cases others with
      | error error => cases same
      | ok made =>
        cases same
        refine ⟨(nothing.complete made.1 made.2 rfl).1, fun remains => absurd rfl remains, texts,
          read, ?_⟩
        cases texts <;> trivial

theorem run_bindFormal_plain (type : ParamType) (argument : Command) (rest : List Command)
    (world : World σ) :
    (bindFormal call kinds all (.plain type) (argument :: rest)).run.run world =
      ((Eval.text call argument).run.run world).map fun made =>
        (made.1.bind fun text => (Binding.coerce text type).map fun binding => (binding, rest),
          made.2) := by
  simp only [bindFormal, Eval.run_bind]
  cases (Eval.text call argument).run.run world with
  | none => rfl
  | some made =>
    obtain ⟨error | text, after⟩ := made
    · rfl
    · simp only [Eval.run_ofExcept, Option.map_some, Except.bind]
      cases Binding.coerce text type <;> rfl

/-- A plain parameter evaluates one argument, and the others what they need of the rest. -/
theorem exists_bound_plain {type : ParamType} {formals : List Formal} {argument : Command}
    {rest : List Command} {world after : World σ}
    {result : Except CommandError (Bindings × List Command)}
    (ih : ∀ {world after result},
      (bindFormals call kinds all formals rest).run.run world = some (result, after) →
        ∃ used left, Bound call formals rest used left world after result)
    (runs : (bindFormals call kinds all (.plain type :: formals) (argument :: rest)).run.run world =
      some (result, after)) :
    ∃ used left,
      Bound call (.plain type :: formals) (argument :: rest) used left world after result := by
  rcases bindFormals_cons runs with ⟨error, failed, rfl⟩ | ⟨binding, left, middle, done, others,
    runs, rfl⟩
  · rw [run_bindFormal_plain] at failed
    obtain ⟨⟨read, last⟩, evaluated, same⟩ := Option.map_eq_some_iff.1 failed
    obtain ⟨_, rfl⟩ := Prod.mk.inj same
    refine ⟨[argument], rest, rfl, ⟨read.map fun text => [text], ?_⟩, ?_⟩
    · simp only [Eval.texts, Eval.run_bind, evaluated]
      cases read <;> rfl
    · exact fun _ _ same => nomatch same
  · rw [run_bindFormal_plain] at done
    obtain ⟨⟨read, last⟩, evaluated, same⟩ := Option.map_eq_some_iff.1 done
    cases read with
    | error error => cases same
    | ok text =>
      cases readable : Binding.coerce text type with
      | error error =>
        simp only [Except.bind, readable, Except.map, Prod.mk.injEq, reduceCtorEq, false_and]
          at same
      | ok coerced =>
        simp only [Except.bind, readable, Except.map, Prod.mk.injEq, Except.ok.injEq] at same
        obtain ⟨⟨rfl, rfl⟩, rfl⟩ := same
        obtain ⟨used, left, bound⟩ := ih runs
        exact ⟨argument :: used, left, bound.cons_argument evaluated ⟨coerced, readable⟩⟩

/-- Binding evaluates some of the arguments, the first ones. -/
theorem exists_bound (formals : List Formal) (arguments : List Command) {world after : World σ}
    {result : Except CommandError (Bindings × List Command)}
    (runs : (bindFormals call kinds all formals arguments).run.run world = some (result, after)) :
    ∃ used left, Bound call formals arguments used left world after result := by
  induction formals generalizing arguments world after result with
  | nil =>
    cases runs
    refine ⟨[], arguments, rfl, ⟨.ok [], rfl⟩, ?_⟩
    intro bindings rest same
    cases same
    exact ⟨rfl, fun _ => ⟨rfl, List.not_mem_nil⟩, [], rfl, trivial⟩
  | cons formal formals ih =>
    cases formal with
    | plain type =>
      cases arguments with
      | nil => exact ⟨[], [], bound_nil _ runs⟩
      | cons argument rest => exact exists_bound_plain (ih rest) runs
    | tail => exact ⟨arguments, [], bound_tail runs⟩
    | _ =>
      rcases bindFormals_cons runs with ⟨error, failed, _⟩ | ⟨_, _, _, done, others, runs, rfl⟩
      · cases failed
      · cases done
        obtain ⟨used, left, bound⟩ := ih arguments runs
        exact ⟨used, left, bound.cons_plain rfl⟩

/-- Arguments that were evaluated before and answer the same again make no difference to the binding,
if the formals can read their texts. -/
theorem bindFormals_of_replay {formals : List Formal} {first : List Command} {texts : List String}
    {world middle : World σ}
    (evaluated : (Eval.texts call first).run.run world = some (.ok texts, middle))
    (replay : Eval.Replay call middle first texts) (reads : Reads formals texts)
    (rest : List Command) :
    (bindFormals call kinds all formals (first ++ rest)).run.run world =
      (bindFormals call kinds all formals (first ++ rest)).run.run middle := by
  induction formals generalizing first texts world with
  | nil =>
    cases replay with
    | nil =>
      cases evaluated
      rfl
    | cons one others => exact reads.elim
  | cons formal formals ih =>
    cases formal with
    | plain type =>
      cases replay with
      | nil =>
        cases evaluated
        rfl
      | @cons argument text first texts again others =>
        obtain ⟨⟨binding, readable⟩, reads⟩ := reads
        rcases Eval.exists_of_run_bind evaluated with ⟨_, _, failed⟩ | ⟨read, opened, now, later⟩
        · cases failed
        · rcases Eval.exists_of_run_bind later with ⟨_, _, failed⟩ | ⟨contents, last, later, done⟩
          · cases failed
          · cases done
            simp only [List.cons_append, bindFormals, Eval.run_bind, run_bindFormal_plain, now,
              again, Option.map_some, Except.bind, readable, Except.map]
            rw [ih later others reads]
    | tail =>
      simp only [bindFormals, bindFormal, Eval.run_bind,
        Eval.run_texts_append evaluated replay rest]
    | _ =>
      have same := ih evaluated replay ((reads_cons rfl formals texts).1 reads)
      simp only [bindFormals, bindFormal, pure_bind, Eval.run_bind, same]

/-- The only commands that code is given are all arguments of the call. -/
theorem bindFormal_own (formal : Formal) (arguments : List Command) :
    (bindFormal call kinds all formal arguments).Returns fun bound =>
      ∀ given, bound.1 = .arguments given → given = all := by
  cases formal with
  | arguments =>
    apply Eval.returns_pure
    intro given same
    cases same
    rfl
  | context => exact Eval.returns_pure fun _ same => nomatch same
  | kinds => exact Eval.returns_pure fun _ same => nomatch same
  | tail => exact Eval.returns_bind fun texts => Eval.returns_pure fun _ same => nomatch same
  | plain type =>
    cases arguments with
    | nil =>
      apply Eval.returns_pure
      intro given same
      cases type <;> cases same
    | cons argument rest =>
      apply Eval.returns_bind
      intro text
      refine (Eval.returns_ofExcept fun _ found => Binding.coerce_ne_arguments found).bind ?_
      intro binding other
      apply Eval.returns_pure
      exact fun given same => absurd same (other given)

theorem bindFormals_own (formals : List Formal) (arguments : List Command) :
    (bindFormals call kinds all formals arguments).Returns fun bound =>
      ∀ given, .arguments given ∈ bound.1 → given = all := by
  induction formals generalizing arguments with
  | nil => exact Eval.returns_pure fun _ inside => nomatch inside
  | cons formal formals ih =>
    refine (bindFormal_own formal arguments).bind ?_
    rintro ⟨binding, rest⟩ own
    refine (ih rest).bind ?_
    rintro ⟨bindings, left⟩ ownToo
    apply Eval.returns_pure
    intro given inside
    rcases List.mem_cons.1 inside with same | among
    · exact own given same.symm
    · exact ownToo given among

section Count

variable {f : Function} {arguments used left rest : List Command} {world after : World σ}
  {bindings : Bindings}

/-- Where a function could take more arguments than it did, none is left. -/
theorem Bound.rest_eq_nil
    (bound : Bound call f.formals arguments used left world after (.ok (bindings, rest)))
    (more : f.hasTail = true ∨ arguments.length - rest.length < f.positionalCount) : rest = [] := by
  obtain ⟨rfl, full, _⟩ := bound.complete bindings rest rfl
  apply Classical.byContradiction
  intro remains
  obtain ⟨count, noTail⟩ := full remains
  rcases more with tail | fewer
  · exact noTail (List.contains_iff_mem.1 tail)
  · rw [bound.parts, List.length_append, count, positionalCount] at fewer
    omega

/-- A function takes fewer arguments than it could only if there are no more. -/
theorem Bound.taken_lt_iff
    (bound : Bound call f.formals arguments used left world after (.ok (bindings, rest)))
    {count : Nat} (within : count ≤ f.positionalCount) :
    arguments.length - rest.length < count ↔ arguments.length < count := by
  constructor
  · intro fewer
    have nothing := bound.rest_eq_nil (.inr (Nat.lt_of_lt_of_le fewer within))
    rw [nothing] at fewer
    exact fewer
  · intro fewer
    omega

end Count

/-- Whether a call on so many arguments is answered with the function itself and the arguments that it
has, so that the code of the function does not run. -/
def defers (f : Function) (count : Nat) (kinds : List Kind) : Bool :=
  if count < f.required then kinds.contains .command
  else (f.hasTail || count < f.positionalCount) && kinds.head? == some .command

end Function

/-- A call that defers evaluates the arguments as binding them does, and runs no code. -/
theorem Evaluate.callFunction_of_defers {host : Host σ} {call : Caller σ} {line : LineCaller σ}
    {f : Function} {arguments : List Command} {kinds : List Kind}
    (defers : f.defers arguments.length kinds = true) :
    callFunction host call line f arguments kinds =
      Eval.share arguments >>= fun shared =>
        Function.bindFormals call kinds shared f.formals shared >>= fun _ =>
          pure (.command (f.curry shared)) := by
  apply Eval.ext
  intro world
  simp only [callFunction, Eval.run_bind, Eval.run_share]
  cases runs : (Function.bindFormals call kinds (Command.sharedFrom world.cells.size arguments)
      f.formals (Command.sharedFrom world.cells.size arguments)).run.run
        (world.grow arguments.length) with
  | none => rfl
  | some made =>
    obtain ⟨error | ⟨bindings, rest⟩, after⟩ := made
    · rfl
    · obtain ⟨used, left, bound⟩ := Function.exists_bound _ _ runs
      have few := bound.taken_lt_iff f.required_le
      have more := bound.taken_lt_iff (Nat.le_refl f.positionalCount)
      rw [Command.length_sharedFrom] at few more
      unfold Function.defers at defers
      simp only [Command.length_sharedFrom, few, more]
      by_cases short : arguments.length < f.required
      · rw [if_pos short] at defers ⊢
        rw [if_pos defers]
      · rw [if_neg short] at defers ⊢
        obtain ⟨takesMore, first⟩ := Bool.and_eq_true_iff.1 defers
        simp only [takesMore, Bool.true_or, List.filter_true]
        cases kinds with
        | nil => cases first
        | cons kind others =>
          simp only [List.head?_cons, beq_iff_eq, Option.some.injEq] at first
          subst first
          rfl

/-- A call that defers evaluates all its arguments, for texts that the formals can read. -/
theorem Evaluate.answer_of_defers {host : Host σ} {call : Caller σ} {line : LineCaller σ}
    {f : Function} {arguments : List Command} {kinds : List Kind} {world after : World σ}
    {reply : Reply} (defers : f.defers arguments.length kinds = true)
    (runs : (callFunction host call line f arguments kinds).run.run world =
      some (.ok reply, after)) :
    reply = .command (f.curry (Command.sharedFrom world.cells.size arguments)) ∧
      ∃ texts, (Eval.texts call (Command.sharedFrom world.cells.size arguments)).run.run
        (world.grow arguments.length) = some (.ok texts, after) ∧ Formal.Reads f.formals texts := by
  rw [callFunction_of_defers defers, Eval.run_bind, Eval.run_share] at runs
  rcases Eval.exists_of_run_bind runs with ⟨_, _, failed⟩ | ⟨⟨bindings, rest⟩, middle, binds, done⟩
  · cases failed
  · cases done
    obtain ⟨used, left, bound⟩ := Function.exists_bound _ _ binds
    obtain ⟨nothingElse, _, texts, evaluated, reads⟩ := bound.complete bindings rest rfl
    have more : f.hasTail = true ∨ (Command.sharedFrom world.cells.size arguments).length -
        rest.length < f.positionalCount := by
      have few := bound.taken_lt_iff (Nat.le_refl f.positionalCount)
      rw [few, Command.length_sharedFrom]
      unfold Function.defers at defers
      split at defers
      · rename_i short
        exact .inr (Nat.lt_of_lt_of_le short f.required_le)
      · obtain ⟨takesMore, _⟩ := Bool.and_eq_true_iff.1 defers
        rwa [Bool.or_eq_true, decide_eq_true_eq] at takesMore
    have all := bound.parts
    rw [← nothingElse, bound.rest_eq_nil more, List.append_nil] at all
    rw [all]
    exact ⟨rfl, texts, evaluated, reads⟩

namespace Function

/-- Whether the code of the function runs on what is bound: there are enough arguments, and a kind that
the function can answer with. -/
def accept (f : Function) (count : Nat) (kinds : List Kind) (bound : Bindings × List Command) :
    Except CommandError Bindings :=
  let taken := count - bound.2.length
  if taken < f.required then
    .error (.arity ("not enough arguments for function " ++ f.name))
  else
    match kinds.filter fun kind => (f.hasTail || taken < f.positionalCount) || kind != .command with
    | [] => .error (f.noMatchingKind kinds)
    | _ => .ok bound.1

end Function

namespace Evaluate

/-- All that happens in a call of a function before its code runs. -/
def prepare (call : Caller σ) (f : Function) (arguments : List Command) (kinds : List Kind) :
    Eval σ Bindings := do
  let shared ← Eval.share arguments
  let bound ← Function.bindFormals call kinds shared f.formals shared
  Eval.ofExcept (f.accept shared.length kinds bound)

/-- A call that does not defer runs the code of the function, once, when all is prepared. -/
theorem callFunction_of_not_defers {host : Host σ} {call : Caller σ} {line : LineCaller σ}
    {f : Function} {arguments : List Command} {kinds : List Kind}
    (runsNow : f.defers arguments.length kinds = false) :
    callFunction host call line f arguments kinds =
      prepare call f arguments kinds >>= fun bindings =>
        invoke host call line f bindings >>= fun value =>
          Eval.ofExcept (value.deliver f kinds) := by
  apply Eval.ext
  intro world
  simp only [callFunction, prepare, bind_assoc, Eval.run_bind, Eval.run_share]
  cases runs : (Function.bindFormals call kinds (Command.sharedFrom world.cells.size arguments)
      f.formals (Command.sharedFrom world.cells.size arguments)).run.run
        (world.grow arguments.length) with
  | none => rfl
  | some made =>
    obtain ⟨error | ⟨bindings, rest⟩, after⟩ := made
    · rfl
    · obtain ⟨used, left, bound⟩ := Function.exists_bound _ _ runs
      have few := bound.taken_lt_iff f.required_le
      have more := bound.taken_lt_iff (Nat.le_refl f.positionalCount)
      rw [Command.length_sharedFrom] at few more
      unfold Function.defers at runsNow
      simp only [Function.accept, Command.length_sharedFrom, few, more]
      by_cases short : arguments.length < f.required
      · rw [if_pos short] at runsNow ⊢
        simp only [runsNow]
        rw [if_pos short]
        rfl
      · rw [if_neg short] at runsNow ⊢
        rw [if_neg short]
        cases wanted : List.filter (fun kind => (f.hasTail ||
            decide (arguments.length < f.positionalCount)) || kind != .command) kinds with
        | nil => rfl
        | cons kind others =>
          cases kind with
          | command =>
            -- The filter passes a command only where it passes all kinds, so the call would defer.
            have among : Kind.command ∈ List.filter _ kinds := wanted ▸ List.mem_cons_self
            have takesMore := (List.mem_filter.1 among).2
            rw [bne_self_eq_false, Bool.or_false] at takesMore
            simp only [takesMore, Bool.true_or, List.filter_true] at wanted
            rw [takesMore, wanted] at runsNow
            cases runsNow
          | _ => exact Eval.run_bind _ _ after

end Evaluate

end ChatLine
