import ChatLine.Proofs.Functions.Reaching

set_option autoImplicit false

namespace ChatLine

variable {σ : Type}

namespace Value

/-- The value is a reply already. -/
def IsComplete : Value → Prop
  | reply _ => True
  | _ => False

/-- A value satisfies a kind as a reply: every value is good for nothing at all, lists alone have
items, and a text is one that is not empty. -/
inductive Satisfies : Value → Kind → Reply → Prop
  | nothing (value : Value) : Satisfies value .empty .nothing
  | items (items : List String) : Satisfies (.list items) .enumerable (.items items)
  | text {value : Value} {text : String} (written : value.toText? = some text) (visible : text ≠ "") :
      Satisfies value .string (.text text)

/-- What the value of the code of a function comes to for a list of kinds: the first kind in the list
that it satisfies; else the empty text, for one who takes text; and else an error. -/
inductive Answers (f : Function) (kinds : List Kind) (value : Value) : Outcome → Prop
  | first {before after : List Kind} {kind : Kind} {reply : Reply}
      (listed : kinds = before ++ kind :: after)
      (passed : ∀ earlier ∈ before, ∀ other, ¬ value.Satisfies earlier other)
      (satisfies : value.Satisfies kind reply) : Answers f kinds value (.ok reply)
  | blank (passed : ∀ kind ∈ kinds, ∀ other, ¬ value.Satisfies kind other)
      (wanted : .string ∈ kinds) : Answers f kinds value (.ok (.text ""))
  | unmatched (passed : ∀ kind ∈ kinds, ∀ other, ¬ value.Satisfies kind other)
      (unwanted : .string ∉ kinds) : Answers f kinds value (.error (f.noMatchingKind kinds))

section Incomplete

variable {value : Value} (incomplete : ¬ value.IsComplete)
include incomplete

theorem answer?_eq_some_iff {kind : Kind} {reply : Reply} :
    value.answer? kind = some reply ↔ value.Satisfies kind reply := by
  constructor
  · intro answered
    cases kind with
    | string =>
      obtain ⟨text, kept, rfl⟩ := Option.map_eq_some_iff.1 answered
      obtain ⟨written, visible⟩ := Option.filter_eq_some_iff.1 kept
      refine .text written ?_
      rintro rfl
      cases visible
    | empty =>
      cases answered
      exact .nothing value
    | command => cases answered
    | enumerable =>
      cases value with
      | list items =>
        cases answered
        exact .items items
      | reply complete => exact (incomplete trivial).elim
      | _ => cases answered
    | extension name => cases answered
  · intro satisfies
    cases satisfies with
    | nothing => rfl
    | items items => rfl
    | @text _ text written visible =>
      have kept : (!text.isEmpty) = true := by simpa using visible
      simp only [answer?, written, Option.filter_some, kept, if_true, Option.map_some]

theorem answer?_eq_none_iff {kind : Kind} :
    value.answer? kind = none ↔ ∀ reply, ¬ value.Satisfies kind reply := by
  rw [Option.eq_none_iff_forall_ne_some]
  exact forall_congr' fun reply => not_congr (answer?_eq_some_iff incomplete)

theorem deliver_of_incomplete (f : Function) (kinds : List Kind) :
    value.deliver f kinds =
      match kinds.findSome? value.answer? with
      | some answer => .ok answer
      | none =>
        if kinds.contains .string then .ok (.text "") else .error (f.noMatchingKind kinds) := by
  cases value with
  | reply complete => exact (incomplete trivial).elim
  | _ => rfl

/-- What is delivered for a value is what the value comes to. -/
theorem deliver_eq_iff {f : Function} {kinds : List Kind} {outcome : Outcome} :
    value.deliver f kinds = outcome ↔ value.Answers f kinds outcome := by
  rw [deliver_of_incomplete incomplete]
  have passes (listed : List Kind) : (∀ kind ∈ listed, value.answer? kind = none) ↔
      ∀ kind ∈ listed, ∀ other, ¬ value.Satisfies kind other :=
    forall₂_congr fun kind _ => answer?_eq_none_iff incomplete
  constructor
  · rintro rfl
    cases found : kinds.findSome? value.answer? with
    | some reply =>
      obtain ⟨before, kind, after, listed, answered, passed⟩ := List.findSome?_eq_some_iff.1 found
      exact .first listed ((passes before).1 passed) ((answer?_eq_some_iff incomplete).1 answered)
    | none =>
      have passed := (passes kinds).1 (List.findSome?_eq_none_iff.1 found)
      by_cases wanted : Kind.string ∈ kinds
      · simp only [List.contains_iff_mem.2 wanted, if_true]
        exact .blank passed wanted
      · simp only [if_neg (mt List.contains_iff_mem.1 wanted)]
        exact .unmatched passed wanted
  · intro answers
    cases answers with
    | @first before after kind reply listed passed satisfies =>
      have found : kinds.findSome? value.answer? = some reply :=
        List.findSome?_eq_some_iff.2 ⟨before, kind, after, listed,
          (answer?_eq_some_iff incomplete).2 satisfies, (passes before).2 passed⟩
      rw [found]
    | blank passed wanted =>
      rw [List.findSome?_eq_none_iff.2 ((passes kinds).2 passed)]
      exact if_pos (List.contains_iff_mem.2 wanted)
    | unmatched passed unwanted =>
      rw [List.findSome?_eq_none_iff.2 ((passes kinds).2 passed)]
      exact if_neg (mt List.contains_iff_mem.1 unwanted)

end Incomplete

theorem Answers.ne_command {f : Function} {kinds : List Kind} {value : Value} {outcome : Outcome}
    (answers : value.Answers f kinds outcome) (command : Command) :
    outcome ≠ .ok (.command command) := by
  rintro rfl
  cases answers with
  | first _ _ satisfies => cases satisfies

end Value

namespace Evaluate

variable (call : Caller σ) (command : Command) (f : Function) (arguments : List Command)
  (kinds : List Kind) (world : World σ)

/-- A call is over before the code of the function, and the code makes no difference to it. -/
def EndsBeforeCode (outcome : Outcome) (bound : World σ) : Prop :=
  (reach call f arguments kinds).run.run world = some (.ok (.outcome outcome), bound) ∧
    ∀ host line, (step host call line command arguments kinds).run.run world = some (outcome, bound)

/-- A call runs the code of the function on what is bound, once, delivers its value, and does nothing
after that. -/
def EndsWithCode (bindings : Bindings) (bound : World σ) : Prop :=
  (reach call f arguments kinds).run.run world = some (.ok (.code bindings), bound) ∧
    ∀ (host : Host σ) line value ran,
      ((host.codeOf f.code bindings).runWith call line).run.run bound =
        some (.ok (.ok value), ran) →
      (step host call line command arguments kinds).run.run world =
        some (value.deliver f kinds, ran)

variable {call command f arguments kinds world} {bound : World σ} {bindings : Bindings}
  {rest : List Command} (isFunction : command.function? = some f)
  (binds : (Function.bindFormals call kinds (Command.sharedFrom world.cells.size arguments)
    f.formals (Command.sharedFrom world.cells.size arguments)).run.run
      (world.grow arguments.length) = some (.ok (bindings, rest), bound))
include isFunction binds

theorem endsBeforeCode_of_early {outcome : Outcome}
    (early : f.early? (Command.sharedFrom world.cells.size arguments)
      (arguments.length - rest.length) kinds = some outcome) :
    EndsBeforeCode call command f arguments kinds world outcome bound := by
  refine ⟨?_, fun host line => run_step_of_early binds isFunction early⟩
  rw [run_reach_of_binds binds, early]
  rfl

theorem endsWithCode_of_early
    (early : f.early? (Command.sharedFrom world.cells.size arguments)
      (arguments.length - rest.length) kinds = none) :
    EndsWithCode call command f arguments kinds world bindings bound := by
  refine ⟨?_, fun host line value ran runs => run_step_of_code binds isFunction early runs⟩
  rw [run_reach_of_binds binds, early]
  rfl

/-- How a call of a function negotiates its answer, once the parameters are bound. With too few
arguments the code does not run, and the answer is a command if one is wanted at all. With enough of
them the answer is the function itself just where it could take more and a command is wanted before
all else. Otherwise the code runs if anything is wanted but a command, and what it hands back comes to
the first kind in the list that it satisfies. -/
theorem call_negotiates {taken : Nat} (consumed : taken = arguments.length - rest.length) :
    (taken < f.required →
      EndsBeforeCode call command f arguments kinds world
        (if .command ∈ kinds then
          .ok (.command (f.curry (Command.sharedFrom world.cells.size arguments)))
        else .error f.tooFew) bound) ∧
    (f.required ≤ taken →
      (f.Curries taken kinds → EndsBeforeCode call command f arguments kinds world
        (.ok (.command (f.curry (Command.sharedFrom world.cells.size arguments)))) bound) ∧
      (¬ f.Curries taken kinds → (∀ kind ∈ kinds, kind = .command) →
        EndsBeforeCode call command f arguments kinds world (.error (f.noMatchingKind kinds))
          bound) ∧
      (¬ f.Curries taken kinds → (∃ kind ∈ kinds, kind ≠ .command) →
        EndsWithCode call command f arguments kinds world bindings bound) ∧
      ∀ (host : Host σ) line value ran,
        ((host.codeOf f.code bindings).runWith call line).run.run bound =
          some (.ok (.ok value), ran) → ¬ value.IsComplete →
        ∃ outcome after, (step host call line command arguments kinds).run.run world =
            some (outcome, after) ∧
          ((∃ given, outcome = .ok (.command given)) ↔ f.Curries taken kinds) ∧
          (¬ f.Curries taken kinds → (∃ kind ∈ kinds, kind ≠ .command) →
            value.Answers f kinds outcome ∧ after = ran)) := by
  subst consumed
  refine ⟨fun few => endsBeforeCode_of_early isFunction binds (Function.early?_of_few few),
    fun enough => ?_⟩
  have self (more : f.Curries (arguments.length - rest.length) kinds) :=
    endsBeforeCode_of_early isFunction binds (Function.early?_of_curried enough more)
  have commandsOnly (direct : ¬ f.Curries (arguments.length - rest.length) kinds)
      (commands : ∀ kind ∈ kinds, kind = .command) :=
    endsBeforeCode_of_early isFunction binds (Function.early?_of_commands enough direct commands)
  have code (direct : ¬ f.Curries (arguments.length - rest.length) kinds)
      (mixed : ∃ kind ∈ kinds, kind ≠ .command) :
      EndsWithCode call command f arguments kinds world bindings bound :=
    endsWithCode_of_early isFunction binds (Function.early?_eq_none_iff.2 ⟨enough, direct, mixed⟩)
  refine ⟨self, commandsOnly, code, fun host line value ran runs incomplete => ?_⟩
  by_cases more : f.Curries (arguments.length - rest.length) kinds
  · exact ⟨_, bound, (self more).2 host line, ⟨fun _ => more, fun _ => ⟨_, rfl⟩⟩,
      fun direct => absurd more direct⟩
  · by_cases mixed : ∃ kind ∈ kinds, kind ≠ .command
    · have answers := (Value.deliver_eq_iff incomplete).1 (rfl : value.deliver f kinds = _)
      refine ⟨_, ran, (code more mixed).2 host line value ran runs, ?_, fun _ _ => ⟨answers, rfl⟩⟩
      exact ⟨fun ⟨given, same⟩ => absurd same (answers.ne_command given),
        fun other => absurd other more⟩
    · have commands : ∀ kind ∈ kinds, kind = .command := by
        simpa only [not_exists, not_and, not_not] using mixed
      refine ⟨_, bound, (commandsOnly more commands).2 host line, ?_,
        fun _ other => absurd other mixed⟩
      exact ⟨nofun, fun other => absurd other more⟩

omit isFunction in
/-- With an argument for every positional parameter, a function without a tail has enough of them and
could take no more. -/
theorem taken_of_supplied (noTail : f.hasTail = false)
    (supplied : f.positionalCount ≤ arguments.length) :
    f.required ≤ arguments.length - rest.length ∧
      ¬ f.TakesMore (arguments.length - rest.length) := by
  obtain ⟨used, left, parts⟩ := Function.exists_bound _ _ binds
  have full : ¬ arguments.length - rest.length < f.positionalCount := by
    have few := parts.taken_lt_iff (Nat.le_refl f.positionalCount)
    rw [Command.length_sharedFrom] at few
    exact fun fewer => absurd (few.1 fewer) (Nat.not_lt.2 supplied)
  refine ⟨Nat.le_trans f.required_le (Nat.not_lt.1 full), ?_⟩
  rintro (tail | fewer)
  · rw [noTail] at tail
    cases tail
  · exact full fewer

/-- A complete reply is delivered as it is where its kind is wanted and anything is wanted but a
command. Where nothing else is wanted than a command, the code does not run, although it may have one
to reply with. -/
theorem complete_reply_delivered (noTail : f.hasTail = false)
    (supplied : f.positionalCount ≤ arguments.length) {reply : Reply} (wanted : reply.kind ∈ kinds) :
    ((∃ kind ∈ kinds, kind ≠ .command) → ∀ (host : Host σ) line ran,
      ((host.codeOf f.code bindings).runWith call line).run.run bound =
        some (.ok (.ok (.reply reply)), ran) →
      (step host call line command arguments kinds).run.run world = some (.ok reply, ran)) ∧
    ((∀ kind ∈ kinds, kind = .command) →
      EndsBeforeCode call command f arguments kinds world (.error (f.noMatchingKind kinds))
        bound) := by
  obtain ⟨enough, full⟩ := taken_of_supplied binds noTail supplied
  have direct : ¬ f.Curries (arguments.length - rest.length) kinds := fun both => full both.1
  constructor
  · intro mixed host line ran runs
    have code := endsWithCode_of_early isFunction binds
      (Function.early?_eq_none_iff.2 ⟨enough, direct, mixed⟩)
    rw [code.2 host line _ ran runs, Value.deliver_reply wanted]
  · intro commands
    exact endsBeforeCode_of_early isFunction binds
      (Function.early?_of_commands enough direct commands)

end Evaluate

/-- An application whose functions all hand back the same value. -/
def Host.answering (value : Value) : Host Unit where
  native := fun _ _ => pure value
  foreign := fun _ => Option.none

/-- A function of the application, which takes two texts and needs none. -/
def Function.saying : Function where
  name := "say"
  formals := [.plain .string, .plain .string]
  required := 0
  code := .host 0

def Function.making : Function where
  name := "make"
  formals := []
  required := 0
  code := .host 0

namespace Evaluate

/-- A text is handed back for a list of kinds that begins with one that it does not satisfy. -/
theorem call_negotiates_say :
    let host := Host.answering (.string "hi")
    let call := run host 5
    let line := callLine call
    let world := World.start (.empty .bare) (.fresh .unlimited none) () 0
    let kinds := [Kind.enumerable, .string]
    let f := Function.saying
    (Command.function f).function? = some f ∧ ∃ bound,
      (Function.bindFormals call kinds (Command.sharedFrom 0 [.literal "x"]) f.formals
        (Command.sharedFrom 0 [.literal "x"])).run.run (world.grow 1) =
          some (.ok ([.text (some "x"), .text none], []), bound) ∧
      ((host.codeOf f.code [.text (some "x"), .text none]).runWith call line).run.run bound =
        some (.ok (.ok (.string "hi")), bound) ∧
      (Value.string "hi").Answers f kinds (.ok (.text "hi")) ∧
      (step host call line (.function f) [.literal "x"] kinds).run.run world =
        some (.ok (.text "hi"), bound) := by
  intro host call line world kinds f
  have incomplete : ¬ (Value.string "hi").IsComplete := nofun
  refine ⟨rfl, _, rfl, rfl, ?_⟩
  have isFunction : (Command.function f).function? = some f := rfl
  have binds : (Function.bindFormals call kinds (Command.sharedFrom world.cells.size [.literal "x"])
      f.formals (Command.sharedFrom world.cells.size [.literal "x"])).run.run (world.grow 1) =
        some (.ok ([.text (some "x"), .text none], []), _) := rfl
  obtain ⟨_, enough⟩ := call_negotiates isFunction binds rfl
  obtain ⟨outcome, after, ends, _, delivers⟩ :=
    (enough (Nat.zero_le _)).2.2.2 host line (.string "hi") _ rfl incomplete
  obtain ⟨answers, rfl⟩ := delivers (fun both => nomatch both.2)
    ⟨.string, by decide, by decide⟩
  obtain rfl : Except.ok (.text "hi") = outcome := (Value.deliver_eq_iff incomplete).2 answers
  exact ⟨answers, ends⟩

/-- A command is handed back for a list of kinds in which a command comes first. -/
theorem complete_reply_delivered_make :
    let host := Host.answering (.reply (.command (.literal "x")))
    let call := run host 5
    let world := World.start (.empty .bare) (.fresh .unlimited none) () 0
    let f := Function.making
    (Command.function f).function? = some f ∧ f.hasTail = false ∧ f.positionalCount ≤ 0 ∧
    (Function.bindFormals call [.command, .string] [] f.formals []).run.run (world.grow 0) =
      some (.ok ([], []), world.grow 0) ∧
    Kind.command ∈ [Kind.command, .string] ∧
    ((host.codeOf f.code []).runWith call (callLine call)).run.run (world.grow 0) =
      some (.ok (.ok (.reply (.command (.literal "x")))), world.grow 0) ∧
    (step host call (callLine call) (.function f) [] [.command, .string]).run.run world =
      some (.ok (.command (.literal "x")), world.grow 0) := by
  intro host call world f
  have wanted : (Reply.command (.literal "x")).kind ∈ [Kind.command, .string] :=
    List.mem_cons_self
  refine ⟨rfl, rfl, Nat.le_refl 0, rfl, wanted, rfl, ?_⟩
  have isFunction : (Command.function f).function? = some f := rfl
  have binds : (Function.bindFormals call [.command, .string]
      (Command.sharedFrom world.cells.size []) f.formals
      (Command.sharedFrom world.cells.size [])).run.run (world.grow ([] : List Command).length) =
        some (.ok ([], []), world.grow 0) := rfl
  exact (complete_reply_delivered isFunction binds rfl (Nat.le_refl 0) wanted).1
    ⟨.string, by decide, by decide⟩ host _ _ rfl

/-- The same command is not delivered where nothing else is wanted. -/
theorem complete_reply_refused_make :
    let host := Host.answering (.reply (.command (.literal "x")))
    let call := run host 5
    let world := World.start (.empty .bare) (.fresh .unlimited none) () 0
    let f := Function.making
    f.hasTail = false ∧ f.positionalCount ≤ 0 ∧
    (Function.bindFormals call [.command] [] f.formals []).run.run (world.grow 0) =
      some (.ok ([], []), world.grow 0) ∧
    ((host.codeOf f.code []).runWith call (callLine call)).run.run (world.grow 0) =
      some (.ok (.ok (.reply (.command (.literal "x")))), world.grow 0) ∧
    (Reply.command (.literal "x")).kind ∈ [Kind.command] ∧
    (step host call (callLine call) (.function f) [] [.command]).run.run world =
      some (.error (f.noMatchingKind [.command]), world.grow 0) := by
  intro host call world f
  exact ⟨rfl, Nat.le_refl 0, rfl, rfl, List.mem_singleton_self _, rfl⟩

end Evaluate

end ChatLine
