import ChatLine.Proofs.Functions.Reaching

set_option autoImplicit false

namespace ChatLine

variable {σ : Type}

namespace Formal

variable {formal : Formal} {formals : List Formal}

/-- How many arguments the positional parameters before an index ask for. -/
def place (formals : List Formal) (index : Nat) : Nat :=
  (positional (formals.take index)).length

def taken (formals : List Formal) (given : Nat) : Nat :=
  if .tail ∈ formals then given else min given (positional formals).length

theorem place_cons_succ (formal : Formal) (formals : List Formal) (index : Nat) :
    place (formal :: formals) (index + 1) =
      place formals index + if formal.isPositional then 1 else 0 := by
  simp only [place, positional, List.take_succ_cons, List.filter_cons]
  split
  · rw [List.length_cons]
  · rfl

theorem taken_le (formals : List Formal) (given : Nat) : taken formals given ≤ given := by
  unfold taken
  split
  · exact Nat.le_refl given
  · exact Nat.min_le_left _ _

theorem taken_zero (formals : List Formal) : taken formals 0 = 0 :=
  Nat.le_zero.1 (taken_le formals 0)

theorem taken_cons_plain {given : Nat} (plain : formal.isPositional = false) :
    taken (formal :: formals) given = taken formals given := by
  have other : .tail ∈ formal :: formals ↔ .tail ∈ formals := by
    rw [List.mem_cons, or_iff_right]
    rintro rfl
    cases plain
  simp only [taken, other, length_positional_cons plain]

theorem taken_cons_argument {type : ParamType} {given : Nat} :
    taken (.plain type :: formals) (given + 1) = taken formals given + 1 := by
  have other : Formal.tail ∈ .plain type :: formals ↔ .tail ∈ formals := by
    rw [List.mem_cons, or_iff_right nofun]
  have more : (positional (.plain type :: formals)).length = (positional formals).length + 1 := rfl
  simp only [taken, other, more]
  split
  · rfl
  · exact Nat.add_min_add_right _ _ 1

theorem positional_eq_nil (last : tailIsLast (.tail :: formals) = true) : positional formals = [] := by
  cases rest : positional formals with
  | nil => rfl
  | cons first others =>
    have whole : positional (.tail :: formals) = .tail :: first :: others := congrArg _ rest
    simp only [tailIsLast, whole, List.dropLast_cons_cons, List.contains_cons, beq_self_eq_true,
      Bool.true_or, Bool.not_true, Bool.false_eq_true] at last

theorem tailIsLast_of_cons (last : tailIsLast (formal :: formals) = true) :
    tailIsLast formals = true := by
  unfold tailIsLast at last ⊢
  cases positioned : formal.isPositional with
  | false => rwa [positional, List.filter_cons_of_neg (ne_true_of_eq_false positioned)] at last
  | true =>
    rw [positional, List.filter_cons_of_pos positioned] at last
    cases rest : positional formals with
    | nil => rfl
    | cons first others =>
      change (!(formal :: positional formals).dropLast.contains tail) = true at last
      rw [rest, List.dropLast_cons_cons, List.contains_cons, Bool.not_or, Bool.and_eq_true] at last
      exact last.2

/-- What a formal parameter holds in a call on so many arguments, of which some were taken for their
texts, when so many positional parameters stand before it: a plain parameter the text in its place,
read as its type, or nothing if there are no more arguments; a tail all texts that are left. -/
inductive Holds (all : List Command) (kinds : List Kind) (texts : List String) (given place : Nat) :
    Formal → Binding → Prop
  | context : Holds all kinds texts given place .context .context
  | arguments : Holds all kinds texts given place .arguments (.arguments all)
  | kinds : Holds all kinds texts given place .kinds (.kinds kinds)
  | read {type : ParamType} {text : String} {binding : Binding} (found : texts[place]? = some text)
      (readable : Binding.coerce text type = .ok binding) :
      Holds all kinds texts given place (.plain type) binding
  | absent {type : ParamType} (missing : given ≤ place) :
      Holds all kinds texts given place (.plain type) (.absent type)
  | tail {before items : List String} (parts : texts = before ++ items)
      (start : before.length = min place given) :
      Holds all kinds texts given place .tail (.tail items)

section Holds

variable {all : List Command} {kinds : List Kind} {texts : List String} {given place : Nat}
  {binding : Binding}

/-- A parameter that is not positional holds the same wherever it stands. -/
theorem Holds.of_plain (plain : formal.isPositional = false)
    (holds : Holds all kinds texts given place formal binding) (others : List String)
    (count start : Nat) : Holds all kinds others count start formal binding := by
  cases holds with
  | context => exact .context
  | arguments => exact .arguments
  | kinds => exact .kinds
  | _ => cases plain

theorem Holds.cons_argument (holds : Holds all kinds texts given place formal binding)
    (text : String) : Holds all kinds (text :: texts) (given + 1) (place + 1) formal binding := by
  cases holds with
  | context => exact .context
  | arguments => exact .arguments
  | kinds => exact .kinds
  | read found readable => exact .read found readable
  | absent missing => exact .absent (Nat.add_le_add_right missing 1)
  | @tail before items parts start =>
    have longer : (text :: before).length = min (place + 1) (given + 1) := by
      rw [List.length_cons, start, Nat.add_min_add_right]
    exact .tail (congrArg _ parts) longer

theorem Holds.cons_missing (holds : Holds all kinds [] 0 place formal binding) :
    Holds all kinds [] 0 (place + 1) formal binding := by
  cases holds with
  | context => exact .context
  | arguments => exact .arguments
  | kinds => exact .kinds
  | read found _ => cases found
  | absent missing => exact .absent (Nat.zero_le _)
  | tail parts start => exact .tail parts (by rw [start, Nat.min_zero, Nat.min_zero])

end Holds

end Formal

/-- The bindings are one for each formal parameter, and each of these holds what it has to. -/
structure Bindings.Fills (all : List Command) (kinds : List Kind) (texts : List String) (given : Nat)
    (formals : List Formal) (bindings : Bindings) : Prop where
  length : bindings.length = formals.length
  holds : ∀ index (formal : Formal), formals[index]? = some formal → ∃ binding : Binding,
    bindings[index]? = some binding ∧
      formal.Holds all kinds texts given (Formal.place formals index) binding

namespace Bindings

variable {all : List Command} {kinds : List Kind} {texts : List String} {given : Nat}
  {formal : Formal} {formals : List Formal} {binding : Binding} {bindings : Bindings}

theorem Fills.cons {others : List String} {count : Nat}
    (fills : Fills all kinds others count formals bindings)
    (first : formal.Holds all kinds texts given 0 binding)
    (shift : ∀ other : Formal, other ∈ formals → ∀ place held,
      other.Holds all kinds others count place held →
        other.Holds all kinds texts given (place + if formal.isPositional then 1 else 0) held) :
    Fills all kinds texts given (formal :: formals) (binding :: bindings) := by
  refine ⟨congrArg (· + 1) fills.length, fun index other found => ?_⟩
  cases index with
  | zero =>
    cases found
    exact ⟨binding, rfl, first⟩
  | succ index =>
    rw [List.getElem?_cons_succ] at found
    obtain ⟨held, bound, holds⟩ := fills.holds index other found
    refine ⟨held, bound, ?_⟩
    rw [Formal.place_cons_succ]
    exact shift other (List.mem_of_getElem? found) _ held holds

/-- One more parameter that takes nothing stands before the others. -/
theorem Fills.cons_plain (plain : formal.isPositional = false)
    (fills : Fills all kinds texts given formals bindings)
    (first : formal.Holds all kinds texts given 0 binding) :
    Fills all kinds texts given (formal :: formals) (binding :: bindings) := by
  refine fills.cons first fun other _ place held holds => ?_
  rwa [plain, if_neg Bool.false_ne_true]

end Bindings

namespace Eval

theorem length_of_run_texts {call : Caller σ} {commands : List Command} {contents : List String}
    {world after : World σ}
    (runs : (texts call commands).run.run world = some (.ok contents, after)) :
    contents.length = commands.length := by
  induction commands generalizing world contents with
  | nil =>
    cases runs
    rfl
  | cons command rest ih =>
    obtain ⟨_, _, _, rfl, _, second⟩ := exists_of_run_texts_cons runs
    exact congrArg (· + 1) (ih second)

end Eval

namespace Function

open Formal

variable {call : Caller σ} {kinds : List Kind} {all : List Command}

/-- What binding comes to: it takes the first arguments for their texts, from left to right, leaves
the others alone, and fills the parameters. -/
structure Fitted (call : Caller σ) (kinds : List Kind) (all : List Command) (formals : List Formal)
    (arguments left : List Command) (world after : World σ) (bindings : Bindings)
    (texts : List String) : Prop where
  length : texts.length = taken formals arguments.length
  evaluated : (Eval.texts call (arguments.take texts.length)).run.run world = some (.ok texts, after)
  left : left = arguments.drop texts.length
  fills : Bindings.Fills all kinds texts arguments.length formals bindings

theorem Fitted.eq_nil {formals : List Formal} {left : List Command} {world after : World σ}
    {bindings : Bindings} {texts : List String}
    (fitted : Fitted call kinds all formals [] left world after bindings texts) : texts = [] :=
  List.eq_nil_of_length_eq_zero (fitted.length.trans (taken_zero formals))

/-- Where parameters are bound, the first of them is bound first, and the others to what it leaves. -/
theorem exists_of_bindFormals_cons {formal : Formal} {formals : List Formal}
    {arguments left : List Command} {world after : World σ} {bindings : Bindings}
    (runs : (bindFormals call kinds all (formal :: formals) arguments).run.run world =
      some (.ok (bindings, left), after)) :
    ∃ binding rest middle others, bindings = binding :: others ∧
      (bindFormal call kinds all formal arguments).run.run world =
        some (.ok (binding, rest), middle) ∧
      (bindFormals call kinds all formals rest).run.run middle = some (.ok (others, left), after) := by
  rcases bindFormals_cons runs with ⟨_, _, failed⟩ | ⟨binding, rest, middle, first, others, second,
    same⟩
  · cases failed
  · cases others with
    | error error => cases same
    | ok made =>
      cases same
      exact ⟨binding, rest, middle, made.1, rfl, first, second⟩

theorem exists_fitted_tail {formals : List Formal} {arguments left : List Command}
    {world after : World σ} {bindings : Bindings}
    (ih : ∀ {world left bindings after},
      (bindFormals call kinds all formals []).run.run world = some (.ok (bindings, left), after) →
        ∃ texts, Fitted call kinds all formals [] left world after bindings texts)
    (last : tailIsLast (.tail :: formals) = true)
    (runs : (bindFormals call kinds all (.tail :: formals) arguments).run.run world =
      some (.ok (bindings, left), after)) :
    ∃ texts, Fitted call kinds all (.tail :: formals) arguments left world after bindings texts := by
  obtain ⟨_, _, _, _, rfl, first, second⟩ := exists_of_bindFormals_cons runs
  rcases Eval.exists_of_run_bind first with ⟨_, _, failed⟩ | ⟨texts, opened, evaluated, done⟩
  · cases failed
  · cases done
    obtain ⟨nothing, fitted⟩ := ih second
    obtain rfl := fitted.eq_nil
    obtain ⟨length, evaluated_rest, left_eq, fills⟩ := fitted
    cases evaluated_rest
    have all_read := Eval.length_of_run_texts evaluated
    refine ⟨texts, ?_, ?_, ?_, fills.cons (.tail (List.nil_append _).symm
      (Nat.zero_min _).symm) ?_⟩
    · rw [all_read, taken, if_pos List.mem_cons_self]
    · rwa [all_read, List.take_length]
    · rw [left_eq, all_read, List.drop_length]
      rfl
    · intro other inside place held holds
      refine holds.of_plain ?_ _ _ _
      exact Bool.eq_false_iff.2 (List.filter_eq_nil_iff.1 (positional_eq_nil last) other inside)

theorem exists_fitted_argument {type : ParamType} {formals : List Formal} {argument : Command}
    {arguments left : List Command} {world after : World σ} {bindings : Bindings}
    (ih : ∀ {world left bindings after},
      (bindFormals call kinds all formals arguments).run.run world =
        some (.ok (bindings, left), after) →
        ∃ texts, Fitted call kinds all formals arguments left world after bindings texts)
    (runs : (bindFormals call kinds all (.plain type :: formals) (argument :: arguments)).run.run
      world = some (.ok (bindings, left), after)) :
    ∃ texts, Fitted call kinds all (.plain type :: formals) (argument :: arguments) left world after
      bindings texts := by
  obtain ⟨binding, _, _, _, rfl, first, second⟩ := exists_of_bindFormals_cons runs
  rw [run_bindFormal_plain] at first
  obtain ⟨⟨read, opened⟩, evaluated, same⟩ := Option.map_eq_some_iff.1 first
  cases read with
  | error error => cases same
  | ok text =>
    cases readable : Binding.coerce text type with
    | error error =>
      simp only [Except.bind, readable, Except.map, Prod.mk.injEq, reduceCtorEq, false_and] at same
    | ok coerced =>
      simp only [Except.bind, readable, Except.map, Prod.mk.injEq, Except.ok.injEq] at same
      obtain ⟨⟨rfl, rfl⟩, rfl⟩ := same
      obtain ⟨texts, length, evaluated_rest, left_eq, fills⟩ := ih second
      refine ⟨text :: texts, ?_, ?_, ?_, fills.cons (.read rfl readable) ?_⟩
      · rw [List.length_cons, List.length_cons, length, taken_cons_argument]
      · simp only [List.length_cons, List.take_succ_cons, Eval.texts, Eval.run_bind, evaluated,
          evaluated_rest, Eval.run_pure]
      · rw [left_eq]
        rfl
      · exact fun other _ place held holds => holds.cons_argument text

/-- Binding takes arguments from left to right and fills the parameters. The induction is on the
parameters: the arguments that one of them leaves are those of the others. -/
theorem exists_fitted {formals : List Formal} (last : tailIsLast formals = true)
    {arguments left : List Command} {world after : World σ} {bindings : Bindings}
    (runs : (bindFormals call kinds all formals arguments).run.run world =
      some (.ok (bindings, left), after)) :
    ∃ texts, Fitted call kinds all formals arguments left world after bindings texts := by
  induction formals generalizing arguments left world after bindings with
  | nil =>
    cases runs
    exact ⟨[], (Nat.min_zero _).symm, rfl, rfl, rfl, fun index formal found => nomatch found⟩
  | cons formal formals ih =>
    have rest_last := tailIsLast_of_cons last
    cases formal with
    | tail => exact exists_fitted_tail (ih rest_last) last runs
    | plain type =>
      cases arguments with
      | cons argument arguments => exact exists_fitted_argument (ih rest_last) runs
      | nil =>
        obtain ⟨_, _, _, _, rfl, first, second⟩ := exists_of_bindFormals_cons runs
        cases first
        obtain ⟨texts, fitted⟩ := ih rest_last second
        obtain rfl := fitted.eq_nil
        refine ⟨[], (taken_zero _).symm, fitted.evaluated, fitted.left,
          fitted.fills.cons (.absent (Nat.le_refl 0)) ?_⟩
        exact fun other _ place held holds => holds.cons_missing
    | context | arguments | kinds =>
      obtain ⟨_, _, _, _, rfl, first, second⟩ := exists_of_bindFormals_cons runs
      cases first
      obtain ⟨texts, length, evaluated, left_eq, fills⟩ := ih rest_last second
      exact ⟨texts, length.trans (taken_cons_plain rfl).symm, evaluated, left_eq,
        fills.cons_plain rfl (by constructor)⟩

end Function

namespace Binding

/-- The binding has the shape of a type, with a value or without one. -/
def Suits (present : Bool) : ParamType → Binding → Prop
  | .int, binding => ∃ value, binding = int value ∧ value.isSome = present
  | .float, binding => ∃ value, binding = float value ∧ value.isSome = present
  | .double, binding => ∃ value, binding = float value ∧ value.isSome = present
  | .string, binding => ∃ value, binding = text value ∧ value.isSome = present
  | .other _, binding => ∃ value, binding = text value ∧ value.isSome = present

theorem suits_coerce {content : String} {type : ParamType} {binding : Binding}
    (readable : coerce content type = .ok binding) : binding.Suits true type := by
  cases type with
  | int | float | double =>
    dsimp only [coerce] at readable
    split at readable <;> cases readable
    exact ⟨_, rfl, rfl⟩
  | string | other _ =>
    cases readable
    exact ⟨_, rfl, rfl⟩

theorem suits_absent (type : ParamType) : (absent type).Suits false type := by
  cases type <;> exact ⟨_, rfl, rfl⟩

end Binding

namespace Bindings

/-- The two accessors of a plain parameter find the parameter that they are for: the one that takes an
argument as it comes never fails, and the one that demands it fails only where it is missing. -/
def Reads {α : Type} (given : Prop) (optional : Except CommandError (Option α))
    (demanding : Except CommandError α) : Prop :=
  ∃ value, optional = .ok value ∧ (∀ message, demanding ≠ .error (.internal message)) ∧
    (given → ∃ present, value = some present ∧ demanding = .ok present)

theorem reads_demand {α : Type} {given : Prop} {index : Nat}
    {optional : Except CommandError (Option α)} {value : Option α} (found : optional = .ok value)
    (present : given → value.isSome = true) : Reads given optional (optional >>= demand index) := by
  refine ⟨value, found, ?_, fun holds => ?_⟩
  · rw [found]
    cases value <;> exact nofun
  · obtain ⟨there, rfl⟩ := Option.isSome_iff_exists.1 (present holds)
    rw [found]
    exact ⟨there, rfl, rfl⟩

/-- The accessors that match the declaration of a formal parameter. Code reads the context by other
means. -/
def Accessible (bindings : Bindings) (index : Nat) (given : Prop) : Formal → Prop
  | .context => True
  | .arguments => ∃ commands, bindings.arguments index = .ok commands
  | .kinds => ∃ wanted, bindings.kinds index = .ok wanted
  | .tail => ∃ items, bindings.tail index = .ok items
  | .plain .int => Reads given (bindings.int? index) (bindings.int index)
  | .plain .float => Reads given (bindings.float? index) (bindings.float index)
  | .plain .double => Reads given (bindings.float? index) (bindings.float index)
  | .plain .string => Reads given (bindings.text? index) (bindings.text index)
  | .plain (.other _) => Reads given (bindings.text? index) (bindings.text index)

section Access

variable {bindings : Bindings} {index : Nat} {given : Prop} {binding : Binding}
  (found : bindings[index]? = some binding)
include found

theorem lookup_eq_ok : bindings.lookup index = .ok binding := by
  rw [lookup, found]

theorem accessible_plain {type : ParamType} {present : Bool} (suits : binding.Suits present type)
    (there : given → present = true) : Accessible bindings index given (.plain type) := by
  have here := lookup_eq_ok found
  cases type with
  | int =>
    obtain ⟨value, rfl, whether⟩ := suits
    exact reads_demand (by rw [int?, here]; rfl) fun holds => whether.trans (there holds)
  | float | double =>
    obtain ⟨value, rfl, whether⟩ := suits
    exact reads_demand (by rw [float?, here]; rfl) fun holds => whether.trans (there holds)
  | string | other _ =>
    obtain ⟨value, rfl, whether⟩ := suits
    exact reads_demand (by rw [text?, here]; rfl) fun holds => whether.trans (there holds)

/-- A parameter that holds what it has to can be read, and is there where its argument is. -/
theorem accessible_of_holds {all : List Command} {kinds : List Kind} {texts : List String}
    {count place : Nat} {formal : Formal} (holds : formal.Holds all kinds texts count place binding)
    (within : given → place < count) : Accessible bindings index given formal := by
  have here := lookup_eq_ok found
  cases holds with
  | context => trivial
  | arguments => exact ⟨all, by rw [Bindings.arguments, here]; rfl⟩
  | kinds => exact ⟨kinds, by rw [Bindings.kinds, here]; rfl⟩
  | read _ readable => exact accessible_plain found (Binding.suits_coerce readable) fun _ => rfl
  | absent missing =>
    refine accessible_plain found (Binding.suits_absent _) fun holds => ?_
    exact absurd (within holds) (Nat.not_lt.2 missing)
  | @tail before items _ _ => exact ⟨items, by rw [Bindings.tail, here]; rfl⟩

end Access

end Bindings

namespace Evaluate

variable {call : Caller σ} {command : Command} {f : Function} {arguments : List Command}
  {kinds : List Kind} {world entry : World σ} {bindings : Bindings}

/-- Where the code of a function begins, the parameters were bound and there were enough
arguments. -/
theorem binds_of_reach
    (reaches : (reach call f arguments kinds).run.run world = some (.ok (.code bindings), entry)) :
    ∃ rest, (Function.bindFormals call kinds (Command.sharedFrom world.cells.size arguments)
        f.formals (Command.sharedFrom world.cells.size arguments)).run.run
          (world.grow arguments.length) = some (.ok (bindings, rest), entry) ∧
      f.required ≤ arguments.length - rest.length := by
  have opened := reaches
  rw [reach, Eval.run_bind, Eval.run_share] at opened
  rcases Eval.exists_of_run_bind opened with ⟨_, _, failed⟩ | ⟨⟨bound, rest⟩, middle, binds, done⟩
  · cases failed
  · rw [run_reach_of_binds binds] at reaches
    simp only [Option.some.injEq, Prod.mk.injEq, Except.ok.injEq] at reaches
    obtain ⟨reached, rfl⟩ := reaches
    cases early : f.early? (Command.sharedFrom world.cells.size arguments)
        (arguments.length - rest.length) kinds with
    | some outcome =>
      rw [early] at reached
      cases reached
    | none =>
      rw [early] at reached
      cases reached
      exact ⟨rest, binds, (Function.early?_eq_none_iff.1 early).1⟩

/-- The code of a function begins only when its parameters are bound: one binding for each formal
parameter, which holds its own argument or its own texts. The arguments that were taken for that have
been evaluated from left to right and nothing else has happened; no argument is taken that does not
exist, and those that are required are. Every parameter can be read in the shape that it was declared
in, and is there if it is required. -/
theorem code_begins_bound (isFunction : command.function? = some f) :
    (∀ host line, step host call line command arguments kinds =
      reach call f arguments kinds >>= proceed host call line f kinds) ∧
    ∀ bindings entry,
      (reach call f arguments kinds).run.run world = some (.ok (.code bindings), entry) →
      let shared := Command.sharedFrom world.cells.size arguments
      ∃ texts : List String,
        texts.length = Formal.taken f.formals arguments.length ∧
        f.required ≤ texts.length ∧ texts.length ≤ arguments.length ∧
        (Eval.texts call (shared.take texts.length)).run.run (world.grow arguments.length) =
          some (.ok texts, entry) ∧
        Bindings.Fills shared kinds texts arguments.length f.formals bindings ∧
        ∀ index formal, f.formals[index]? = some formal →
          Bindings.Accessible bindings index (Formal.place f.formals index < f.required) formal := by
  refine ⟨fun host line => step_of_function? isFunction, fun bindings entry reaches => ?_⟩
  intro shared
  have same : shared.length = arguments.length := Command.length_sharedFrom _ _
  obtain ⟨rest, binds, enough⟩ := binds_of_reach reaches
  obtain ⟨texts, length, evaluated, left, fills⟩ := Function.exists_fitted f.tail_last binds
  rw [same] at length fills
  have within : texts.length ≤ arguments.length := length ▸ Formal.taken_le _ _
  have required : f.required ≤ texts.length := by
    rw [left, List.length_drop, same] at enough
    omega
  refine ⟨texts, length, required, within, evaluated, fills, fun index formal found => ?_⟩
  obtain ⟨binding, bound, holds⟩ := fills.holds index formal found
  refine Bindings.accessible_of_holds bound holds fun before => ?_
  exact Nat.lt_of_lt_of_le before (Nat.le_trans required within)

end Evaluate

/-- A function with parameters of all sorts between those that are positional. -/
def Function.mixed : Function where
  name := "mixed"
  formals := [.context, .plain .int, .arguments, .plain .string, .kinds, .tail]
  required := 2
  code := .host 0

namespace Evaluate

/-- The third and the fourth argument are the texts of a tail. -/
theorem code_begins_bound_mixed :
    let call := run Host.none 5
    let world := World.start (.empty .bare) (.fresh .unlimited none) () 0
    let f := Function.mixed
    let arguments := [.literal "7", .literal "a", .literal "b", .literal "c"]
    let shared := Command.sharedFrom 0 arguments
    let bindings := [.context, .int (some 7), .arguments shared, .text (some "a"), .kinds [.string],
      .tail ["b", "c"]]
    (Command.function f).function? = some f ∧ ∃ entry,
      (reach call f arguments [.string]).run.run world = some (.ok (.code bindings), entry) ∧
      ∃ texts, texts.length = 4 ∧
        (Eval.texts call (shared.take texts.length)).run.run (world.grow 4) =
          some (.ok texts, entry) ∧
        Bindings.Fills shared [.string] texts 4 f.formals bindings ∧
        Bindings.Accessible bindings 3 (Formal.place f.formals 3 < 2) (.plain .string) := by
  intro call world f arguments shared bindings
  have isFunction : (Command.function f).function? = some f := rfl
  have reaches : (reach call f arguments [.string]).run.run world =
      some (.ok (.code bindings), _) := rfl
  refine ⟨rfl, _, reaches, ?_⟩
  obtain ⟨texts, length, _, _, evaluated, fills, accessible⟩ :=
    (code_begins_bound isFunction).2 _ _ reaches
  exact ⟨texts, length, evaluated, fills, accessible 3 (.plain .string) rfl⟩

end Evaluate

end ChatLine
