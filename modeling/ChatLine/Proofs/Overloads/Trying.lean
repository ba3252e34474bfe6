import ChatLine.Proofs.Calls.Steps
import ChatLine.Proofs.Overloads.Calling

set_option autoImplicit false

namespace ChatLine

variable {σ : Type} {host : Host σ}

def Outcome.bare (outcome : Outcome) : Outcome :=
  outcome.map Reply.bare

/-- Whether no function is tried after an attempt: it answers, it exhausts the budget, or it never
ends. -/
def settles : Option Outcome → Bool
  | some (.error error) => error = .budgetExhausted
  | _ => true

/-- The first outcome after which no function is tried; without one there is no matching overload. -/
def firstSettled (outcomes : List (Option Outcome)) : Option Outcome :=
  (outcomes.find? settles).getD (some (.error .noMatchingOverload))

theorem firstSettled_of_settles {outcome : Option Outcome} (settled : settles outcome = true)
    (others : List (Option Outcome)) : firstSettled (outcome :: others) = outcome := by
  rw [firstSettled, List.find?_cons_of_pos settled, Option.getD_some]

theorem firstSettled_of_not_settles {outcome : Option Outcome} (failed : settles outcome = false)
    (others : List (Option Outcome)) : firstSettled (outcome :: others) = firstSettled others := by
  rw [firstSettled, firstSettled, List.find?_cons_of_neg (Bool.not_eq_true _ ▸ failed)]

theorem settles_of_note {first second : Option Outcome}
    (same : first.map (note Reply.bare) = second.map (note Reply.bare)) :
    settles first = settles second := by
  rcases first with _ | error | reply <;> rcases second with _ | other | other
  all_goals simp_all [note, settles]

/-- Of an outcome that settles everything is noted but the cells in it. -/
theorem bare_of_note {first second : Option Outcome}
    (same : first.map (note Reply.bare) = second.map (note Reply.bare))
    (settled : settles first = true) : first.map Outcome.bare = second.map Outcome.bare := by
  rcases first with _ | error | reply <;> rcases second with _ | other | other
  all_goals simp_all [note, settles, Outcome.bare, Except.map]

namespace Evaluate

/-- What a call ends with in a world, when it may go deep enough; nothing if it never ends. -/
def Yields (host : Host σ) (world : World σ) (command : Command) (arguments : List Command)
    (kinds : List Kind) (outcome : Option Outcome) : Prop :=
  ∃ enough, ∀ depth, enough ≤ depth →
    ((run host depth command arguments kinds).run.run world).map Prod.fst = outcome

/-- The outcomes of the attempts that are made when functions are tried on arguments, one after the
other, in the world that those before left. -/
inductive Attempts (host : Host σ) (arguments : List Command) (kinds : List Kind) :
    World σ → List Function → List (Option Outcome) → Prop where
  | nothing (world : World σ) : Attempts host arguments kinds world [] []
  | last {world : World σ} {f : Function} {ended : Option (Outcome × World σ)}
      (comes : Eval.Comes (fun depth => run host depth (.function f) arguments kinds)
        { world with attempts := world.attempts + 1 } ended)
      (settled : settles (ended.map Prod.fst) = true) (rest : List Function) :
      Attempts host arguments kinds world (f :: rest) [ended.map Prod.fst]
  | next {world after : World σ} {f : Function} {error : CommandError}
      (comes : Eval.Comes (fun depth => run host depth (.function f) arguments kinds)
        { world with attempts := world.attempts + 1 } (some (.error error, after)))
      (failed : settles (some (.error error)) = false) {rest : List Function}
      {others : List (Option Outcome)}
      (more : Attempts host arguments kinds { after with attempts := after.attempts - 1 } rest
        others) :
      Attempts host arguments kinds world (f :: rest) (some (.error error) :: others)

/-- Trying functions ends with the first outcome that settles. -/
theorem Attempts.comes {arguments : List Command} {kinds : List Kind} {world : World σ}
    {functions : List Function} {made : List (Option Outcome)}
    (attempts : Attempts host arguments kinds world functions made) :
    ∃ ended, Eval.Comes (fun depth => callFirst (run host depth) arguments kinds functions) world
      ended ∧ ended.map Prod.fst = firstSettled made := by
  induction attempts with
  | nothing world => exact ⟨_, Eval.comes_of_run fun _ => rfl, rfl⟩
  | @last world f ended comes settled rest =>
    obtain ⟨enough, runs⟩ := comes
    have tried := fun depth deep =>
      (run_callFirst arguments kinds f rest world).trans (by rw [runs depth deep])
    rw [firstSettled_of_settles settled]
    rcases ended with _ | ⟨error | reply, after⟩
    · exact ⟨none, ⟨enough, tried⟩, rfl⟩
    · have exhausted : error = .budgetExhausted := of_decide_eq_true settled
      subst exhausted
      exact ⟨_, ⟨enough, tried⟩, rfl⟩
    · exact ⟨_, ⟨enough, tried⟩, rfl⟩
  | @next world after f error comes failed rest others more ih =>
    obtain ⟨ended, rests, same⟩ := ih
    refine ⟨ended, ?_, ?_⟩
    · obtain ⟨enough, runs⟩ := comes
      obtain ⟨more, runsRest⟩ := rests
      refine ⟨max enough more, fun depth deep => ?_⟩
      rw [run_callFirst_of_error (runs depth (by omega)) (of_decide_eq_false failed)]
      exact runsRest depth (by omega)
    · rw [same, firstSettled_of_not_settles failed]

/-- A call of overloads ends with the first outcome that settles of the attempts on the arguments in
new cells. -/
theorem Attempts.yields {arguments : List Command} {kinds : List Kind} {world : World σ}
    {set : Overloads} {made : List (Option Outcome)}
    (attempts : Attempts host (Command.sharedFrom world.cells.size arguments) kinds
      (world.grow arguments.length) set.functions made) :
    Yields host world (.overloads set) arguments kinds (firstSettled made) := by
  obtain ⟨ended, ⟨enough, runs⟩, same⟩ := attempts.comes
  refine ⟨enough + 1, fun depth deep => ?_⟩
  obtain ⟨depth, rfl⟩ : ∃ shallower, depth = shallower + 1 := ⟨depth - 1, by omega⟩
  rw [run, Eval.run_recorded, step, callOverloads, Eval.run_bind, Eval.run_share, Option.map_map,
    ← same]
  exact congrArg (Option.map Prod.fst) (runs depth (by omega))

section Steady

variable {since : Nat} {among : World σ → Prop} {arguments : List Command} {kinds : List Kind}

theorem function_steadily (family : World.Family since among) {f : Function}
    {results : Bindings → Said Value} (reliable : Reliable host since among f results)
    {told : List Account} (speak : Speak host since among arguments told) (kinds : List Kind) :
    Eval.Steadily since among (note Reply.bare)
      (fun depth => run host depth (.function f) arguments kinds) (f.noteCall results kinds told) :=
  ((callFunction_steadily family reliable speak kinds).recorded family).deeper

/-- If each function comes to an outcome of which the same is noted, whenever it is tried, then the same
function settles. -/
theorem exists_attempts (family : World.Family since among) {functions : List Function}
    {outcomes : List (Option Outcome)}
    (steady : List.Forall₂ (fun f (outcome : Option Outcome) =>
      Eval.Steadily since among (note Reply.bare)
        (fun depth => run host depth (.function f) arguments kinds)
        (ExceptT.mk (outcome.map (note Reply.bare)))) functions outcomes)
    {world : World σ} (inside : among world) :
    ∃ made, Attempts host arguments kinds world functions made ∧
      made.findIdx? settles = outcomes.findIdx? settles ∧
      (firstSettled made).map Outcome.bare = (firstSettled outcomes).map Outcome.bare := by
  induction steady generalizing world with
  | nil => exact ⟨[], .nothing world, rfl, rfl⟩
  | @cons f outcome rest outcomes first _ ih =>
    have trying := family.beside inside (World.beside_attempts (family.room inside)
      (world.attempts + 1))
    obtain ⟨ended, comes, noted, leaves⟩ := first _ trying
    have same : (ended.map Prod.fst).map (note Reply.bare) = outcome.map (note Reply.bare) := by
      rw [Option.map_map]
      exact noted
    have agree := settles_of_note same
    cases settled : settles (ended.map Prod.fst) with
    | true =>
      rw [settled] at agree
      refine ⟨_, .last comes settled rest, ?_, ?_⟩
      · simp only [List.findIdx?_cons, settled, ← agree, if_true]
      · rw [firstSettled_of_settles settled, firstSettled_of_settles agree.symm]
        exact bare_of_note same settled
    | false =>
      -- The attempt failed, and the others are made in the world that it left, which is of the family.
      rw [settled] at agree
      obtain ⟨error, after, rfl⟩ : ∃ error after, ended = some (.error error, after) := by
        rcases ended with _ | ⟨error | reply, after⟩
        · cases settled
        · exact ⟨error, after, rfl⟩
        · cases settled
      obtain ⟨stays, -⟩ := leaves _ _ rfl
      obtain ⟨made, attempts, sameIndex, sameOutcome⟩ :=
        ih (family.beside stays (World.beside_attempts (family.room stays) (after.attempts - 1)))
      rw [Option.map_some] at settled
      refine ⟨_, .next comes settled attempts, ?_, ?_⟩
      · simp only [List.findIdx?_cons, settled, ← agree, Bool.false_eq_true, if_false, sameIndex]
      · rw [firstSettled_of_not_settles settled, firstSettled_of_not_settles agree.symm]
        exact sameOutcome

end Steady

/-- Nothing that functions and arguments do in a world disturbs the others, as a family of worlds bears
witness: called for their texts the arguments have no effect that leads out of the family, and say the
same in all of it; and the code of the functions, which has none either, comes to the same on the same
bindings, and executes no argument. In the family of the worlds that are beside the given one nothing
has any effect at all; in a larger one code may have effects that arguments and code do not notice. -/
structure Undisturbed (host : Host σ) (functions : List Function) (arguments : List Command)
    (world : World σ) (among : World σ → Prop) : Prop where
  family : World.Family world.cells.size among
  inside : among world
  arguments : ∃ told, Speak host world.cells.size among arguments told
  code : ∀ f ∈ functions, ∃ results, Reliable host world.cells.size among f results

/-- Each function comes alone to an outcome, of which the same is noted when it is tried on shared
arguments. -/
theorem exists_outcomes {functions : List Function} {arguments : List Command} {world : World σ}
    {among : World σ → Prop} (family : World.Family world.cells.size among) (inside : among world)
    {told : List Account} (speak : Speak host world.cells.size among arguments told)
    (code : ∀ f ∈ functions, ∃ results, Reliable host world.cells.size among f results)
    (kinds : List Kind) :
    ∃ outcomes : List (Option Outcome),
      List.Forall₂ (fun f outcome => Yields host world (.function f) arguments kinds outcome) functions
        outcomes ∧
      List.Forall₂ (fun f (outcome : Option Outcome) =>
        Eval.Steadily (world.cells.size + told.length)
          (World.Opened world.cells.size among told world) (note Reply.bare)
          (fun depth => run host depth (.function f)
            (Command.sharedFrom world.cells.size arguments) kinds)
          (ExceptT.mk (outcome.map (note Reply.bare)))) functions outcomes := by
  induction functions with
  | nil => exact ⟨[], .nil, .nil⟩
  | cons f functions ih =>
    obtain ⟨⟨results, reliable⟩, code⟩ := List.forall_mem_cons.1 code
    obtain ⟨outcomes, alone, tried⟩ := ih code
    obtain ⟨ended, ⟨enough, runs⟩, noted, -⟩ :=
      function_steadily family reliable speak kinds world inside
    refine ⟨ended.map Prod.fst :: outcomes, .cons ?_ alone, .cons ?_ tried⟩
    · exact ⟨enough, fun depth deep => congrArg (Option.map Prod.fst) (runs depth deep)⟩
    · have same : ExceptT.mk ((ended.map Prod.fst).map (note Reply.bare)) =
          f.noteCall results kinds told := by
        rw [Option.map_map]
        exact noted
      rw [same]
      exact function_steadily (family.opened inside told)
        (fun bindings => steadily_opened family inside (reliable bindings) told)
        (speak.shared family inside) kinds

/-- Overloads end as the first of their functions that alone, on arguments of its own, answers, exhausts
the budget or never ends, and if there is none, there is no matching overload; cells make no difference
to an answer. On the shared arguments the same function is the last that is tried. -/
theorem overloads_end_as_first_alone {set : Overloads} {arguments : List Command} {world : World σ}
    {among : World σ → Prop} (undisturbed : Undisturbed host set.functions arguments world among)
    (kinds : List Kind) :
    ∃ outcomes made : List (Option Outcome),
      List.Forall₂ (fun f outcome => Yields host world (.function f) arguments kinds outcome)
        set.functions outcomes ∧
      Attempts host (Command.sharedFrom world.cells.size arguments) kinds
        (world.grow arguments.length) set.functions made ∧
      made.findIdx? settles = outcomes.findIdx? settles ∧
      Yields host world (.overloads set) arguments kinds (firstSettled made) ∧
      (firstSettled made).map Outcome.bare = (firstSettled outcomes).map Outcome.bare := by
  obtain ⟨family, inside, ⟨told, speak⟩, code⟩ := undisturbed
  obtain ⟨outcomes, alone, tried⟩ := exists_outcomes family inside speak code kinds
  have opened := World.opened_grow family inside told
  rw [← speak.length_eq] at opened
  obtain ⟨made, attempts, sameIndex, sameOutcome⟩ :=
    exists_attempts (family.opened inside told) tried opened
  exact ⟨outcomes, made, alone, attempts, sameIndex, attempts.yields, sameOutcome⟩

/-- An application with a number, which a command shows, and with code of which one part fails and the
other answers. -/
def picky : Host Nat where
  native := fun index _ => if index = 0 then Native.fail (.native "no luck") else pure (.string "found")
  foreign := fun _ => some fun _ _ =>
    .change id fun number => .done (.ok (.text (toString number)))

/-- Three overloads: the one that is tried first cannot evaluate its second argument, the next one
fails itself, and the last one answers. -/
def pickyOverloads : Overloads :=
  .ofList [{ name := "word", formals := [.plain .string], required := 1, code := .host 1 },
    { name := "number", formals := [.plain .int], required := 1, code := .host 0 },
    { name := "both", formals := [.plain .int, .plain .string], required := 2, code := .host 1 }]

theorem reliable_picky {since : Nat} {among : World Nat → Prop} :
    ∀ f ∈ pickyOverloads.functions, ∃ results, Reliable picky since among f results := by
  have hosted : ∀ f ∈ pickyOverloads.functions, ∃ index, f.code = .host index := by
    intro f listed
    replace listed := List.mem_mergeSort.1 listed
    simp only [List.mem_cons, List.not_mem_nil, or_false] at listed
    rcases listed with rfl | rfl | rfl <;> exact ⟨_, rfl⟩
  intro f listed
  obtain ⟨index, code⟩ := hosted f listed
  let result : Except Failure Value :=
    if index = 0 then .error (.error (.native "no luck")) else .ok (.string "found")
  refine ⟨_, reliable_of_done (fun _ => result) (fun bindings => ?_) fun bindings => ?_⟩
  · rw [code, Host.codeOf, picky]
    simp only [result]
    split <;> rfl
  · simp only [result]
    split <;> rfl

theorem overloads_end_as_first_alone_picky :
    let world := World.start (.empty .standard) (Context.fresh (.tokens 1) none) 5 0
    let arguments := [.foreign "number" 0, .orphan]
    Undisturbed picky pickyOverloads.functions arguments world
      (world.Beside world.cells.size) ∧
    ∃ outcomes made : List (Option Outcome),
      List.Forall₂ (fun f outcome => Yields picky world (.function f) arguments [.string] outcome)
        pickyOverloads.functions outcomes ∧
      Attempts picky (Command.sharedFrom world.cells.size arguments) [.string]
        (world.grow arguments.length) pickyOverloads.functions made ∧
      made.findIdx? settles = outcomes.findIdx? settles ∧
      Yields picky world (.overloads pickyOverloads) arguments [.string] (firstSettled made) ∧
      (firstSettled made).map Outcome.bare = (firstSettled outcomes).map Outcome.bare := by
  intro world arguments
  have family := World.family_beside world.cells.size world
  have shows : Eval.Steadily world.cells.size (world.Beside world.cells.size) heard
      (fun depth => run picky depth (.foreign "number" 0) [] [.string])
      (ExceptT.mk (some (heard (.ok (.text (toString 5)))))) := by
    apply steadily_of_step family
    intro depth other beside
    have number : other.application = 5 := beside.application
    show some (Except.ok (Reply.text (toString other.application)), other) = _
    rw [number]
  have fails : Eval.Steadily world.cells.size (world.Beside world.cells.size) heard
      (fun depth => run picky depth .orphan [] [.string])
      (ExceptT.mk (some (heard (.error (.internal "the command tree was dropped"))))) :=
    steadily_of_step family fun _ _ _ => rfl
  have undisturbed : Undisturbed picky pickyOverloads.functions arguments world
      (world.Beside world.cells.size) := by
    refine ⟨family, .of_cells (Nat.le_refl _) rfl rfl rfl rfl rfl, ?_, reliable_picky⟩
    exact ⟨[(.foreign "number" 0, _), (.orphan, _)], .cons ⟨rfl, shows⟩ (.cons ⟨rfl, fails⟩ .nil)⟩
  exact ⟨undisturbed, overloads_end_as_first_alone undisturbed [.string]⟩

end Evaluate

end ChatLine
