import ChatLine.Proofs.Parallel.Calls

set_option autoImplicit false

namespace ChatLine

variable {σ : Type}

def Event.isEntry : Event → Bool
  | .entered _ => true
  | _ => false

def entries (events : List Event) : Nat :=
  events.countP Event.isEntry

namespace World

/-- Since `start`, one token was taken for every stored line that was entered. -/
def Charged (start world : World σ) : Prop :=
  ∃ events left, world.journal = events ++ start.journal ∧ world.context.budget = .tokens left ∧
    start.context.budget = .tokens (left + entries events)

theorem charged_self {start : World σ} {tokens : Nat}
    (budget : start.context.budget = .tokens tokens) : start.Charged start :=
  ⟨[], tokens, rfl, budget, budget⟩

/-- The world goes on as it is, every entry since `start` being paid for. -/
def Paying (start world other : World σ) : Prop :=
  world = other ∧ start.Charged world

theorem coherent_paying (start : World σ) : Coherent start.Paying where
  same := by
    rintro world _ ⟨rfl, _⟩
    rfl
  aside := by
    rintro change aside world _ ⟨rfl, events, left, journal, budget, charged⟩
    refine ⟨rfl, events, left, ?_, ?_, charged⟩
    · rw [aside.journal, journal]
    · rw [aside.budget, budget]
  record := by
    rintro event other world _ ⟨rfl, events, left, journal, budget, charged⟩
    refine ⟨rfl, event :: events, left, ?_, budget, ?_⟩
    · rw [record, journal]
      rfl
    · have free : Event.isEntry event = false := by
        cases event with
        | entered text => exact absurd rfl (other text)
        | _ => rfl
      rw [charged, entries, entries,
        List.countP_cons_of_neg (by rw [free]; exact Bool.false_ne_true)]

/-- A line that is paid for is entered, and nothing else is taken. -/
theorem Charged.enter {start world : World σ} (charged : start.Charged world) {budget : Budget}
    (paid : world.context.budget.take? 1 = some budget) (text : String) (arguments : List Command) :
    start.Charged (world.enter budget text arguments) := by
  obtain ⟨events, left, journal, tokens, charged⟩ := charged
  rw [tokens] at paid
  obtain ⟨rest, rfl, spent⟩ := Budget.remaining_of_take? paid
  refine ⟨.entered text :: events, rest, ?_, rfl, ?_⟩
  · show Event.entered text :: world.journal = _
    rw [journal]
    rfl
  · have one_more : entries (.entered text :: events) = entries events + 1 :=
      List.countP_cons_of_pos rfl
    rw [charged, one_more, ← spent, Nat.add_assoc, Nat.add_comm 1]

/-- The world goes on as it is, with no more tokens than there is room for. -/
def Roomy (room : Nat) (world other : World σ) : Prop :=
  world = other ∧ ∃ left, left ≤ room ∧ world.context.budget = .tokens left

theorem coherent_roomy (room : Nat) : Coherent (Roomy room : World σ → World σ → Prop) where
  same := by
    rintro world _ ⟨rfl, _⟩
    rfl
  aside := by
    rintro change aside world _ ⟨rfl, left, within, budget⟩
    exact ⟨rfl, left, within, (aside.budget world).trans budget⟩
  record := by
    rintro event _ world _ ⟨rfl, left, within, budget⟩
    exact ⟨rfl, left, within, budget⟩

end World

namespace Evaluate

variable {host : Host σ}

/-- Calls a command like `run`, but has no result where the bodies of more than `room` stored lines
would be inside each other. -/
def nested (host : Host σ) : Nat → Nat → Caller σ
  | _, 0, _, _, _ => Eval.tooDeep
  | room, depth + 1, command, arguments, kinds =>
    let call := nested host room depth
    let inside :=
      match room with
      | 0 => fun _ _ _ => Eval.tooDeep
      | fewer + 1 => nested host fewer depth
    Eval.recorded <|
      match command with
      | .stored text body => callStored inside text body arguments kinds
      | other => step host call (callLine call) other arguments kinds

/-- Calls pay for the lines that they enter. -/
theorem run_paying (thrifty : host.Thrifty) (start : World σ) (depth : Nat) :
    (run host depth).Parallel start.Paying (run host depth) := by
  have coherent := World.coherent_paying start
  induction depth with
  | zero => exact fun _ _ _ => Eval.parallel_tooDeep
  | succ depth ih =>
    intro command arguments kinds
    refine Eval.Parallel.recorded coherent ?_
    cases command with
    | stored text body =>
      apply callStored_parallel coherent
      rintro world _ budget ⟨rfl, charged⟩ paid
      have both := ih body [] kinds _ _ ⟨rfl, charged.enter paid text arguments⟩
      unfold Eval.ParallelAt at both
      generalize (run host depth body [] kinds).run.run _ = made at both
      cases both with
      | none => exact .none
      | some both =>
        exact .some ⟨both.1, coherent.aside
          (World.aside_context Context.pop fun _ => rfl) both.2⟩
    | _ =>
      exact step_parallel coherent ih (callLine_parallel coherent ih) (.inl thrifty) (by nofun)
        arguments kinds

/-- Where there are no more tokens than room, no call runs out of room. -/
theorem nested_parallel (thrifty : host.Thrifty) (room depth : Nat) :
    (run host depth).Parallel (World.Roomy room) (nested host room depth) := by
  induction depth generalizing room with
  | zero => exact fun _ _ _ => Eval.parallel_tooDeep
  | succ depth ih =>
    have coherent : World.Coherent (World.Roomy room : World σ → World σ → Prop) :=
      World.coherent_roomy room
    intro command arguments kinds
    cases command with
    | stored text body =>
      refine Eval.Parallel.recorded coherent (callStored_parallel coherent ?_)
      rintro world _ budget ⟨rfl, left, within, tokens⟩ paid
      rw [tokens] at paid
      obtain ⟨rest, rfl, spent⟩ := Budget.remaining_of_take? paid
      obtain ⟨fewer, rfl⟩ : ∃ fewer, room = fewer + 1 := ⟨room - 1, by omega⟩
      have both := ih fewer body [] kinds _ _
        ⟨rfl, rest, by omega, (rfl : (world.enter (.tokens rest) text arguments).context.budget = _)⟩
      unfold Eval.ParallelAt at both
      dsimp only
      generalize (run host depth body [] kinds).run.run _ = made at both
      generalize (nested host fewer depth body [] kinds).run.run _ = same at both
      cases both with
      | none => exact .none
      | some both =>
        obtain ⟨same, last, left, within, tokens⟩ := both
        refine .some ⟨same, ?_, left, by omega, tokens⟩
        rw [last]
    | _ =>
      exact Eval.Parallel.recorded coherent (step_parallel coherent (ih room)
        (callLine_parallel coherent (ih room)) (.inl thrifty) (by nofun) arguments kinds)

/-- Where the application takes no tokens itself, a call with a budget enters no more stored lines
than it has tokens, and what is left of the budget is the tokens less these lines, however the call
ends. The bodies of so many stored lines at most are inside each other: the call ends as it would if
more of them were not let in. -/
theorem charges_of_run (thrifty : host.Thrifty) {depth tokens : Nat} {command : Command}
    {arguments : List Command} {kinds : List Kind} {world after : World σ} {outcome : Outcome}
    (budget : world.context.budget = .tokens tokens)
    (runs : (run host depth command arguments kinds).run.run world = some (outcome, after)) :
    (∃ events, after.journal = events ++ world.journal ∧ entries events ≤ tokens ∧
      after.context.budget = .tokens (tokens - entries events)) ∧
    (nested host tokens depth command arguments kinds).run.run world = some (outcome, after) := by
  constructor
  · have both := run_paying thrifty world depth command arguments kinds _ _
      ⟨rfl, World.charged_self budget⟩
    unfold Eval.ParallelAt at both
    rw [runs] at both
    cases both with
    | some both =>
      obtain ⟨-, -, events, left, journal, remaining, charged⟩ := both
      rw [budget] at charged
      have total : tokens = left + entries events :=
        Option.some.inj (congrArg Budget.remaining charged)
      refine ⟨events, journal, by omega, ?_⟩
      rw [remaining, total, Nat.add_sub_cancel]
  · have both := nested_parallel thrifty tokens depth command arguments kinds world world
      ⟨rfl, tokens, Nat.le_refl _, budget⟩
    unfold Eval.ParallelAt at both
    rw [runs] at both
    generalize (nested host tokens depth command arguments kinds).run.run world = same at both
    cases both with
    | @some _ same both =>
      obtain ⟨result, last⟩ := same
      obtain ⟨same_result, same_world, -⟩ := both
      cases same_result
      cases same_world
      rfl

/-- Two tokens for three lines inside each other. -/
theorem charges_of_run_exhausted :
    let world := World.start (.empty .bare) (.fresh (.tokens 2) none) () 0
    let lines : Command := .stored "!a" (.stored "!b" (.stored "!c" .orphan))
    Host.none.Thrifty ∧ world.context.budget = .tokens 2 ∧
      ∃ after, (run Host.none 4 lines [] [.string]).run.run world =
          some (.error .budgetExhausted, after) ∧
        (∃ events, after.journal = events ++ world.journal ∧ entries events ≤ 2 ∧
          after.context.budget = .tokens (2 - entries events)) ∧
        (nested Host.none 2 4 lines [] [.string]).run.run world =
          some (.error .budgetExhausted, after) := by
  intro world lines
  have thrifty : Host.none.Thrifty := ⟨fun _ _ => trivial, fun _ _ _ _ found => nomatch found⟩
  have ends : ∃ after, (run Host.none 4 lines [] [.string]).run.run world =
      some (.error .budgetExhausted, after) := ⟨_, rfl⟩
  obtain ⟨after, runs⟩ := ends
  exact ⟨thrifty, rfl, after, runs, charges_of_run thrifty rfl runs⟩

end Evaluate

end ChatLine
