import ChatLine.Proofs.Calls.Binding

set_option autoImplicit false

namespace ChatLine

variable {σ : Type}

/-- The function that a command is, with or without documentation. -/
def Command.function? : Command → Option Function
  | .function f => some f
  | .documented command => some command.function
  | _ => none

namespace Function

/-- A call that took so many arguments could take more. -/
def TakesMore (f : Function) (taken : Nat) : Prop :=
  f.hasTail = true ∨ taken < f.positionalCount

instance (f : Function) (taken : Nat) : Decidable (f.TakesMore taken) :=
  inferInstanceAs (Decidable (_ ∨ _))

/-- The function itself is what a caller wants before all else, and such a call could take more. -/
def Curries (f : Function) (taken : Nat) (kinds : List Kind) : Prop :=
  f.TakesMore taken ∧ kinds.head? = some .command

instance (f : Function) (taken : Nat) (kinds : List Kind) : Decidable (f.Curries taken kinds) :=
  inferInstanceAs (Decidable (_ ∧ _))

def tooFew (f : Function) : CommandError :=
  .arity ("not enough arguments for function " ++ f.name)

/-- The outcome of a call that took so many arguments, where the code does not run: there are too few
of them, the function itself is wanted before all else, or nothing is wanted but a command. -/
def early? (f : Function) (shared : List Command) (taken : Nat) (kinds : List Kind) :
    Option Outcome :=
  if taken < f.required then
    some (if .command ∈ kinds then .ok (.command (f.curry shared)) else .error f.tooFew)
  else if f.Curries taken kinds then
    some (.ok (.command (f.curry shared)))
  else if ∀ kind ∈ kinds, kind = .command then some (.error (f.noMatchingKind kinds))
  else none

section Early

variable {f : Function} {shared : List Command} {taken : Nat} {kinds : List Kind}

theorem early?_of_few (few : taken < f.required) :
    f.early? shared taken kinds =
      some (if .command ∈ kinds then .ok (.command (f.curry shared)) else .error f.tooFew) :=
  if_pos few

theorem early?_of_curried (enough : f.required ≤ taken)
    (curried : f.Curries taken kinds) :
    f.early? shared taken kinds = some (.ok (.command (f.curry shared))) := by
  rw [early?, if_neg (Nat.not_lt.2 enough), if_pos curried]

theorem early?_of_commands (enough : f.required ≤ taken)
    (direct : ¬ f.Curries taken kinds)
    (commands : ∀ kind ∈ kinds, kind = .command) :
    f.early? shared taken kinds = some (.error (f.noMatchingKind kinds)) := by
  rw [early?, if_neg (Nat.not_lt.2 enough), if_neg direct, if_pos commands]

/-- The code runs if there are enough arguments, the function itself is not wanted before all else,
and something is wanted that is no command. -/
theorem early?_eq_none_iff :
    f.early? shared taken kinds = none ↔ f.required ≤ taken ∧
      ¬ f.Curries taken kinds ∧ ∃ kind ∈ kinds, kind ≠ .command := by
  unfold early?
  split
  · rename_i few
    exact ⟨nofun, fun all => absurd few (Nat.not_lt.2 all.1)⟩
  · rename_i enough
    split
    · rename_i curried
      exact ⟨nofun, fun all => absurd curried all.2.1⟩
    · rename_i direct
      split
      · rename_i commands
        refine ⟨nofun, fun ⟨_, _, kind, inside, other⟩ => absurd (commands kind inside) other⟩
      · rename_i mixed
        refine ⟨fun _ => ⟨Nat.not_lt.1 enough, direct, ?_⟩, fun _ => rfl⟩
        simpa only [not_forall, exists_prop] using mixed

/-- The kinds that are looked at: commands only where the call could take more. -/
def lookedAt (f : Function) (taken : Nat) (kinds : List Kind) : List Kind :=
  kinds.filter fun kind => (f.hasTail || decide (taken < f.positionalCount)) || kind != .command

theorem mem_lookedAt {kind : Kind} :
    kind ∈ f.lookedAt taken kinds ↔ kind ∈ kinds ∧ (f.TakesMore taken ∨ kind ≠ .command) := by
  simp only [lookedAt, TakesMore, List.mem_filter, Bool.or_eq_true, decide_eq_true_eq, bne_iff_ne]

theorem lookedAt_of_takesMore (more : f.TakesMore taken) : f.lookedAt taken kinds = kinds := by
  apply List.filter_eq_self.2
  intro kind inside
  exact (List.mem_filter.1 (mem_lookedAt.2 ⟨inside, .inl more⟩)).2

/-- Nothing is looked at if nothing is wanted but a command, and the function cannot be one. -/
theorem lookedAt_eq_nil (direct : ¬ f.Curries taken kinds)
    (commands : ∀ kind ∈ kinds, kind = .command) : f.lookedAt taken kinds = [] := by
  apply List.eq_nil_iff_forall_not_mem.2
  intro kind among
  obtain ⟨inside, more | other⟩ := mem_lookedAt.1 among
  · cases kinds with
    | nil => cases inside
    | cons first others =>
      refine direct ⟨more, ?_⟩
      rw [List.head?_cons, commands first List.mem_cons_self]
  · exact other (commands kind inside)

/-- What is looked at first is no command, unless the function itself is wanted before all else. -/
theorem exists_lookedAt_eq_cons (direct : ¬ f.Curries taken kinds)
    (mixed : ∃ kind ∈ kinds, kind ≠ .command) :
    ∃ kind others, f.lookedAt taken kinds = kind :: others ∧ kind ≠ .command := by
  obtain ⟨other, inside, different⟩ := mixed
  obtain ⟨kind, others, looked⟩ :=
    List.exists_cons_of_ne_nil (List.ne_nil_of_mem (mem_lookedAt.2 ⟨inside, .inr different⟩))
  refine ⟨kind, others, looked, ?_⟩
  rintro rfl
  obtain ⟨_, more | never⟩ := mem_lookedAt.1 (looked ▸ List.mem_cons_self)
  · rw [lookedAt_of_takesMore more] at looked
    exact direct ⟨more, by rw [looked, List.head?_cons]⟩
  · exact never rfl

end Early

end Function

/-- A complete reply is delivered where its kind is among those wanted. -/
theorem Value.deliver_reply {f : Function} {kinds : List Kind} {reply : Reply}
    (wanted : reply.kind ∈ kinds) : (Value.reply reply).deliver f kinds = .ok reply :=
  if_pos ((reply.fits_iff kinds).2 wanted)

/-- How far a call of a function comes before its code: to an outcome, or to the bindings on which the
code runs. -/
inductive Reached where
  | outcome (outcome : Outcome)
  | code (bindings : Bindings)

def Reached.of (early : Option Outcome) (bindings : Bindings) : Reached :=
  match early with
  | some result => .outcome result
  | none => .code bindings

namespace Evaluate

def reach (call : Caller σ) (f : Function) (arguments : List Command) (kinds : List Kind) :
    Eval σ Reached := do
  let shared ← Eval.share arguments
  let (bindings, rest) ← Function.bindFormals call kinds shared f.formals shared
  return .of (f.early? shared (shared.length - rest.length) kinds) bindings

/-- What is left of a call of a function: its code, if that is to run, and then its delivery. -/
def proceed (host : Host σ) (call : Caller σ) (line : LineCaller σ) (f : Function)
    (kinds : List Kind) : Reached → Eval σ Reply
  | .outcome outcome => Eval.ofExcept outcome
  | .code bindings => do
    Eval.ofExcept ((← invoke host call line f bindings).deliver f kinds)

variable {host : Host σ} {call : Caller σ} {line : LineCaller σ} {f : Function}
  {command : Command} {arguments : List Command} {kinds : List Kind} {world bound : World σ}
  {bindings : Bindings} {rest : List Command}

/-- A call of a function gets as far as it comes without the code, and then proceeds from there. -/
theorem callFunction_eq_reach :
    callFunction host call line f arguments kinds =
      reach call f arguments kinds >>= proceed host call line f kinds := by
  unfold callFunction reach
  simp only [bind_assoc, pure_bind]
  congr 1
  funext shared
  congr 1
  funext ⟨bindings, rest⟩
  dsimp only
  by_cases few : shared.length - rest.length < f.required
  · rw [if_pos few, Function.early?_of_few few]
    by_cases wanted : Kind.command ∈ kinds
    · rw [if_pos (List.contains_iff_mem.2 wanted), if_pos wanted]
      rfl
    · rw [if_neg (mt List.contains_iff_mem.1 wanted), if_neg wanted]
      rfl
  · rw [if_neg few]
    have enough := Nat.not_lt.1 few
    generalize taken : shared.length - rest.length = count at enough
    have looks : (kinds.filter fun kind =>
        (f.hasTail || decide (count < f.positionalCount)) || kind != .command) =
          f.lookedAt count kinds := rfl
    rw [looks]
    by_cases curried : f.Curries count kinds
    · obtain ⟨others, rfl⟩ := List.head?_eq_some_iff.1 curried.2
      rw [Function.early?_of_curried enough curried, Function.lookedAt_of_takesMore curried.1]
      rfl
    · by_cases mixed : ∃ kind ∈ kinds, kind ≠ .command
      · obtain ⟨kind, others, looked, different⟩ := Function.exists_lookedAt_eq_cons curried mixed
        rw [Function.early?_eq_none_iff.2 ⟨enough, curried, mixed⟩, looked]
        cases kind with
        | command => exact absurd rfl different
        | _ => rfl
      · have commands : ∀ kind ∈ kinds, kind = .command := by
          simpa only [not_exists, not_and, not_not] using mixed
        rw [Function.early?_of_commands enough curried commands,
          Function.lookedAt_eq_nil curried commands]
        rfl

/-- What a command that is a function does is what the function does. -/
theorem step_of_function? (isFunction : command.function? = some f) :
    step host call line command arguments kinds =
      reach call f arguments kinds >>= proceed host call line f kinds := by
  rw [← callFunction_eq_reach]
  cases command with
  | function _ | documented _ =>
    cases isFunction
    rfl
  | _ => cases isFunction

section Bound

variable (binds : (Function.bindFormals call kinds (Command.sharedFrom world.cells.size arguments)
  f.formals (Command.sharedFrom world.cells.size arguments)).run.run
    (world.grow arguments.length) = some (.ok (bindings, rest), bound))
include binds

/-- When the parameters are bound, nothing else happens before the code. -/
theorem run_reach_of_binds :
    (reach call f arguments kinds).run.run world =
      some (.ok (.of (f.early? (Command.sharedFrom world.cells.size arguments)
        (arguments.length - rest.length) kinds) bindings), bound) := by
  rw [reach, Eval.run_bind, Eval.run_share]
  dsimp only
  rw [Eval.run_bind, binds, Command.length_sharedFrom]
  rfl

theorem run_step_of_early (isFunction : command.function? = some f) {outcome : Outcome}
    (early : f.early? (Command.sharedFrom world.cells.size arguments)
      (arguments.length - rest.length) kinds = some outcome) :
    (step host call line command arguments kinds).run.run world = some (outcome, bound) := by
  rw [step_of_function? isFunction, Eval.run_bind, run_reach_of_binds binds, early]
  rfl

/-- A call that is not answered before the code runs it once, and delivers its value. -/
theorem run_step_of_code (isFunction : command.function? = some f)
    (early : f.early? (Command.sharedFrom world.cells.size arguments)
      (arguments.length - rest.length) kinds = none) {value : Value} {ran : World σ}
    (runs : ((host.codeOf f.code bindings).runWith call line).run.run bound =
      some (.ok (.ok value), ran)) :
    (step host call line command arguments kinds).run.run world =
      some (value.deliver f kinds, ran) := by
  rw [step_of_function? isFunction, Eval.run_bind, run_reach_of_binds binds, early]
  unfold Native.runWith at runs
  simp only [Reached.of, proceed, invoke, bind_assoc, Eval.run_bind, runs, pure_bind]
  rfl

end Bound

end Evaluate

end ChatLine
