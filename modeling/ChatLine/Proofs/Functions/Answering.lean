import ChatLine.Proofs.Alike.Calls
import ChatLine.Proofs.Calls.Kinds
import ChatLine.Proofs.Functions.Reaching
import ChatLine.Proofs.Parallel.Journal

set_option autoImplicit false

namespace ChatLine

variable {σ α β : Type}

namespace Eval

/-- A computation in one world comes to the same as another one in its own world: neither has a
result, or both have the same, and the world that is left is the one that the other leaves, after a
change and up to the journal. -/
def ComesLike (action : Eval σ α) (world : World σ) (other : Eval σ α) (there : World σ)
    (change : Except CommandError α → World σ → World σ) : Prop :=
  Option.Rel (fun made twin => made.1 = twin.1 ∧ (change twin.1 twin.2).UpToJournal made.2)
    (action.run.run world) (other.run.run there)

section ComesLike

variable {action other : Eval σ α} {world there : World σ}
  {change : Except CommandError α → World σ → World σ}

theorem comesLike_self (action : Eval σ α) (world : World σ) :
    action.ComesLike world action world fun _ after => after := by
  unfold ComesLike
  cases action.run.run world with
  | none => exact .none
  | some made => exact .some ⟨rfl, .refl _⟩

theorem ComesLike.of_run_eq {first : Eval σ α} {start : World σ}
    (like : action.ComesLike world other there change)
    (runs : first.run.run start = action.run.run world) :
    first.ComesLike start other there change := by
  unfold ComesLike at like ⊢
  rwa [runs]

theorem ComesLike.back {result : Except CommandError α} {last : World σ}
    (like : action.ComesLike world other there change)
    (runs : other.run.run there = some (result, last)) :
    ∃ after, action.run.run world = some (result, after) ∧
      (change result last).UpToJournal after := by
  unfold ComesLike at like
  rw [runs] at like
  generalize action.run.run world = made at like ⊢
  cases like with
  | @some made _ both =>
    obtain ⟨result, after⟩ := made
    obtain ⟨rfl, same⟩ := both
    exact ⟨after, rfl, same⟩

/-- What is done to the world afterwards is done to the other one as well, if it does not depend on
the journal. -/
theorem ComesLike.map {first : Eval σ α} {start : World σ}
    (like : action.ComesLike world other there change) (put : World σ → World σ)
    (runs : first.run.run start = (action.run.run world).map fun made => (made.1, put made.2))
    (blind : ∀ {before after : World σ}, before.UpToJournal after →
      (put before).UpToJournal (put after)) :
    first.ComesLike start other there fun result after => put (change result after) := by
  unfold ComesLike at like ⊢
  rw [runs]
  generalize action.run.run world = made at like ⊢
  generalize other.run.run there = twin at like ⊢
  cases like with
  | none => exact .none
  | some both => exact .some ⟨both.1, blind both.2⟩

theorem ComesLike.recorded (like : action.ComesLike world other there change) :
    (Eval.recorded action).ComesLike world other there change := by
  unfold ComesLike at like ⊢
  rw [run_recorded]
  generalize action.run.run world = made at like ⊢
  generalize other.run.run there = twin at like ⊢
  cases like with
  | none => exact .none
  | @some made twin both =>
    refine .some ⟨both.1, both.2.trans ?_⟩
    obtain ⟨result, after⟩ := made
    cases result with
    | ok value => exact .refl after
    | error error => exact after.upToJournal_record _

end ComesLike

end Eval

namespace Native

/-- Code in one world repeats a computation in its own world: it ends with the same value or hands
the same error on, and in the world that is left something is put back in place. -/
def Repeats (call : Caller σ) (line : LineCaller σ) (native : Native σ α) (world : World σ)
    (action : Eval σ α) (there : World σ) (put : World σ → World σ) : Prop :=
  (native.runWith call line).run.run world =
    (action.run.run there).map fun made => (.ok (made.1.mapError Failure.error), put made.2)

section Repeats

variable {call : Caller σ} {line : LineCaller σ} {world there middle : World σ}
  {put : World σ → World σ}

theorem repeats_after {native : Native σ α} {next : α → Native σ β} {action : Eval σ β} {value : α}
    (runs : (native.runWith call line).run.run world = some (.ok (.ok value), middle))
    (rest : Repeats call line (next value) middle action there put) :
    Repeats call line (native >>= next) world action there put := by
  unfold Repeats at rest ⊢
  rw [runWith_bind, Eval.run_bind, runs]
  exact rest

theorem repeats_call (command : Command) (arguments : List Command) (kinds : List Kind)
    (world : World σ) :
    Repeats call line (Native.call command arguments kinds) world (call command arguments kinds)
      world id := by
  have nothing : Eval.inScopes [] (call command arguments kinds) = call command arguments kinds :=
    rfl
  unfold Repeats
  rw [Native.call, runWith_callWithin, nothing, Eval.run_bind, Eval.run_outcome]
  rcases (call command arguments kinds).run.run world with _ | ⟨_ | _, _⟩ <;> rfl

theorem repeats_callLine (text : String) (kinds : List Kind) (world : World σ) :
    Repeats call line (callLine text kinds) world (line text kinds) world id := by
  unfold Repeats
  rw [runWith_callLine, Eval.run_bind, Eval.run_outcome]
  rcases (line text kinds).run.run world with _ | ⟨_ | _, _⟩ <;> rfl

/-- Code that asks a command for its text gets it as any caller does. -/
theorem repeats_text (command : Command) (world : World σ) :
    Repeats call line (text command) world (Eval.text call command) world id := by
  have called : Repeats call line (Native.call command [] [.string]) world
      (call command [] [.string]) world id := repeats_call command [] [.string] world
  unfold Repeats at called ⊢
  rw [text, Eval.text, runWith_bind, Eval.run_bind, Eval.run_bind, called]
  rcases (call command [] [.string]).run.run world with _ | ⟨error | reply, after⟩
  · rfl
  · rfl
  · have bot : ((Native.bot : Native σ Bot).runWith call line).run.run after =
        some (.ok (.ok after.bot), after) := rfl
    dsimp only [Option.map_some, Except.mapError, id]
    rw [runWith_bind, Eval.run_bind, bot, Eval.run_bind, Eval.run_get]
    dsimp only
    cases reply.requireText (Command.describe after.bot.groups) command <;> rfl

theorem run_text {command : Command} {content : String}
    (runs : (Eval.text call command).run.run world = some (.ok content, middle)) :
    ((text command : Native σ String).runWith call line).run.run world =
      some (.ok (.ok content), middle) := by
  have repeats : Repeats call line (text command) world (Eval.text call command) world id :=
    repeats_text command world
  unfold Repeats at repeats
  rw [repeats, runs]
  rfl

end Repeats

end Native

namespace Evaluate

variable {host : Host σ} {call : Caller σ} {line : LineCaller σ} {f : Function} {command : Command}
  {arguments : List Command} {kinds : List Kind} {world bound there : World σ} {bindings : Bindings}
  {action : Eval σ Reply}

theorem run_invoke_of_repeats {put : World σ → World σ} {native : Native σ Reply}
    (code : host.codeOf f.code bindings = native >>= fun reply => pure (.reply reply))
    (repeats : native.Repeats call line bound action there put) :
    (invoke host call line f bindings).run.run bound =
      (action.run.run there).map fun made => (made.1.map Value.reply, put made.2) := by
  have whole : ((host.codeOf f.code bindings).runWith call line).run.run bound =
      (action.run.run there).map fun made =>
        (.ok ((made.1.map Value.reply).mapError Failure.error), put made.2) := by
    unfold Native.Repeats at repeats
    rw [code, Native.runWith_bind, Eval.run_bind, repeats]
    rcases action.run.run there with _ | ⟨_ | _, _⟩ <;> rfl
  unfold Native.runWith at whole
  rw [invoke, Eval.run_bind, whole]
  rcases action.run.run there with _ | ⟨_ | _, _⟩ <;> rfl

/-- A function whose code repeats a call answers what that call answers, if it is of a wanted kind. -/
theorem run_step_of_invoke (put : World σ → World σ) (isFunction : command.function? = some f)
    (reaches : (reach call f arguments kinds).run.run world = some (.ok (.code bindings), bound))
    (invokes : (invoke host call line f bindings).run.run bound =
      (action.run.run there).map fun made => (made.1.map Value.reply, put made.2))
    (fits : ∀ reply after, action.run.run there = some (.ok reply, after) → reply.kind ∈ kinds) :
    (step host call line command arguments kinds).run.run world =
      (action.run.run there).map fun made => (made.1, put made.2) := by
  rw [step_of_function? isFunction, Eval.run_bind, reaches]
  dsimp only [proceed]
  rw [Eval.run_bind, invokes]
  cases answered : action.run.run there with
  | none => rfl
  | some made =>
    obtain ⟨error | reply, after⟩ := made
    · rfl
    · dsimp only [Option.map_some, Except.map]
      rw [Eval.run_ofExcept, Value.deliver_reply (fits reply after answered)]

theorem replay_of_fits {what : String} {outcome : Outcome}
    (fits : ∀ reply, outcome = .ok reply → reply.kind ∈ kinds) :
    replay what outcome kinds = outcome := by
  cases outcome with
  | error error => rfl
  | ok reply => exact if_pos ((reply.fits_iff kinds).2 (fits reply rfl))

/-- A command that runs at most once, and has not run, comes to the same as the command inside. -/
theorem lazy_comesLike (honest : host.HonoursKinds) (depth : Nat) {cell : Nat}
    (unread : world.kept? cell = none) (inner : Command) (arguments : List Command)
    (kinds : List Kind) :
    (run host (depth + 1) (.lazy cell inner) arguments kinds).ComesLike world
      (run host depth inner arguments kinds) world fun outcome after => after.keep cell outcome := by
  refine Eval.ComesLike.recorded ?_
  unfold Eval.ComesLike
  rw [step, run_callLazy_of_unsettled unread]
  have keeps := run_keeps honest depth inner arguments kinds
    (world.record (.evaluated cell world.context.frames))
  have both := run_upToJournal host depth inner arguments kinds world _
    (world.upToJournal_record (.evaluated cell world.context.frames))
  unfold Eval.ParallelAt at both
  generalize (run host depth inner arguments kinds).run.run world = twin at both ⊢
  cases runs : (run host depth inner arguments kinds).run.run
      (world.record (.evaluated cell world.context.frames)) with
  | none =>
    rw [runs] at both
    cases both
    exact .none
  | some made =>
    obtain ⟨outcome, after⟩ := made
    rw [runs] at both
    cases both with
    | @some twin _ both =>
      obtain ⟨result, last⟩ := twin
      obtain ⟨rfl, journal, rfl⟩ := both
      exact .some ⟨replay_of_fits (keeps _ _ runs), journal, rfl⟩

end Evaluate

end ChatLine
