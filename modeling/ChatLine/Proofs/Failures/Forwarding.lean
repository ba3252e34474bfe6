import ChatLine.Proofs.Calls.Builtins

set_option autoImplicit false

namespace ChatLine

variable {σ α β : Type}

/-- The error with which code failed, if it is one of the command system. -/
def forwarded? : Except Failure α → Option CommandError
  | .error (.error error) => some error
  | _ => none

theorem eq_of_forwarded? {result : Except Failure α} {error : CommandError}
    (forwarded : forwarded? result = some error) : result = .error (.error error) := by
  match result with
  | .error (.error other) =>
    cases forwarded
    rfl
  | .error (.message _ _) => cases forwarded
  | .ok _ => cases forwarded

namespace Program

/-- Code that ends at once when a call or a line of its own fails, with a value that tells so. -/
def Forwards (tell : α → Option CommandError) : Program σ α → Prop
  | done _ => True
  | call _ _ _ _ next =>
    (∀ error, ∃ value, next (.error error) = done value ∧ tell value = some error) ∧
      ∀ reply, (next (.ok reply)).Forwards tell
  | line _ _ next =>
    (∀ error, ∃ value, next (.error error) = done value ∧ tell value = some error) ∧
      ∀ reply, (next (.ok reply)).Forwards tell
  | look next => ∀ bot context, (next bot context).Forwards tell
  | spend _ next => ∀ enough, (next enough).Forwards tell
  | administrator next => ∀ answer, (next answer).Forwards tell
  | draw _ _ next => ∀ value, (next value).Forwards tell
  | addAlias _ _ next => ∀ result, (next result).Forwards tell
  | removeAlias _ next => ∀ result, (next result).Forwards tell
  | change _ next => ∀ state, (next state).Forwards tell

/-- Code that takes no tokens itself. What the commands take that it calls is up to them. -/
def Thrifty : Program σ α → Prop
  | done _ => True
  | call _ _ _ _ next => ∀ outcome, (next outcome).Thrifty
  | line _ _ next => ∀ outcome, (next outcome).Thrifty
  | look next => ∀ bot context, (next bot context).Thrifty
  | spend _ _ => False
  | administrator next => ∀ answer, (next answer).Thrifty
  | draw _ _ next => ∀ value, (next value).Thrifty
  | addAlias _ _ next => ∀ result, (next result).Thrifty
  | removeAlias _ next => ∀ result, (next result).Thrifty
  | change _ next => ∀ state, (next state).Thrifty

/-- Code that calls no command and runs no line. -/
def Silent : Program σ α → Prop
  | done _ => True
  | call _ _ _ _ _ => False
  | line _ _ _ => False
  | look next => ∀ bot context, (next bot context).Silent
  | spend _ next => ∀ enough, (next enough).Silent
  | administrator next => ∀ answer, (next answer).Silent
  | draw _ _ next => ∀ value, (next value).Silent
  | addAlias _ _ next => ∀ result, (next result).Silent
  | removeAlias _ next => ∀ result, (next result).Silent
  | change _ next => ∀ state, (next state).Silent

theorem Silent.forwards {program : Program σ α} (silent : program.Silent)
    (tell : α → Option CommandError) : program.Forwards tell := by
  induction program with
  | done value => trivial
  | call scopes command arguments kinds next ih => exact silent.elim
  | line text kinds next ih => exact silent.elim
  | look next ih => exact fun bot context => ih bot context (silent bot context)
  | spend tokens next ih => exact fun enough => ih enough (silent enough)
  | administrator next ih => exact fun answer => ih answer (silent answer)
  | draw low high next ih => exact fun value => ih value (silent value)
  | addAlias name text next ih => exact fun result => ih result (silent result)
  | removeAlias name next ih => exact fun result => ih result (silent result)
  | change update next ih => exact fun state => ih state (silent state)

theorem thrifty_bind {program : Program σ α} {next : α → Program σ β} (thrifty : program.Thrifty)
    (rest : ∀ value, (next value).Thrifty) : (program.bind next).Thrifty := by
  induction program with
  | done value => exact rest value
  | call scopes command arguments kinds after ih => exact fun outcome => ih outcome (thrifty outcome)
  | line text kinds after ih => exact fun outcome => ih outcome (thrifty outcome)
  | look after ih => exact fun bot context => ih bot context (thrifty bot context)
  | spend tokens after ih => exact thrifty.elim
  | administrator after ih => exact fun answer => ih answer (thrifty answer)
  | draw low high after ih => exact fun value => ih value (thrifty value)
  | addAlias name text after ih => exact fun result => ih result (thrifty result)
  | removeAlias name after ih => exact fun result => ih result (thrifty result)
  | change update after ih => exact fun state => ih state (thrifty state)

/-- Code that goes on only where it has not failed forwards the failures of both parts. -/
theorem forwards_bind {program : Program σ (Except Failure α)}
    {next : Except Failure α → Program σ (Except Failure β)}
    (forwards : program.Forwards forwarded?)
    (fails : ∀ failure, next (.error failure) = done (.error failure))
    (rest : ∀ value, (next (.ok value)).Forwards forwarded?) :
    (program.bind next).Forwards forwarded? := by
  have hands_on : ∀ {after : Outcome → Program σ (Except Failure α)},
      (∀ error, ∃ value, after (.error error) = done value ∧ forwarded? value = some error) →
      ∀ error, ∃ value, (after (.error error)).bind next = done value ∧
        forwarded? value = some error := by
    intro after ends error
    obtain ⟨value, same, tells⟩ := ends error
    refine ⟨.error (.error error), ?_, rfl⟩
    rw [same, eq_of_forwarded? tells]
    exact fails _
  induction program with
  | done result =>
    cases result with
    | error failure =>
      show (next (.error failure)).Forwards forwarded?
      rw [fails]
      trivial
    | ok value => exact rest value
  | call scopes command arguments kinds after ih =>
    exact ⟨hands_on forwards.1, fun reply => ih (.ok reply) (forwards.2 reply)⟩
  | line text kinds after ih =>
    exact ⟨hands_on forwards.1, fun reply => ih (.ok reply) (forwards.2 reply)⟩
  | look after ih => exact fun bot context => ih bot context (forwards bot context)
  | spend tokens after ih => exact fun enough => ih enough (forwards enough)
  | administrator after ih => exact fun answer => ih answer (forwards answer)
  | draw low high after ih => exact fun value => ih value (forwards value)
  | addAlias name text after ih => exact fun result => ih result (forwards result)
  | removeAlias name after ih => exact fun result => ih result (forwards result)
  | change update after ih => exact fun state => ih state (forwards state)

end Program

namespace Native

/-- Code that hands failures on and takes no tokens. -/
structure Orderly (native : Native σ α) : Prop where
  forwards : native.run.Forwards forwarded?
  thrifty : native.run.Thrifty

theorem orderly_ofExcept (result : Except CommandError α) :
    (ofExcept result : Native σ α).Orderly := by
  cases result <;> exact ⟨trivial, trivial⟩

theorem orderly_bind {native : Native σ α} {next : α → Native σ β} (first : native.Orderly)
    (rest : ∀ value, (next value).Orderly) : (native >>= next).Orderly where
  forwards := Program.forwards_bind first.forwards (fun _ => rfl) fun value => (rest value).forwards
  thrifty := by
    apply Program.thrifty_bind first.thrifty
    intro result
    cases result with
    | error failure => trivial
    | ok value => exact (rest value).thrifty

theorem orderly_discard {native : Native σ α} (orderly : native.Orderly) :
    (discard native).Orderly where
  forwards := Program.forwards_bind orderly.forwards (fun _ => rfl) fun _ => trivial
  thrifty := by
    apply Program.thrifty_bind orderly.thrifty
    intro result
    cases result <;> trivial

theorem closed_orderly : Closed fun {α : Type} (native : Native σ α) => native.Orderly where
  ofExcept := orderly_ofExcept
  bind := orderly_bind
  discard := orderly_discard
  callWithin := fun _ _ _ _ =>
    ⟨⟨fun _ => ⟨_, rfl, rfl⟩, fun _ => trivial⟩, fun outcome => (orderly_ofExcept outcome).thrifty⟩
  callLine := fun _ _ =>
    ⟨⟨fun _ => ⟨_, rfl, rfl⟩, fun _ => trivial⟩, fun outcome => (orderly_ofExcept outcome).thrifty⟩
  bot := ⟨fun _ _ => trivial, fun _ _ => trivial⟩
  context := ⟨fun _ _ => trivial, fun _ _ => trivial⟩
  draw := fun _ _ => ⟨fun _ => trivial, fun _ => trivial⟩
  addAlias := fun _ _ =>
    ⟨fun result => (orderly_ofExcept result).forwards, fun result => (orderly_ofExcept result).thrifty⟩
  removeAlias := fun _ =>
    ⟨fun result => (orderly_ofExcept result).forwards, fun result => (orderly_ofExcept result).thrifty⟩

end Native

/-- Every built-in command hands failures on and takes no tokens. -/
theorem Builtin.orderly_native (builtin : Builtin) (bindings : Bindings) :
    (builtin.native bindings : Native σ Value).Orderly :=
  Native.closed_orderly.builtin builtin bindings

end ChatLine
