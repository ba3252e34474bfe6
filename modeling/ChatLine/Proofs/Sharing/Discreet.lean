import ChatLine.Proofs.Bot.Allowed
import ChatLine.Proofs.Calls.Builtins
import ChatLine.Proofs.Sharing.Waiting
import ChatLine.Proofs.Termination.Code

set_option autoImplicit false

namespace ChatLine

variable {σ α β : Type}

open Command

def Scope.shows (frames : Frames) : Scope → Frames
  | outer => frames.tail
  | inner frame => frame :: frames

/-- The frames inside changes of the frames, of which the first is the outermost. -/
def Scope.visible (scopes : List Scope) (frames : Frames) : Frames :=
  scopes.foldl shows frames

/-- The command of the reply, if there is one, waits for nothing. -/
def Reply.Idle (kept : Nat → Bool) (since : Nat) (reply : Reply) : Prop :=
  ∀ command, reply = .command command → command.Idle kept since

theorem Reply.Idle.mono {kept after : Nat → Bool} {since : Nat}
    (stays : ∀ cell, kept cell = true → after cell = true) {reply : Reply}
    (idle : reply.Idle kept since) : reply.Idle after since :=
  fun command same => (idle command same).mono stays

def waitingIn (kept : Nat → Bool) (since : Nat) (parts : List (List Command)) (cell : Nat) : Prop :=
  ∃ part ∈ parts, AnyWaits kept since cell part

/-- The commands that the application keeps in its state wait for nothing. -/
def Remembers (memory : σ → List Command) (kept : Nat → Bool) (since : Nat) (state : σ) : Prop :=
  ∀ command ∈ memory state, command.Idle kept since

/-- Code that keeps apart what waits, from a moment on when the outcomes of some cells are kept. It
ends with `post` of the moment when it ends. The cells that are `owned` are those that it can know. -/
def Program.Discreet (memory : σ → List Command) (since : Nat) (owned : Nat → Prop) (frames : Frames)
    (post : (Nat → Bool) → α → Prop) : Program σ α → (Nat → Bool) → Prop
  | done value, kept => post kept value
  | call scopes command arguments _ next, kept =>
    Apart kept since owned ([command] :: arguments :: Scope.visible scopes frames) ∧
      ∀ after outcome, (∀ cell, kept cell = true → after cell = true) →
        command.Ran after →
        (∀ reply, outcome = .ok reply → reply.Idle after since) →
          (next outcome).Discreet memory since owned frames post after
  | line _ _ next, kept =>
    ∀ after outcome, (∀ cell, kept cell = true → after cell = true) →
      (∀ reply, outcome = .ok reply → reply.Idle after since) →
        (next outcome).Discreet memory since owned frames post after
  | look next, kept => ∀ bot context, bot.groups.Only (Command.Idle kept since) →
    context.frames = frames → (next bot context).Discreet memory since owned frames post kept
  | spend _ next, kept => ∀ enough, (next enough).Discreet memory since owned frames post kept
  | administrator next, kept => ∀ answer, (next answer).Discreet memory since owned frames post kept
  | draw _ _ next, kept => ∀ value, (next value).Discreet memory since owned frames post kept
  | addAlias _ _ next, kept => ∀ result, (next result).Discreet memory since owned frames post kept
  | removeAlias _ next, kept => ∀ result, (next result).Discreet memory since owned frames post kept
  | change update next, kept => ∀ state, Remembers memory kept since state →
    Remembers memory kept since (update state) ∧
      (next state).Discreet memory since owned frames post kept

/-- A value that is a reply waits for nothing. -/
def Value.Idle (kept : Nat → Bool) (since : Nat) (result : Except Failure Value) : Prop :=
  ∀ reply, result = .ok (.reply reply) → reply.Idle kept since

/-- The functions and the commands of the application are discreet from a moment on, on arguments that
keep apart from the frames around the call what waits. The arguments of a function run at most once
each. -/
structure Host.Discreet (memory : σ → List Command) (since : Nat) (host : Host σ) : Prop where
  native : ∀ index bindings kept arguments frames,
    Apart kept since (fun _ => True) (arguments :: frames) →
    (∀ argument ∈ arguments, ∃ cell inner, argument = .lazy cell inner) →
    (∀ given, .arguments given ∈ bindings → given = arguments) →
      (host.native index bindings).run.Discreet memory since
        (waitingIn kept since (arguments :: frames)) frames (Value.Idle · since) kept
  foreign : ∀ index code kinds kept arguments frames,
    host.foreign index = some code →
    Apart kept since (fun _ => True) (arguments :: frames) →
      (code arguments kinds).Discreet memory since (waitingIn kept since (arguments :: frames))
        frames (fun kept outcome => ∀ reply, outcome = .ok reply → reply.Idle kept since) kept

def Program.Stateless : Program σ α → Prop
  | done _ => True
  | call _ _ _ _ next => ∀ outcome, (next outcome).Stateless
  | line _ _ next => ∀ outcome, (next outcome).Stateless
  | look next => ∀ bot context, (next bot context).Stateless
  | spend _ next => ∀ enough, (next enough).Stateless
  | administrator next => ∀ answer, (next answer).Stateless
  | draw _ _ next => ∀ value, (next value).Stateless
  | addAlias _ _ next => ∀ result, (next result).Stateless
  | removeAlias _ next => ∀ result, (next result).Stateless
  | change _ _ => False

theorem idle_learned {kept : Nat → Bool} {since : Nat} {outcome : Outcome}
    (idle : ∀ reply, outcome = .ok reply → reply.Idle kept since) :
    ∀ command ∈ learned outcome, command.Idle kept since := by
  intro command inside
  unfold learned at inside
  split at inside
  · rw [List.mem_singleton] at inside
    subst inside
    exact idle _ rfl command rfl
  · cases inside

section Abiding

variable {memory : σ → List Command} {since : Nat} {owned : Nat → Prop} {arguments : List Command}
  {frames : Frames} {hands : Bool}

/-- The calls that the built-in code makes keep apart what waits. -/
theorem MayCall.apart {kept : Nat → Bool} {known : List Command} {scopes : List Scope}
    {command : Command} {given : List Command}
    (may : MayCall arguments frames hands known scopes command given)
    (apart : Apart kept since owned (arguments :: frames))
    (idle : ∀ command ∈ known, command.Idle kept since) :
    Apart kept since owned ([command] :: given :: Scope.visible scopes frames) := by
  cases may with
  | own among => exact apart.alone among
  | outer running among =>
    subst running
    exact apart.tail.alone among
  | handOn may answered among fewer =>
    exact (apart.subset among).idle (List.forall_mem_singleton.2 (idle _ answered))

/-- Code that abides by the rules of the built-in code and has no state is discreet. -/
theorem Program.discreet_of_abides {post : List Command → α → Prop} {program : Program σ α}
    {known : List Command} {kept : Nat → Bool}
    (abides : program.Abides arguments frames hands post known) (stateless : program.Stateless)
    (apart : Apart kept since owned (arguments :: frames))
    (idle : ∀ command ∈ known, command.Idle kept since) :
    program.Discreet memory since owned frames
      (fun kept value => ∃ known, post known value ∧ ∀ command ∈ known, command.Idle kept since)
      kept := by
  induction program generalizing known kept with
  | done value => exact ⟨known, abides, idle⟩
  | call scopes command given kinds next ih =>
    refine ⟨abides.1.apart apart idle, ?_⟩
    intro after outcome stays _ answered
    apply ih outcome (abides.2 outcome) (stateless outcome) (apart.mono stays)
    exact List.forall_mem_append.2
      ⟨idle_learned answered, fun command inside => (idle command inside).mono stays⟩
  | line text kinds next ih =>
    intro after outcome stays answered
    apply ih outcome (abides outcome) (stateless outcome) (apart.mono stays)
    exact List.forall_mem_append.2
      ⟨idle_learned answered, fun command inside => (idle command inside).mono stays⟩
  | look next ih =>
    intro bot context _ same
    exact ih bot context (abides bot context same) (stateless bot context) apart idle
  | spend tokens next ih =>
    exact fun enough => ih enough (abides enough) (stateless enough) apart idle
  | administrator next ih =>
    exact fun answer => ih answer (abides answer) (stateless answer) apart idle
  | draw low high next ih => exact fun value => ih value (abides value) (stateless value) apart idle
  | addAlias name text next ih =>
    exact fun result => ih result (abides result) (stateless result) apart idle
  | removeAlias name next ih =>
    exact fun result => ih result (abides result) (stateless result) apart idle
  | change update next ih => exact stateless.elim

end Abiding

theorem Program.Discreet.weaken {memory : σ → List Command} {since : Nat} {owned : Nat → Prop}
    {frames : Frames} {strong weak : (Nat → Bool) → α → Prop}
    (implies : ∀ kept value, strong kept value → weak kept value) {program : Program σ α}
    {kept : Nat → Bool} (discreet : program.Discreet memory since owned frames strong kept) :
    program.Discreet memory since owned frames weak kept := by
  induction program generalizing kept with
  | done value => exact implies kept value discreet
  | call scopes command given kinds next ih =>
    exact ⟨discreet.1, fun after outcome stays ran answered =>
      ih outcome (discreet.2 after outcome stays ran answered)⟩
  | line text kinds next ih =>
    exact fun after outcome stays answered => ih outcome (discreet after outcome stays answered)
  | look next ih => exact fun bot context only same => ih bot context (discreet bot context only same)
  | spend tokens next ih => exact fun enough => ih enough (discreet enough)
  | administrator next ih => exact fun answer => ih answer (discreet answer)
  | draw low high next ih => exact fun value => ih value (discreet value)
  | addAlias name text next ih => exact fun result => ih result (discreet result)
  | removeAlias name next ih => exact fun result => ih result (discreet result)
  | change update next ih =>
    exact fun state remembers =>
      ⟨(discreet state remembers).1, ih state (discreet state remembers).2⟩

theorem Program.stateless_bind {program : Program σ α} {next : α → Program σ β}
    (stateless : program.Stateless) (rest : ∀ value, (next value).Stateless) :
    (program.bind next).Stateless := by
  induction program with
  | done value => exact rest value
  | call scopes command given kinds after ih => exact fun outcome => ih outcome (stateless outcome)
  | line text kinds after ih => exact fun outcome => ih outcome (stateless outcome)
  | look after ih => exact fun bot context => ih bot context (stateless bot context)
  | spend tokens after ih => exact fun enough => ih enough (stateless enough)
  | administrator after ih => exact fun answer => ih answer (stateless answer)
  | draw low high after ih => exact fun value => ih value (stateless value)
  | addAlias name text after ih => exact fun result => ih result (stateless result)
  | removeAlias name after ih => exact fun result => ih result (stateless result)
  | change update after ih => exact stateless.elim

namespace Native

def Stateless (native : Native σ α) : Prop :=
  native.run.Stateless

theorem stateless_ofExcept (result : Except CommandError α) :
    (ofExcept result : Native σ α).Stateless := by
  cases result <;> trivial

theorem closed_stateless : Closed fun {α : Type} (native : Native σ α) => native.Stateless where
  ofExcept := stateless_ofExcept
  bind := by
    intro α β native next first rest
    apply Program.stateless_bind first
    intro result
    cases result with
    | error failure => trivial
    | ok value => exact rest value
  discard := by
    intro α native stateless
    apply Program.stateless_bind stateless
    intro result
    cases result <;> trivial
  callWithin := fun _ _ _ _ _ => stateless_ofExcept _
  callLine := fun _ _ _ => stateless_ofExcept _
  bot := fun _ _ => trivial
  context := fun _ _ => trivial
  draw := fun _ _ _ => trivial
  addAlias := fun _ _ _ => stateless_ofExcept _
  removeAlias := fun _ _ => stateless_ofExcept _

end Native

/-- No built-in command looks at the state of the application. -/
theorem Builtin.stateless_native (builtin : Builtin) (bindings : Bindings) :
    (builtin.native bindings : Native σ Value).Stateless :=
  Native.closed_stateless.builtin builtin bindings

section Code

variable {memory : σ → List Command} {since : Nat} {kept : Nat → Bool} {arguments : List Command}
  {frames : Frames} {bindings : Bindings}

theorem Apart.waitingIn {owned : Nat → Prop} {parts : List (List Command)}
    (apart : Apart kept since owned parts) : Apart kept since (waitingIn kept since parts) parts :=
  ⟨apart.sound, apart.disjoint, fun part inside _ waits => ⟨part, inside, waits⟩⟩

/-- Code that abides by the rules of the built-in code and has no state is discreet. -/
theorem Native.discreet_of_abides {native : Native σ Value} {hands : Bool}
    (abides : native.Abides arguments frames hands [] Value.Known) (stateless : native.Stateless)
    (apart : Apart kept since (fun _ => True) (arguments :: frames)) :
    native.run.Discreet memory since (waitingIn kept since (arguments :: frames)) frames
      (Value.Idle · since) kept := by
  apply (Program.discreet_of_abides abides stateless apart.waitingIn (List.forall_mem_nil _)).weaken
  rintro kept result ⟨known, holds, idle⟩ reply same command answered
  exact idle command (holds _ same reply rfl command answered)

/-- The built-in code is discreet. -/
theorem Builtin.discreet_native (builtin : Builtin)
    (apart : Apart kept since (fun _ => True) (arguments :: frames))
    (own : ∀ given, Binding.arguments given ∈ bindings → given = arguments) :
    (builtin.native bindings : Native σ Value).run.Discreet memory since
      (waitingIn kept since (arguments :: frames)) frames (Value.Idle · since) kept :=
  Native.discreet_of_abides (builtin.native_abides own fun _ => rfl)
    (builtin.stateless_native bindings) apart

/-- The code of every function is discreet if that of the application is. -/
theorem Host.Discreet.codeOf {host : Host σ} (discreet : host.Discreet memory since) (code : Code)
    (apart : Apart kept since (fun _ => True) (arguments :: frames))
    (shared : ∀ argument ∈ arguments, ∃ cell inner, argument = .lazy cell inner)
    (own : ∀ given, Binding.arguments given ∈ bindings → given = arguments) :
    (host.codeOf code bindings).run.Discreet memory since
      (waitingIn kept since (arguments :: frames)) frames (Value.Idle · since) kept := by
  cases code with
  | builtin builtin => exact builtin.discreet_native apart own
  | host index => exact discreet.native index bindings kept arguments frames apart shared own

end Code

end ChatLine
