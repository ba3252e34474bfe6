import ChatLine.Proofs.Sharing.Discreet

set_option autoImplicit false

namespace ChatLine

variable {σ α : Type}

/-- A command made of some others, and of such that wait for nothing, by giving arguments to them. -/
inductive Command.MadeOf (kept : Nat → Bool) (since : Nat) (parts : List Command) : Command → Prop
  | part {command : Command} (among : command ∈ parts) : MadeOf kept since parts command
  | idle {command : Command} (idle : command.Idle kept since) : MadeOf kept since parts command
  | applied {callee : Command} {bound : List Command} (made : MadeOf kept since parts callee)
    (given : ∀ command ∈ bound, MadeOf kept since parts command) :
    MadeOf kept since parts (.applied callee bound)

/-- Code that calls only commands made of its `own`, inside the frames it runs in, and commands made
of those that the innermost frame has, inside the others. It ends with `post` of what is kept then. -/
def Program.Local (memory : σ → List Command) (since : Nat) (own framed : List Command)
    (frames : Frames) (post : (Nat → Bool) → α → Prop) : Program σ α → (Nat → Bool) → Prop
  | done value, kept => post kept value
  | call scopes command arguments _ next, kept =>
    (scopes = [] ∧ (∀ part ∈ command :: arguments, part.MadeOf kept since own) ∨
        scopes = [.outer] ∧ ∀ part ∈ command :: arguments, part.MadeOf kept since framed) ∧
      ∀ after outcome, (∀ cell, kept cell = true → after cell = true) → command.Ran after →
        (∀ reply, outcome = .ok reply → reply.Idle after since) →
          (next outcome).Local memory since own framed frames post after
  | line _ _ next, kept =>
    ∀ after outcome, (∀ cell, kept cell = true → after cell = true) →
      (∀ reply, outcome = .ok reply → reply.Idle after since) →
        (next outcome).Local memory since own framed frames post after
  | look next, kept => ∀ bot context, bot.groups.Only (Command.Idle kept since) →
    context.frames = frames → (next bot context).Local memory since own framed frames post kept
  | spend _ next, kept => ∀ enough, (next enough).Local memory since own framed frames post kept
  | administrator next, kept =>
    ∀ answer, (next answer).Local memory since own framed frames post kept
  | draw _ _ next, kept => ∀ value, (next value).Local memory since own framed frames post kept
  | addAlias _ _ next, kept =>
    ∀ result, (next result).Local memory since own framed frames post kept
  | removeAlias _ next, kept =>
    ∀ result, (next result).Local memory since own framed frames post kept
  | change update next, kept => ∀ state, Remembers memory kept since state →
    Remembers memory kept since (update state) ∧
      (next state).Local memory since own framed frames post kept

/-- The functions and the commands of the application are local from a moment on: they call commands
made of their own arguments and of what waits for nothing, and change no frames; what they hand out
and remember waits for nothing. -/
structure Host.Local (memory : σ → List Command) (since : Nat) (host : Host σ) : Prop where
  native : ∀ index bindings kept arguments frames,
    (∀ argument ∈ arguments, ∃ cell inner, argument = .lazy cell inner) →
    (∀ given, .arguments given ∈ bindings → given = arguments) →
      (host.native index bindings).run.Local memory since arguments [] frames
        (Value.Idle · since) kept
  foreign : ∀ index code kinds kept arguments frames, host.foreign index = some code →
    (code arguments kinds).Local memory since arguments [] frames
      (fun kept outcome => ∀ reply, outcome = .ok reply → reply.Idle kept since) kept

section Code

variable {memory : σ → List Command} {since : Nat} {own framed : List Command} {frames : Frames}

theorem Command.MadeOf.weaken {kept : Nat → Bool} {parts more : List Command} {command : Command}
    (made : command.MadeOf kept since parts) (fewer : ∀ part ∈ parts, part ∈ more) :
    command.MadeOf kept since more := by
  induction made with
  | part among => exact .part (fewer _ among)
  | idle idle => exact .idle idle
  | applied _ _ callee bound => exact .applied callee bound

theorem Program.Local.weaken {more : List Command} {strong weak : (Nat → Bool) → α → Prop}
    (implies : ∀ kept value, strong kept value → weak kept value)
    (fewer : ∀ command ∈ framed, command ∈ more) {program : Program σ α} {kept : Nat → Bool}
    (isLocal : program.Local memory since own framed frames strong kept) :
    program.Local memory since own more frames weak kept := by
  induction program generalizing kept with
  | done value => exact implies kept value isLocal
  | call scopes command given kinds next ih =>
    refine ⟨isLocal.1.imp_right fun outer => ⟨outer.1, fun part inside =>
      (outer.2 part inside).weaken fewer⟩, ?_⟩
    exact fun after outcome stays ran answered =>
      ih outcome (isLocal.2 after outcome stays ran answered)
  | line text kinds next ih =>
    exact fun after outcome stays answered => ih outcome (isLocal after outcome stays answered)
  | look next ih => exact fun bot context only same => ih bot context (isLocal bot context only same)
  | spend tokens next ih => exact fun enough => ih enough (isLocal enough)
  | administrator next ih => exact fun answer => ih answer (isLocal answer)
  | draw low high next ih => exact fun value => ih value (isLocal value)
  | addAlias name text next ih => exact fun result => ih result (isLocal result)
  | removeAlias name next ih => exact fun result => ih result (isLocal result)
  | change update next ih =>
    exact fun state remembers => ⟨(isLocal state remembers).1, ih state (isLocal state remembers).2⟩

variable {arguments : List Command} {hands : Bool}

/-- The calls that the built-in code makes are of its arguments and of those of the running line. -/
theorem MayCall.made {kept : Nat → Bool} {known : List Command} {scopes : List Scope}
    {command : Command} {given : List Command}
    (may : MayCall arguments frames hands known scopes command given)
    (idle : ∀ command ∈ known, command.Idle kept since) :
    scopes = [] ∧ (∀ part ∈ command :: given, part.MadeOf kept since arguments) ∨
      scopes = [.outer] ∧ ∀ part ∈ command :: given, part.MadeOf kept since (frames.headD []) := by
  cases may with
  | own among => exact .inl ⟨rfl, List.forall_mem_singleton.2 (.part among)⟩
  | outer running among =>
    subst running
    exact .inr ⟨rfl, List.forall_mem_singleton.2 (.part among)⟩
  | handOn may answered among fewer =>
    refine .inl ⟨rfl, List.forall_mem_cons.2 ⟨.idle (idle _ answered), ?_⟩⟩
    exact fun argument inside => .part (among argument inside)

/-- Code that abides by the rules of the built-in code and has no state is local. -/
theorem Program.local_of_abides {post : List Command → α → Prop} {program : Program σ α}
    {known : List Command} {kept : Nat → Bool}
    (abides : program.Abides arguments frames hands post known) (stateless : program.Stateless)
    (idle : ∀ command ∈ known, command.Idle kept since) :
    program.Local memory since arguments (frames.headD []) frames
      (fun kept value => ∃ known, post known value ∧ ∀ command ∈ known, command.Idle kept since)
      kept := by
  induction program generalizing known kept with
  | done value => exact ⟨known, abides, idle⟩
  | call scopes command handed kinds next ih =>
    refine ⟨abides.1.made idle, ?_⟩
    intro after outcome stays _ answered
    apply ih outcome (abides.2 outcome) (stateless outcome)
    exact List.forall_mem_append.2
      ⟨idle_learned answered, fun command inside => (idle command inside).mono stays⟩
  | line text kinds next ih =>
    intro after outcome stays answered
    apply ih outcome (abides outcome) (stateless outcome)
    exact List.forall_mem_append.2
      ⟨idle_learned answered, fun command inside => (idle command inside).mono stays⟩
  | look next ih =>
    intro bot context _ running
    exact ih bot context (abides bot context running) (stateless bot context) idle
  | spend tokens next ih => exact fun enough => ih enough (abides enough) (stateless enough) idle
  | administrator next ih =>
    exact fun answer => ih answer (abides answer) (stateless answer) idle
  | draw low high next ih => exact fun value => ih value (abides value) (stateless value) idle
  | addAlias name text next ih =>
    exact fun result => ih result (abides result) (stateless result) idle
  | removeAlias name next ih =>
    exact fun result => ih result (abides result) (stateless result) idle
  | change update next ih => exact stateless.elim

variable {kept : Nat → Bool} {bindings : Bindings}

/-- The code of every function is local if that of the application is. -/
theorem Host.Local.codeOf {host : Host σ} (isLocal : host.Local memory since) (code : Code)
    (shared : ∀ argument ∈ arguments, ∃ cell inner, argument = .lazy cell inner)
    (given : ∀ given, Binding.arguments given ∈ bindings → given = arguments) :
    (host.codeOf code bindings).run.Local memory since arguments (frames.headD []) frames
      (Value.Idle · since) kept := by
  cases code with
  | host index =>
    exact (isLocal.native index bindings kept arguments frames shared given).weaken
      (fun _ _ idle => idle) (List.forall_mem_nil _)
  | builtin builtin =>
    have abides : (builtin.native bindings : Native σ Value).Abides arguments frames true []
        Value.Known := builtin.native_abides given fun _ => rfl
    refine (Program.local_of_abides abides (builtin.stateless_native bindings)
      (List.forall_mem_nil _)).weaken ?_ fun _ inside => inside
    rintro kept result ⟨known, holds, idle⟩ reply same command answered
    exact idle command (holds _ same reply rfl command answered)

end Code

theorem Host.local_none (memory : Unit → List Command) (since : Nat) :
    Host.none.Local memory since where
  native := by
    intro index bindings kept arguments frames _ _ reply same
    cases same
  foreign := by
    intro index code kinds kept arguments frames found
    cases found

end ChatLine
