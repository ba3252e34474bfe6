import ChatLine.Evaluate
import ChatLine.Proofs.Termination.Code
import ChatLine.Proofs.Termination.Ends

set_option autoImplicit false

namespace ChatLine

variable {σ α : Type}

/-- A reply that is a command is settled. -/
def Reply.Settled (kept : Nat → Bool) (reply : Reply) : Prop :=
  ∀ command, reply = .command command → command.Settled kept

theorem Reply.Settled.mono {kept later : Nat → Bool}
    (stays : ∀ cell, kept cell = true → later cell = true) {reply : Reply}
    (settled : reply.Settled kept) : reply.Settled later :=
  fun command same => (settled command same).mono stays

namespace Evaluate

/-- A call in a world is answered with a settled reply, and a command that runs at most once has run
by then. -/
def Answered (command : Command) (world : World σ) (reply : Reply) (after : World σ) : Prop :=
  reply.Settled after.isKept ∧ ∀ cell inner, command = .lazy cell inner →
    cell < world.cells.size → after.isKept cell = true

/-- Calls end that have fewer tokens, or as many and less work to make. -/
def CallsEnd (call : Nat → Caller σ) (tokens bound : Nat) : Prop :=
  ∀ command arguments kinds (world : World σ), command.Ordinary → Command.AllOrdinary arguments →
    world.Tame →
      (world.tokens < tokens ∨ world.tokens ≤ tokens ∧ world.work command arguments < bound) →
        Eval.Ends (fun depth => call depth command arguments kinds) world (Answered command world)

/-- The texts that are run as command lines come to an end. -/
def LinesEnd (line : Nat → LineCaller σ) : Prop :=
  ∀ text kinds (world : World σ), world.Tame →
    Eval.Ends (fun depth => line depth text kinds) world fun reply after =>
      reply.Settled after.isKept

/-- A world in which code on some arguments can make its calls. -/
structure Affords (world : World σ) (tokens bound : Nat) (arguments : List Command) (hands : Bool) :
    Prop where
  tame : world.Tame
  spent : world.tokens ≤ tokens
  ordinary : Command.AllOrdinary arguments
  peak : Command.peakOf world.isKept arguments + world.standing < bound
  handOn : hands = true →
    max 1 (Command.peakOf world.isKept arguments) + 5 * arguments.length + world.standing < bound

variable {world after : World σ} {tokens bound : Nat} {arguments : List Command} {hands : Bool}

theorem Affords.later (affords : Affords world tokens bound arguments hands)
    (later : world.Later after) : Affords after tokens bound arguments hands := by
  have peaks := later.peakOf_le arguments
  have stands := later.standing_le
  refine ⟨later.tame, Nat.le_trans later.tokens affords.spent, affords.ordinary, ?_, ?_⟩
  · have before := affords.peak
    omega
  · intro may
    have before := affords.handOn may
    omega

theorem tame_pop (tame : world.Tame) :
    ({ world with context := world.context.pop } : World σ).Tame :=
  ⟨tame.limited, fun frame inside => tame.frames frame (List.mem_of_mem_tail inside), tame.kept,
    tame.tree⟩

theorem work_alone (world : World σ) (command : Command) :
    world.work command [] = command.cost world.isKept 0 0 + world.standing := rfl

/-- A call with little enough work comes to an end, and its reply is settled. -/
theorem CallsEnd.settled {call : Nat → Caller σ} (calls : CallsEnd call tokens bound)
    {command : Command} (ordinary : command.Ordinary)
    (ordinaryArguments : Command.AllOrdinary arguments) (tame : world.Tame)
    (spent : world.tokens ≤ tokens) (less : world.work command arguments < bound)
    (kinds : List Kind) :
    Eval.Ends (fun depth => call depth command arguments kinds) world
      fun reply after => reply.Settled after.isKept := by
  have ended := calls command arguments kinds world ordinary ordinaryArguments tame
    (.inr ⟨spent, less⟩)
  apply ended.weaken
  intro reply after later answered
  exact answered.1

/-- The calls that code may make come to an end. -/
theorem mayCall_ends {call : Nat → Caller σ} (calls : CallsEnd call tokens bound)
    (affords : Affords world tokens bound arguments hands) {known : List Command}
    (settled : ∀ command ∈ known, command.Settled world.isKept) {scopes : List Scope}
    {command : Command} {given : List Command}
    (may : MayCall arguments world.context.frames hands known scopes command given)
    (kinds : List Kind) :
    Eval.Ends (fun depth => Eval.inScopes scopes (call depth command given kinds)) world
      fun reply after => reply.Settled after.isKept := by
  cases may with
  | own among =>
    have cheap := Command.cost_le_peakOf world.isKept among
    have affordable := affords.peak
    have ordinary := Command.allOrdinary_iff.1 affords.ordinary _ among
    have less : world.work command [] < bound := by
      rw [work_alone]
      omega
    exact calls.settled ordinary Command.allOrdinary_nil affords.tame affords.spent less kinds
  | outer running among =>
    rename_i frame rest
    have ordinary := affords.tame.frames frame (by rw [running]; exact List.mem_cons_self)
    have cheap := Command.cost_le_peakOf world.isKept among
    have stands : world.standing =
        Command.peakOf world.isKept frame + Command.standing world.isKept rest := by
      unfold World.standing
      rw [running]
      rfl
    have popped : ({ world with context := world.context.pop } : World σ).standing =
        Command.standing world.isKept rest := by
      unfold World.standing
      simp only [Context.pop, running, List.tail_cons]
      rfl
    have affordable := affords.peak
    have less :
        ({ world with context := world.context.pop } : World σ).work command [] < bound := by
      rw [work_alone, popped]
      show command.cost world.isKept 0 0 + _ < bound
      omega
    have ended := calls.settled (Command.allOrdinary_iff.1 ordinary _ among)
      Command.allOrdinary_nil (tame_pop affords.tame) affords.spent less kinds
    exact Eval.Ends.outer (fun (reply : Reply) kept => reply.Settled kept) affords.tame
      running ended
  | handOn mayHand answered among fewer =>
    have affordable := affords.handOn mayHand
    have ordinary := Command.allOrdinary_iff.1 affords.ordinary
    have peaks : Command.peakOf world.isKept given ≤ Command.peakOf world.isKept arguments :=
      Command.peakOf_le fun argument inside =>
        Command.cost_le_peakOf world.isKept (among argument inside)
    have cheap := (settled command answered).cost_le given.length
      (Command.peakOf world.isKept given)
    have less : world.work command given < bound := by
      unfold World.work
      omega
    have ordinaryGiven : Command.AllOrdinary given :=
      Command.allOrdinary_iff.2 fun argument inside => ordinary argument (among argument inside)
    exact calls.settled (settled command answered).ordinary ordinaryGiven affords.tame
      affords.spent less kinds

theorem settled_learned {kept : Nat → Bool} {outcome : Outcome}
    (settled : ∀ reply, outcome = .ok reply → reply.Settled kept) :
    ∀ command ∈ learned outcome, command.Settled kept := by
  intro command inside
  unfold learned at inside
  split at inside
  · rw [List.mem_singleton] at inside
    subst inside
    exact settled _ rfl command rfl
  · cases inside

/-- What code knows stays settled when it learns the command of a reply. -/
theorem settled_more {outcome : Except CommandError Reply} {before after : Nat → Bool}
    {known : List Command} (replies : ∀ reply, outcome = .ok reply → reply.Settled after)
    (settled : ∀ command ∈ known, command.Settled before)
    (stays : ∀ cell, before cell = true → after cell = true) :
    ∀ command ∈ learned outcome ++ known, command.Settled after := by
  intro command inside
  rcases List.mem_append.1 inside with new | old
  · exact settled_learned replies command new
  · exact (settled command old).mono stays

/-- Code comes to an end, and knows no commands then but settled ones. -/
theorem program_ends {call : Nat → Caller σ} {line : Nat → LineCaller σ}
    (calls : CallsEnd call tokens bound) (lines : LinesEnd line) {frames : Frames}
    {post : List Command → α → Prop} (program : Program σ α) {known : List Command}
    (affords : Affords world tokens bound arguments hands) (running : world.context.frames = frames)
    (settled : ∀ command ∈ known, command.Settled world.isKept)
    (abides : program.Abides arguments frames hands post known) :
    Eval.Ends (fun depth => program.run (call depth) (line depth)) world fun value after =>
      ∃ known, post known value ∧ ∀ command ∈ known, command.Settled after.isKept := by
  induction program generalizing world known with
  | done value => exact Eval.ends_pure affords.tame ⟨known, abides, settled⟩
  | call scopes command given kinds next ih =>
    have may := abides.1
    rw [← running] at may
    apply (mayCall_ends calls affords settled may kinds).outcome.bind
    intro outcome after later replies
    exact ih outcome (affords.later later) (later.frames.trans running)
      (settled_more replies settled later.stays) (abides.2 outcome)
  | line text kinds next ih =>
    apply (lines text kinds world affords.tame).outcome.bind
    intro outcome after later replies
    exact ih outcome (affords.later later) (later.frames.trans running)
      (settled_more replies settled later.stays) (abides outcome)
  | look next ih =>
    apply Eval.ends_after rfl affords.tame.later
    exact ih _ _ affords running settled (abides _ _ running)
  | spend count next ih =>
    apply Eval.ends_after rfl affords.tame.later
    cases taken : world.context.budget.take? count with
    | none => exact ih false affords running settled (abides false)
    | some budget =>
      have later := (affords.tame.spend taken).1
      exact Eval.ends_after rfl later (ih true (affords.later later) running settled (abides true))
  | administrator next ih =>
    have later : world.Later { world with
        context := { world.context with administrator := world.context.administrator.ask.2 } } :=
      affords.tame.later_of_same rfl rfl rfl rfl
    refine Eval.ends_after rfl affords.tame.later (Eval.ends_after rfl later ?_)
    exact ih _ (affords.later later) running settled (abides _)
  | draw low high next ih =>
    have later (generator : Generator) : world.Later { world with generator := generator } :=
      affords.tame.later_of_same rfl rfl rfl rfl
    simp only [Program.run]
    apply Eval.ends_after (Eval.run_get world) affords.tame.later
    generalize world.generator.draw low high = drawn
    obtain ⟨value, generator⟩ := drawn
    apply Eval.ends_after rfl (later generator)
    exact ih value (affords.later (later generator)) running settled (abides value)
  | addAlias name text next ih =>
    have later := affords.tame.later_of_bot (Bot.only_addAlias affords.tame.tree name text
      fun _ => Command.placed_ofLine)
    apply Eval.ends_after (Eval.run_update _ world) later
    exact ih _ (affords.later later) running settled (abides _)
  | removeAlias name next ih =>
    have later := affords.tame.later_of_bot (Bot.only_removeAlias affords.tame.tree name)
    apply Eval.ends_after (Eval.run_update _ world) later
    exact ih _ (affords.later later) running settled (abides _)
  | change update next ih =>
    have later : world.Later { world with application := update world.application } :=
      affords.tame.later_of_same rfl rfl rfl rfl
    refine Eval.ends_after rfl affords.tame.later (Eval.ends_after rfl later ?_)
    exact ih _ (affords.later later) running settled (abides _)

end Evaluate

end ChatLine
