import ChatLine.Proofs.Asking.Widening
import ChatLine.Proofs.Calls.EmptyName
import Mathlib.Logic.Relation

set_option autoImplicit false

namespace ChatLine

variable {σ : Type}

/-- A call that is to be made. -/
structure Goal (σ : Type) where
  depth : Nat
  world : World σ
  command : Command
  arguments : List Command

/-- The code that a call of the command runs at once does not look at the kinds that are asked for. -/
def Command.IgnoresKinds (host : Host σ) : Command → Prop
  | .function f => f.IgnoresKinds host
  | .documented command => command.function.IgnoresKinds host
  | .overloads set => ∀ f ∈ set.functions, f.IgnoresKinds host
  | .foreign _ index => ∀ code, host.foreign index = some code → ∀ arguments kinds others,
      code arguments kinds = code arguments others
  | _ => True

namespace Goal

variable {host : Host σ} {goal next reached : Goal σ} {kinds : List Kind} {reply : Reply}
  {after : World σ}

def run (host : Host σ) (goal : Goal σ) (kinds : List Kind) : Option (Outcome × World σ) :=
  (Evaluate.run host goal.depth goal.command goal.arguments kinds).run.run goal.world

/-- The answer to the one call is that to the other, whatever kinds are asked for. -/
inductive HandsOn (host : Host σ) : Goal σ → Goal σ → Prop
  | applied (depth : Nat) (world : World σ) (callee : Command) (bound arguments : List Command) :
      HandsOn host ⟨depth + 1, world, .applied callee bound, arguments⟩
        ⟨depth, world, callee, bound ++ arguments⟩
  | stored {world : World σ} {budget : Budget} (paid : world.context.budget.take? 1 = some budget)
      (depth : Nat) (text : String) (body : Command) (arguments : List Command) :
      HandsOn host ⟨depth + 1, world, .stored text body, arguments⟩
        ⟨depth, world.enter budget text arguments, body, []⟩
  | lazy {world : World σ} {cell : Nat} (unsettled : world.kept? cell = none) (depth : Nat)
      (inner : Command) (arguments : List Command) :
      HandsOn host ⟨depth + 1, world, .lazy cell inner, arguments⟩
        ⟨depth, world.record (.evaluated cell world.context.frames), inner, arguments⟩
  | child {depth id : Nat} {world after : World σ} {first : Command} {name full : String}
      {node : Node}
      (named : (Eval.text (Evaluate.run host depth) first).run.run world = some (.ok name, after))
      (found : (after.bot.groups.children id).resolve name = .ok (full, node))
      (rest : List Command) :
      HandsOn host ⟨depth + 1, world, .group id, first :: rest⟩ ⟨depth, after, node.command, rest⟩
  | entry {depth : Nat} {world after : World σ} {first : Command} {name full : String} {node : Node}
      (named : (Evaluate.run host depth first [] Kind.commandOrText).run.run world =
        some (.ok (.text name), after))
      (found : (after.bot.groups.children Groups.topId).resolve name = .ok (full, node))
      (rest : List Command) :
      HandsOn host ⟨depth + 1, world, .root, first :: rest⟩ ⟨depth, after, node.command, rest⟩
  | given {depth : Nat} {world after : World σ} {first command : Command}
      (answers : (Evaluate.run host depth first [] Kind.commandOrText).run.run world =
        some (.ok (.command command), after))
      (rest : List Command) :
      HandsOn host ⟨depth + 1, world, .root, first :: rest⟩ ⟨depth, after, command, rest⟩

/-- A group, or the entry of the tree, is called without arguments. -/
inductive Alone : Goal σ → Nat → Prop
  | group (depth : Nat) (world : World σ) (id : Nat) : Alone ⟨depth + 1, world, .group id, []⟩ id
  | root (depth : Nat) (world : World σ) : Alone ⟨depth + 1, world, .root, []⟩ Groups.topId

/-- Overloads are called of which one, that fails before any answers, would answer with a command if
asked for one last. -/
inductive Displaced (host : Host σ) (kinds : List Kind) : Goal σ → Prop
  | overloads {depth : Nat} {world : World σ} {set : Overloads} {arguments : List Command}
      (among : Evaluate.Displaces (Evaluate.run host depth)
        (Command.sharedFrom world.cells.size arguments) kinds (world.grow arguments.length)
        set.functions) :
      Displaced host kinds ⟨depth + 1, world, .overloads set, arguments⟩

/-- What is answered to one who asks for a command last: the reply again, in the same world but for
the journal, or the group itself, if the call comes to a group without arguments. -/
def StillAnswers (host : Host σ) (kinds : List Kind) (goal : Goal σ) (reply : Reply)
    (after : World σ) : Prop :=
  (∃ journal, goal.run host (kinds ++ [.command]) =
      some (.ok reply, { after with journal := journal })) ∨
    ∃ id later reached,
      goal.run host (kinds ++ [.command]) = some (.ok (.command (.group id)), later) ∧
        Relation.ReflTransGen (HandsOn host) goal reached ∧ reached.Alone id

/-- What runs commands one after the other, whatever they answer, runs the command of the goal and goes
on with the others where that leaves the world, up to the journal. -/
def RunsInTurn (host : Host σ) (goal : Goal σ) (after : World σ) : Prop :=
  ∀ line rest, ∃ journal,
    ((Builtin.RunAll.run (goal.command :: rest)).runWith (Evaluate.run host goal.depth)
        line).run.run goal.world =
      ((Builtin.RunAll.run rest).runWith (Evaluate.run host goal.depth) line).run.run
        { after with journal := journal }

/-- Only a command that runs at most once looks again whether a reply is of a kind asked for. -/
def Passes (goal : Goal σ) (reply : Reply) (kinds : List Kind) : Prop :=
  match goal.command with
  | .lazy _ _ => reply.fits kinds
  | _ => True

/-- How the call leaves the world when another one has answered for it. -/
def leave (goal : Goal σ) (reply : Reply) (world : World σ) : World σ :=
  match goal.command with
  | .stored _ _ => { world with context := world.context.pop }
  | .lazy cell _ => world.keep cell (.ok reply)
  | _ => world

theorem leave_journal (goal : Goal σ) (reply : Reply) (world : World σ) (journal : List Event) :
    goal.leave reply { world with journal := journal } =
      { goal.leave reply world with journal := journal } := by
  unfold leave
  split <;> rfl

theorem Passes.widen (passes : goal.Passes reply kinds) :
    goal.Passes reply (kinds ++ [.command]) := by
  unfold Passes at passes ⊢
  split at passes
  · exact Reply.fits_append passes _
  · trivial

theorem passes_command (goal : Goal σ) (command : Command) (kinds : List Kind) :
    goal.Passes (.command command) (kinds ++ [.command]) := by
  unfold Passes
  split
  · exact (Reply.fits_iff _ _).2 (List.mem_append_right _ (List.mem_singleton.2 rfl))
  · trivial

/-- Nothing is recorded of a call that answers. -/
theorem run_succ_eq_ok_iff {depth : Nat} {world : World σ} {command : Command}
    {arguments : List Command} :
    (⟨depth + 1, world, command, arguments⟩ : Goal σ).run host kinds = some (.ok reply, after) ↔
      (Evaluate.step host (Evaluate.run host depth)
        (Evaluate.callLine (Evaluate.run host depth)) command arguments kinds).run.run world =
          some (.ok reply, after) := by
  show (Eval.recorded _).run.run world = _ ↔ _
  rw [Eval.run_recorded]
  generalize (Evaluate.step host _ _ command arguments kinds).run.run world = made
  constructor
  · intro ends
    obtain ⟨⟨outcome, left⟩, found, same⟩ := Option.map_eq_some_iff.1 ends
    cases same
    exact found
  · rintro rfl
    rfl

theorem HandsOn.run_eq_ok_iff (handed : HandsOn host goal next) (kinds : List Kind) (reply : Reply)
    (after : World σ) :
    goal.run host kinds = some (.ok reply, after) ↔
      goal.Passes reply kinds ∧
        ∃ middle, next.run host kinds = some (.ok reply, middle) ∧
          goal.leave reply middle = after := by
  cases handed with
  | applied depth world callee bound arguments =>
    rw [run_succ_eq_ok_iff]
    simp only [Passes, leave, true_and, exists_eq_right]
    rfl
  | stored paid depth text body arguments =>
    rw [run_succ_eq_ok_iff, Evaluate.step, Evaluate.run_callStored paid]
    simp only [Passes, leave, true_and]
    constructor
    · intro runs
      obtain ⟨⟨outcome, middle⟩, inside, same⟩ := Option.map_eq_some_iff.1 runs
      cases same
      exact ⟨middle, inside, rfl⟩
    · rintro ⟨middle, inside, rfl⟩
      exact Option.map_eq_some_iff.2 ⟨_, inside, rfl⟩
  | lazy unsettled depth inner arguments =>
    rw [run_succ_eq_ok_iff, Evaluate.step, Evaluate.run_callLazy, unsettled]
    simp only [Passes, leave]
    constructor
    · intro runs
      obtain ⟨⟨outcome, middle⟩, inside, same⟩ := Option.map_eq_some_iff.1 runs
      rw [Prod.mk.injEq, Evaluate.replay_eq_ok_iff] at same
      obtain ⟨⟨rfl, fits⟩, rfl⟩ := same
      exact ⟨fits, middle, inside, rfl⟩
    · rintro ⟨fits, middle, inside, rfl⟩
      refine Option.map_eq_some_iff.2 ⟨_, inside, ?_⟩
      rw [Prod.mk.injEq, Evaluate.replay_eq_ok_iff]
      exact ⟨⟨rfl, fits⟩, rfl⟩
  | child named found rest =>
    rw [run_succ_eq_ok_iff, Evaluate.step, Evaluate.callGroup, Eval.run_bind, named]
    simp only [Passes, leave, true_and, exists_eq_right, Evaluate.run_dispatch_of_resolve found]
    rfl
  | entry named found rest =>
    rw [run_succ_eq_ok_iff, Evaluate.step, Evaluate.callRoot, Eval.run_bind, named]
    simp only [Passes, leave, true_and, exists_eq_right, Evaluate.run_dispatch_of_resolve found]
    rfl
  | given answers rest =>
    rw [run_succ_eq_ok_iff, Evaluate.step, Evaluate.callRoot, Eval.run_bind, answers]
    simp only [Passes, leave, true_and, exists_eq_right]
    rfl

/-- If the call that another one hands on to still answers, so does that one. -/
theorem HandsOn.stillAnswers (handed : HandsOn host goal next)
    (runs : goal.run host kinds = some (.ok reply, after))
    (inside : ∀ middle, next.run host kinds = some (.ok reply, middle) →
      next.StillAnswers host kinds reply middle) :
    goal.StillAnswers host kinds reply after := by
  obtain ⟨passes, middle, answered, rfl⟩ := (handed.run_eq_ok_iff kinds reply after).1 runs
  rcases inside middle answered with
    ⟨journal, still⟩ | ⟨id, later, reached, answers, on, there⟩
  · refine .inl ⟨journal, ?_⟩
    rw [handed.run_eq_ok_iff, ← leave_journal]
    exact ⟨passes.widen, _, still, rfl⟩
  · refine .inr ⟨id, goal.leave (.command (.group id)) later, reached, ?_, .head handed on, there⟩
    rw [handed.run_eq_ok_iff]
    exact ⟨goal.passes_command (.group id) kinds, later, answers, rfl⟩

section Final

variable {depth : Nat} {world : World σ} {command : Command} {arguments : List Command}

theorem stillAnswers_of_widens
    (widens : (Evaluate.step host (Evaluate.run host depth)
      (Evaluate.callLine (Evaluate.run host depth)) command arguments kinds).Widens
        (Evaluate.step host (Evaluate.run host depth)
          (Evaluate.callLine (Evaluate.run host depth)) command arguments (kinds ++ [.command])))
    (runs : (⟨depth + 1, world, command, arguments⟩ : Goal σ).run host kinds =
      some (.ok reply, after)) :
    (⟨depth + 1, world, command, arguments⟩ : Goal σ).StillAnswers host kinds reply after := by
  obtain ⟨outcome, later, runsToo, same, journal, rfl⟩ :=
    widens.exists_of_run (run_succ_eq_ok_iff.1 runs) (World.UpToJournal.refl world)
  cases same
  exact .inl ⟨journal, run_succ_eq_ok_iff.2 runsToo⟩

/-- Overloads that answer still do, unless one of them displaces the answer. -/
theorem stillAnswers_overloads (without : .command ∉ kinds) {set : Overloads}
    (ignores : ∀ f ∈ set.functions, f.IgnoresKinds host)
    (undisplaced : ¬ (⟨depth + 1, world, .overloads set, arguments⟩ : Goal σ).Displaced host kinds)
    (runs : (⟨depth + 1, world, .overloads set, arguments⟩ : Goal σ).run host kinds =
      some (.ok reply, after)) :
    (⟨depth + 1, world, .overloads set, arguments⟩ : Goal σ).StillAnswers host kinds reply
      after := by
  have step (kinds : List Kind) : (Evaluate.step host (Evaluate.run host depth)
      (Evaluate.callLine (Evaluate.run host depth)) (.overloads set) arguments kinds).run.run world =
        (Evaluate.callFirst (Evaluate.run host depth)
          (Command.sharedFrom world.cells.size arguments) kinds set.functions).run.run
            (world.grow arguments.length) := by
    rw [Evaluate.step, Evaluate.callOverloads, Eval.run_bind, Eval.run_share]
  have widens : ∀ f ∈ set.functions,
      (Evaluate.run host depth (.function f) (Command.sharedFrom world.cells.size arguments)
        kinds).Widens (Evaluate.run host depth (.function f)
          (Command.sharedFrom world.cells.size arguments) (kinds ++ [.command])) := by
    intro f among
    -- The functions are called one call deeper, where without any depth nothing has a result.
    cases depth with
    | zero => exact fun _ _ _ => .none
    | succ depth =>
      have twice := Evaluate.run_upToJournal host depth
      exact (Evaluate.callFunction_widens twice (Evaluate.callLine_upToJournal host depth)
        (ignores f among) without _).recorded
  rw [run_succ_eq_ok_iff, step] at runs
  rcases Evaluate.callFirst_widens (Evaluate.run_upToJournal host depth) widens
      (World.UpToJournal.refl _) runs with
    ⟨later, still, journal, rfl⟩ | among
  · refine .inl ⟨journal, ?_⟩
    rw [run_succ_eq_ok_iff, step]
    exact still
  · exact absurd (.overloads among) undisplaced

/-- A command that has run before answers the reply that is kept. -/
theorem stillAnswers_settled {cell : Nat} {inner : Command} {outcome : Outcome}
    (kept : world.kept? cell = some outcome)
    (runs : (⟨depth + 1, world, .lazy cell inner, arguments⟩ : Goal σ).run host kinds =
      some (.ok reply, after)) :
    (⟨depth + 1, world, .lazy cell inner, arguments⟩ : Goal σ).StillAnswers host kinds reply
      after := by
  have step (kinds : List Kind) : (Evaluate.step host (Evaluate.run host depth)
      (Evaluate.callLine (Evaluate.run host depth)) (.lazy cell inner) arguments
        kinds).run.run world =
          some (Evaluate.replay (inner.describe world.bot.groups) outcome kinds, world) := by
    rw [Evaluate.step, Evaluate.run_callLazy, kept]
  rw [run_succ_eq_ok_iff, step, Option.some.injEq, Prod.mk.injEq, Evaluate.replay_eq_ok_iff] at runs
  obtain ⟨⟨rfl, fits⟩, rfl⟩ := runs
  refine .inl ⟨world.journal, ?_⟩
  rw [run_succ_eq_ok_iff, step, Option.some.injEq, Prod.mk.injEq, Evaluate.replay_eq_ok_iff]
  exact ⟨⟨rfl, Reply.fits_append fits _⟩, rfl⟩

/-- A group without arguments answers with itself. -/
theorem stillAnswers_alone {id : Nat}
    (alone : Evaluate.step host (Evaluate.run host depth)
      (Evaluate.callLine (Evaluate.run host depth)) command [] (kinds ++ [.command]) =
        Evaluate.callGroupAlone (Evaluate.run host depth) id (kinds ++ [.command]))
    (there : (⟨depth + 1, world, command, []⟩ : Goal σ).Alone id) :
    (⟨depth + 1, world, command, []⟩ : Goal σ).StillAnswers host kinds reply after := by
  refine .inr ⟨id, world, _, ?_, .refl, there⟩
  have wanted : (kinds ++ [Kind.command]).contains .command := by simp
  rw [run_succ_eq_ok_iff, alone, Evaluate.callGroupAlone, if_pos wanted]
  rfl

/-- A group that answers for a name hands on to the child that the name stands for. -/
theorem exists_handsOn_group {id : Nat} {first : Command} {rest : List Command}
    (runs : (Evaluate.callGroup (Evaluate.run host depth) id (first :: rest) kinds).run.run world =
      some (.ok reply, after)) :
    ∃ next, next.depth = depth ∧ HandsOn host ⟨depth + 1, world, .group id, first :: rest⟩ next := by
  rcases Eval.exists_of_run_bind runs with ⟨_, _, failed⟩ | ⟨name, middle, named, dispatched⟩
  · cases failed
  · obtain ⟨full, node, found⟩ := Evaluate.exists_resolve_of_run dispatched
    exact ⟨_, rfl, .child named found rest⟩

/-- The entry of the tree hands on to what its first argument answers, or to what the name that this
answers stands for. -/
theorem exists_handsOn_root {first : Command} {rest : List Command}
    (runs : (Evaluate.callRoot (Evaluate.run host depth) (first :: rest) kinds).run.run world =
      some (.ok reply, after)) :
    ∃ next, next.depth = depth ∧ HandsOn host ⟨depth + 1, world, .root, first :: rest⟩ next := by
  rcases Eval.exists_of_run_bind runs with ⟨_, _, failed⟩ | ⟨answer, middle, answers, ended⟩
  · cases failed
  · cases answer with
    | command command => exact ⟨_, rfl, .given answers rest⟩
    | text name =>
      obtain ⟨full, node, found⟩ := Evaluate.exists_resolve_of_run ended
      exact ⟨_, rfl, .entry answers found rest⟩
    | _ => cases ended

end Final

/-- A call hands on, to one with fewer calls inside it, or answers by itself: it still answers. -/
theorem stillAnswers_of_ignores (without : .command ∉ kinds)
    (ignores : ∀ reached, Relation.ReflTransGen (HandsOn host) goal reached →
      reached.command.IgnoresKinds host)
    (undisplaced : ∀ reached, Relation.ReflTransGen (HandsOn host) goal reached →
      ¬ reached.Displaced host kinds)
    (runs : goal.run host kinds = some (.ok reply, after)) :
    goal.StillAnswers host kinds reply after := by
  obtain ⟨depth, world, command, arguments⟩ := goal
  induction depth generalizing world command arguments after with
  | zero => cases runs
  | succ depth ih =>
    -- Where the call hands on, one call fewer may be inside the other, from whatever world.
    have on {next : Goal σ} (deeper : next.depth = depth)
        (handed : HandsOn host ⟨depth + 1, world, command, arguments⟩ next) :
        Goal.StillAnswers host kinds ⟨depth + 1, world, command, arguments⟩ reply after := by
      refine handed.stillAnswers runs fun middle answered => ?_
      obtain ⟨_, world, command, arguments⟩ := next
      cases deeper
      exact ih _ _ _ (fun reached further => ignores reached (.head handed further))
        (fun reached further => undisplaced reached (.head handed further)) answered
    have here := ignores _ .refl
    have twice := Evaluate.run_upToJournal host depth
    have stepped := run_succ_eq_ok_iff.1 runs
    cases command with
    | literal text =>
      exact stillAnswers_of_widens (Eval.widens_ofExcept (Evaluate.callLiteral_widens text kinds))
        runs
    | function f =>
      exact stillAnswers_of_widens (Evaluate.callFunction_widens twice
        (Evaluate.callLine_upToJournal host depth) here without arguments) runs
    | documented command =>
      exact stillAnswers_of_widens (Evaluate.callFunction_widens twice
        (Evaluate.callLine_upToJournal host depth) here without arguments) runs
    | overloads set => exact stillAnswers_overloads without here (undisplaced _ .refl) runs
    | stored text body =>
      cases paid : world.context.budget.take? 1 with
      | none =>
        rw [Evaluate.step, Evaluate.run_callStored_unpaid paid] at stepped
        cases stepped
      | some budget => exact on rfl (.stored paid depth text body arguments)
    | lazy cell inner =>
      cases kept : world.kept? cell with
      | none => exact on rfl (.lazy kept depth inner arguments)
      | some outcome =>
        exact stillAnswers_settled kept runs
    | applied callee bound => exact on rfl (.applied depth world callee bound arguments)
    | group id =>
      cases arguments with
      | nil => exact stillAnswers_alone rfl (.group depth world id)
      | cons first rest =>
        obtain ⟨next, deeper, handed⟩ := exists_handsOn_group stepped
        exact on deeper handed
    | root =>
      cases arguments with
      | nil => exact stillAnswers_alone rfl (.root depth world)
      | cons first rest =>
        obtain ⟨next, deeper, handed⟩ := exists_handsOn_root stepped
        exact on deeper handed
    | orphan => cases stepped
    | foreign label index =>
      exact stillAnswers_of_widens (Evaluate.callForeign_widens twice
        (Evaluate.callLine_upToJournal host depth) here label arguments) runs

/-- What runs commands one after the other, whatever they answer, goes on behind one that answered. -/
theorem run_runAll_cons (alone : goal.arguments = [])
    (runs : goal.run host Builtin.RunAll.anyKind = some (.ok reply, after)) (line : LineCaller σ)
    (rest : List Command) :
    ((Builtin.RunAll.run (goal.command :: rest)).runWith (Evaluate.run host goal.depth)
        line).run.run goal.world =
      ((Builtin.RunAll.run rest).runWith (Evaluate.run host goal.depth) line).run.run after := by
  rw [run, alone] at runs
  rw [Builtin.RunAll.run, Native.runWith_bind, Eval.run_bind, Native.runWith_discard,
    Eval.run_bind, Native.call, Native.runWith_callWithin, Eval.run_bind, Eval.run_outcome]
  have called : (Eval.inScopes [] (Evaluate.run host goal.depth goal.command []
      Builtin.RunAll.anyKind)).run.run goal.world = some (.ok reply, after) := runs
  rw [called]
  rfl

/-- Asking for a command as well, last of all, changes no answer of a call whose code does not look
at the kinds: who was answered without asking for a command gets the same reply. The one exception is
a call that comes, through calls that only hand on, to a group without arguments, which answers with
itself wherever a command will do. Nothing is said of calls that come to overloads of which one that
fails would answer with a command.

What runs commands one after the other asks each for nothing, a text or a list, and for a command last.
So, that exception apart, it really runs every command that can answer one of the first three. -/
theorem stillAnswers_of_run (without : .command ∉ kinds)
    (ignores : ∀ reached, Relation.ReflTransGen (HandsOn host) goal reached →
      reached.command.IgnoresKinds host)
    (undisplaced : ∀ reached, Relation.ReflTransGen (HandsOn host) goal reached →
      ¬ reached.Displaced host kinds)
    (runs : goal.run host kinds = some (.ok reply, after)) :
    goal.StillAnswers host kinds reply after ∧
      (kinds = [.empty, .string, .enumerable] → goal.arguments = [] →
        (∀ reached id, Relation.ReflTransGen (HandsOn host) goal reached → ¬ reached.Alone id) →
          goal.RunsInTurn host after) := by
  have still := stillAnswers_of_ignores without ignores undisplaced runs
  refine ⟨still, ?_⟩
  rintro rfl noArguments elsewhere
  rcases still with ⟨journal, still⟩ | ⟨id, _, reached, _, on, there⟩
  · exact fun line rest => ⟨journal, run_runAll_cons noArguments still line rest⟩
  · exact absurd there (elsewhere reached id on)

/-- A function with its argument bound to it, that is run for nothing. -/
theorem stillAnswers_of_run_print :
    let world := World.start (.empty .bare) (.fresh .unlimited none) () 0
    let goal : Goal Unit :=
      ⟨4, world, .applied (.function Builtin.print.function) [.literal "hi"], []⟩
    .command ∉ [Kind.empty, .string, .enumerable] ∧
    (∀ reached, Relation.ReflTransGen (HandsOn Host.none) goal reached →
      reached.command.IgnoresKinds Host.none) ∧
    (∀ reached, Relation.ReflTransGen (HandsOn Host.none) goal reached →
      ¬ reached.Displaced Host.none [.empty, .string, .enumerable]) ∧
    ∃ after, goal.run Host.none [.empty, .string, .enumerable] = some (.ok .nothing, after) ∧
      goal.StillAnswers Host.none [.empty, .string, .enumerable] .nothing after ∧
      goal.RunsInTurn Host.none after := by
  intro world goal
  have without : .command ∉ [Kind.empty, .string, .enumerable] := by decide
  have reaches : ∀ reached, Relation.ReflTransGen (HandsOn Host.none) goal reached →
      reached.command.IgnoresKinds Host.none ∧
        ¬ reached.Displaced Host.none [.empty, .string, .enumerable] ∧
          ∀ id, ¬ reached.Alone id := by
    intro reached on
    rcases on.cases_head with rfl | ⟨_, handed, on⟩
    · refine ⟨trivial, fun displaced => ?_, fun id alone => ?_⟩
      · dsimp only [goal] at displaced
        cases displaced
      · dsimp only [goal] at alone
        cases alone
    · dsimp only [goal] at handed
      cases handed
      rcases on.cases_head with rfl | ⟨_, handed, _⟩
      · exact ⟨fun looks => absurd looks (by decide), nofun, nofun⟩
      · cases handed
  have ignores := fun reached on => (reaches reached on).1
  have undisplaced := fun reached on => (reaches reached on).2.1
  have answers : ∃ after, goal.run Host.none [.empty, .string, .enumerable] =
      some (.ok .nothing, after) := ⟨_, rfl⟩
  obtain ⟨after, runs⟩ := answers
  have still := stillAnswers_of_run without ignores undisplaced runs
  exact ⟨without, ignores, undisplaced, after, runs, still.1,
    still.2 rfl rfl fun reached id on => (reaches reached on).2.2 id⟩

/-- A group with a command under the empty name runs that one without arguments, and answers with
itself as soon as a command will do. -/
theorem group_displaces_answer :
    let goal : Goal Unit := ⟨5, Evaluate.absorbing, .group 1, []⟩
    .command ∉ [Kind.string] ∧
    (∀ reached, Relation.ReflTransGen (HandsOn Host.none) goal reached →
      reached.command.IgnoresKinds Host.none) ∧
    (∃ after, goal.run Host.none [.string] = some (.ok (.text "all"), after)) ∧
    ∃ after, goal.run Host.none ([.string] ++ [.command]) =
      some (.ok (.command (.group 1)), after) := by
  intro goal
  refine ⟨by decide, ?_, ⟨_, rfl⟩, ⟨_, rfl⟩⟩
  intro reached on
  rcases on.cases_head with rfl | ⟨_, handed, _⟩
  · trivial
  · dsimp only [goal] at handed
    cases handed

end Goal

end ChatLine
