import ChatLine.Bot.Calls
import ChatLine.Proofs.Calls.Programs

set_option autoImplicit false

namespace ChatLine

variable {σ α β : Type}

/-- A text that runs what is stored under the name `x`. -/
def selfFeeding : String := "!eval (!alias show x)"

def shownText : Command :=
  .applied .root [.literal "alias", .literal "show", .literal "x"]

def selfFeedingCommand : Command :=
  .applied .root [.literal "eval", shownText]

theorem toCommand_selfFeeding : (Expr.read selfFeeding).toCommand = .ok selfFeedingCommand := by
  cbv

/-- The bot has `eval` and `alias show`, and the text is stored under the name that it asks for. -/
structure Bot.FeedsItself (bot : Bot) : Prop where
  runs : ∃ name, bot.groups.top.resolve "eval" =
    .ok (name, .leaf (.documented Builtin.eval.documented))
  shows : ∃ name id below, bot.groups.top.resolve "alias" = .ok (name, .group id below) ∧
    ∃ name, (bot.groups.children id).resolve "show" =
      .ok (name, .leaf (.documented Builtin.aliasShow.documented))
  stored : bot.aliases.get? "x" = some selfFeeding

namespace Eval

/-- If the computation has a result at all, it returns a value with `post`. -/
def Gives (action : Eval σ α) (world : World σ) (post : α → World σ → Prop) : Prop :=
  action.Ensures world fun result after => ∃ value, result = .ok value ∧ post value after

theorem gives_pure {value : α} {world : World σ} {post : α → World σ → Prop}
    (holds : post value world) : (pure value : Eval σ α).Gives world post := by
  intro result after runs
  cases runs
  exact ⟨value, rfl, holds⟩

theorem gives_pure_bind {value : α} {next : α → Eval σ β} {world : World σ}
    {post : β → World σ → Prop} (gives : (next value).Gives world post) :
    (pure value >>= next).Gives world post := gives

theorem gives_get_bind {next : World σ → Eval σ α} {world : World σ} {post : α → World σ → Prop}
    (gives : (next world).Gives world post) : (get >>= next).Gives world post :=
  ensures_bind.2 fun result after runs => by
    cases runs
    exact gives

theorem gives_set_bind {next : PUnit → Eval σ α} {world other : World σ} {post : α → World σ → Prop}
    (gives : (next ⟨⟩).Gives other post) : (set other >>= next).Gives world post :=
  ensures_bind.2 fun result after runs => by
    cases runs
    exact gives

theorem gives_modify_bind {change : World σ → World σ} {next : PUnit → Eval σ α} {world : World σ}
    {post : α → World σ → Prop} (gives : (next ⟨⟩).Gives (change world) post) :
    (modify change >>= next).Gives world post :=
  ensures_bind.2 fun result after runs => by
    cases runs
    exact gives

theorem gives_ofExcept {result : Except CommandError α} {value : α} {world : World σ}
    {post : α → World σ → Prop} (found : result = .ok value) (holds : post value world) :
    (ofExcept result).Gives world post := by
  subst found
  exact gives_pure holds

theorem gives_ofExcept_bind {result : Except CommandError α} {value : α} {next : α → Eval σ β}
    {world : World σ} {post : β → World σ → Prop} (found : result = .ok value)
    (gives : (next value).Gives world post) : (ofExcept result >>= next).Gives world post := by
  subst found
  exact gives

theorem Gives.bind {first : Eval σ α} {next : α → Eval σ β} {world : World σ}
    {middle : α → World σ → Prop} {post : β → World σ → Prop} (gives : first.Gives world middle)
    (rest : ∀ value after, middle value after → (next value).Gives after post) :
    (first >>= next).Gives world post := by
  refine ensures_bind.2 ?_
  intro result after runs
  obtain ⟨value, rfl, holds⟩ := gives result after runs
  exact rest value after holds

theorem Gives.weaken {action : Eval σ α} {world : World σ} {strong weak : α → World σ → Prop}
    (gives : action.Gives world strong)
    (implies : ∀ value after, strong value after → weak value after) :
    action.Gives world weak := by
  intro result after runs
  obtain ⟨value, same, holds⟩ := gives result after runs
  exact ⟨value, same, implies value after holds⟩

theorem Gives.outcome {action : Eval σ α} {world : World σ} {post : α → World σ → Prop}
    (gives : action.Gives world post) :
    (Eval.outcome action).Gives world fun result after =>
      ∃ value, result = .ok value ∧ post value after := by
  intro result after runs
  rw [run_outcome] at runs
  cases found : action.run.run world with
  | none => simp [found] at runs
  | some pair =>
    simp only [found, Option.map_some, Option.some.injEq, Prod.mk.injEq] at runs
    obtain ⟨rfl, rfl⟩ := runs
    exact ⟨_, rfl, gives _ _ found⟩

theorem Gives.recorded {action : Eval σ α} {world : World σ} {post : α → World σ → Prop}
    (gives : action.Gives world post) : (recorded action).Gives world post := by
  apply gives.outcome.bind
  intro result after returned
  obtain ⟨value, rfl, holds⟩ := returned
  exact gives_pure holds

end Eval

namespace Evaluate

variable {host : Host σ}

def Unchanged (expected : α) (world : World σ) (value : α) (after : World σ) : Prop :=
  value = expected ∧ after.bot = world.bot

/-- A call gives what its step gives, whatever depth is left for it. -/
theorem run_gives {command : Command} {arguments : List Command} {kinds : List Kind}
    {world : World σ} {post : Reply → World σ → Prop} {depth : Nat}
    (gives : ∀ shallower, shallower < depth →
      (step host (run host shallower) (callLine (run host shallower)) command arguments
        kinds).Gives world post) :
    (run host depth command arguments kinds).Gives world post := by
  cases depth with
  | zero =>
    intro result after runs
    cases runs
  | succ depth => exact (gives depth (Nat.lt_succ_self depth)).recorded

theorem literal_gives (depth : Nat) (text : String) {kinds : List Kind} (world : World σ)
    (wanted : kinds.contains .string = true) :
    (run host depth (.literal text) [] kinds).Gives world (Unchanged (.text text) world) := by
  refine run_gives fun shallower _ => Eval.gives_ofExcept ?_ ⟨rfl, rfl⟩
  simp only [callLiteral, wanted, if_true]

theorem dispatch_gives {call : Caller σ} {id : Nat} {name full : String} {node : Node}
    {rest : List Command} {kinds : List Kind} {world : World σ} {post : Reply → World σ → Prop}
    (found : (world.bot.groups.children id).resolve name = .ok (full, node))
    (gives : (call node.command rest kinds).Gives world post) :
    (dispatch call id name rest kinds).Gives world post := by
  exact Eval.gives_get_bind (Eval.gives_ofExcept_bind found gives)

/-- The entry of the tree calls the child that its first argument names. -/
theorem callRoot_gives {depth : Nat} {name full : String} {node : Node} {rest : List Command}
    {kinds : List Kind} {world : World σ} {post : Reply → World σ → Prop}
    (found : world.bot.groups.top.resolve name = .ok (full, node))
    (gives : ∀ after, after.bot = world.bot →
      (run host depth node.command rest kinds).Gives after post) :
    (callRoot (run host depth) (.literal name :: rest) kinds).Gives world post := by
  apply (literal_gives depth name world rfl).bind
  intro reply after named
  obtain ⟨rfl, sameBot⟩ := named
  have resolved : (after.bot.groups.children Groups.topId).resolve name = .ok (full, node) := by
    rw [sameBot]
    exact found
  exact dispatch_gives resolved (gives after sameBot)

/-- A command that runs at most once, and has not run, gives what its command gives. -/
theorem fresh_lazy_gives {depth cell : Nat} {inner : Command} {kinds : List Kind} {world : World σ}
    {expected : Reply} (fresh : world.kept? cell = none) (fits : expected.fits kinds = true)
    (gives : ∀ shallower after, shallower < depth → after.bot = world.bot →
      (run host shallower inner [] kinds).Gives after (Unchanged expected after)) :
    (run host depth (.lazy cell inner) [] kinds).Gives world (Unchanged expected world) := by
  apply run_gives
  intro shallower less
  have settled : (settle (run host shallower) cell inner [] kinds).Gives world
      (Unchanged (.ok expected) world) := by
    apply Eval.gives_get_bind
    simp only [fresh]
    apply Eval.gives_modify_bind
    have called := gives shallower (world.record (.evaluated cell world.context.frames)) less rfl
    apply called.outcome.bind
    intro outcome after returned
    obtain ⟨_, rfl, rfl, sameBot⟩ := returned
    exact Eval.gives_modify_bind (Eval.gives_pure ⟨rfl, sameBot⟩)
  apply settled.bind
  intro outcome after same
  obtain ⟨rfl, sameBot⟩ := same
  apply Eval.gives_ofExcept_bind rfl
  simp only [fits, if_true]
  exact Eval.gives_pure ⟨rfl, sameBot⟩

theorem kept?_addCell (world : World σ) : world.addCell.2.kept? world.addCell.1 = none := by
  simp [World.kept?, World.addCell]

theorem shared_literal_gives (depth : Nat) (text : String) {world : World σ} {cell : Nat}
    (fresh : world.kept? cell = none) :
    (Eval.text (run host depth) (.lazy cell (.literal text))).Gives world
      (Unchanged text world) := by
  have answered : (run host depth (.lazy cell (.literal text)) [] [.string]).Gives world
      (Unchanged (.text text) world) :=
    fresh_lazy_gives fresh rfl fun shallower after _ _ => literal_gives shallower text after rfl
  apply answered.bind
  intro reply after same
  obtain ⟨rfl, sameBot⟩ := same
  exact Eval.gives_get_bind (Eval.gives_ofExcept rfl ⟨rfl, sameBot⟩)

theorem share_gives (argument : Command) (world : World σ) :
    (Eval.share [argument]).Gives world fun shared after =>
      (∃ cell, shared = [.lazy cell argument] ∧ after.kept? cell = none) ∧
        after.bot = world.bot :=
  Eval.gives_get_bind (Eval.gives_set_bind
    (Eval.gives_pure ⟨⟨_, rfl, kept?_addCell world⟩, rfl⟩))

theorem aliasShow_gives (depth : Nat) {text : String} {world : World σ}
    (stored : world.bot.aliases.get? "x" = some text) (full : text.isEmpty = false) :
    (run host depth (.documented Builtin.aliasShow.documented) [.literal "x"]
      Kind.commandOrText).Gives world (Unchanged (.text text) world) := by
  apply run_gives
  intro shallower _
  apply (share_gives _ world).bind
  intro shared after made
  obtain ⟨⟨cell, rfl, fresh⟩, sameBot⟩ := made
  have first : (Function.bindFormal (run host shallower) Kind.commandOrText
      [.lazy cell (.literal "x")] (.plain .string) [.lazy cell (.literal "x")]).Gives after
      (Unchanged (.text (some "x"), []) after) := by
    apply (shared_literal_gives shallower "x" fresh).bind
    intro argument later same
    obtain ⟨rfl, sameBot⟩ := same
    exact Eval.gives_ofExcept_bind rfl (Eval.gives_pure ⟨rfl, sameBot⟩)
  have bound : (Function.bindFormals (run host shallower) Kind.commandOrText
      [.lazy cell (.literal "x")] [.plain .string] [.lazy cell (.literal "x")]).Gives after
      (Unchanged ([.text (some "x")], []) after) := by
    apply first.bind
    intro binding later same
    obtain ⟨rfl, sameBot⟩ := same
    exact Eval.gives_pure ⟨rfl, sameBot⟩
  apply bound.bind
  intro bindings later same
  obtain ⟨rfl, laterBot⟩ := same
  have kept : later.bot.aliases.get? "x" = some text := by
    rw [laterBot, sameBot]
    exact stored
  have coded : ((Builtin.AliasShow.code [.text (some "x")]).runWith (run host shallower)
      (callLine (run host shallower))).Gives later (Unchanged (.ok (.string text)) later) := by
    unfold Builtin.AliasShow.code
    rw [Native.runWith_bind]
    apply Eval.gives_pure_bind
    dsimp only
    rw [Native.runWith_bind]
    refine Eval.gives_get_bind (Eval.gives_pure_bind ?_)
    rw [kept]
    exact Eval.gives_pure ⟨rfl, rfl⟩
  have invoked : (invoke host (run host shallower) (callLine (run host shallower))
      Builtin.aliasShow.function [.text (some "x")]).Gives later
      (Unchanged (.string text) later) := by
    apply coded.bind
    intro value last same
    obtain ⟨rfl, lastBot⟩ := same
    exact Eval.gives_pure ⟨rfl, lastBot⟩
  apply invoked.bind
  intro value last same
  obtain ⟨rfl, lastBot⟩ := same
  refine Eval.gives_ofExcept ?_ ⟨rfl, ?_⟩
  · simp [Value.deliver, List.findSome?_cons, Value.answer?, Value.toText?, Kind.commandOrText,
      Option.filter_some, full]
  · rw [lastBot, laterBot, sameBot]

/-- A group that is called with a text calls the child that the text names. -/
theorem callGroup_gives {depth id : Nat} {name full : String} {node : Node} {rest : List Command}
    {kinds : List Kind} {world : World σ} {post : Reply → World σ → Prop}
    (found : (world.bot.groups.children id).resolve name = .ok (full, node))
    (gives : ∀ after, after.bot = world.bot →
      (run host depth node.command rest kinds).Gives after post) :
    (callGroup (run host depth) id (.literal name :: rest) kinds).Gives world post := by
  have named : (Eval.text (run host depth) (.literal name)).Gives world (Unchanged name world) := by
    apply (literal_gives depth name world rfl).bind
    intro reply after same
    obtain ⟨rfl, sameBot⟩ := same
    exact Eval.gives_get_bind (Eval.gives_ofExcept rfl ⟨rfl, sameBot⟩)
  apply named.bind
  intro text after same
  obtain ⟨rfl, sameBot⟩ := same
  exact dispatch_gives (sameBot ▸ found) (gives after sameBot)

theorem shownText_gives (depth : Nat) {world : World σ} (feeds : world.bot.FeedsItself) :
    (run host depth shownText [] Kind.commandOrText).Gives world
      (Unchanged (.text selfFeeding) world) := by
  obtain ⟨_, id, below, toGroup, _, toShow⟩ := feeds.shows
  refine run_gives fun first _ => run_gives ?_
  intro second _
  refine callRoot_gives toGroup fun atGroup sameBot => run_gives ?_
  intro third _
  rw [← sameBot] at toShow
  apply callGroup_gives toShow
  intro atShow laterBot
  have stored : atShow.bot.aliases.get? "x" = some selfFeeding := by
    rw [laterBot, sameBot]
    exact feeds.stored
  apply (aliasShow_gives third stored (by decide)).weaken
  intro reply after same
  exact ⟨same.1, same.2.trans (laterBot.trans sameBot)⟩

/-- `eval` of an argument that gives a text ends no sooner than the text when it runs. -/
theorem evalText_gives {call : Caller σ} {line : LineCaller σ} {argument : Command} {text : String}
    (kinds : List Kind) {world : World σ}
    (found : (call argument [] Kind.commandOrText).Gives world (Unchanged (.text text) world))
    (endless : ∀ after, after.bot = world.bot →
      (line text kinds).Gives after fun _ _ => False) :
    ((Builtin.Eval.run [argument] kinds).runWith call line).Gives world fun _ _ => False := by
  simp only [Builtin.Eval.run, Native.runWith_bind, Native.call, Native.runWith_callWithin,
    bind_assoc]
  apply found.outcome.bind
  intro outcome after returned
  obtain ⟨reply, rfl, rfl, sameBot⟩ := returned
  show ((Native.callLine text kinds).runWith call line).Gives after _
  rw [Native.runWith_callLine]
  apply (endless after sameBot).outcome.bind
  intro outcome last returned
  obtain ⟨_, _, impossible⟩ := returned
  exact impossible.elim

/-- However deep it may go, the text that runs itself has no result. -/
theorem selfFeeding_endless (depth : Nat) {world : World σ} (feeds : world.bot.FeedsItself) :
    (run host depth selfFeedingCommand [] Kind.textOrNothing).Gives world fun _ _ => False := by
  induction depth using Nat.strongRecOn generalizing world with
  | ind depth ih =>
    obtain ⟨_, eval⟩ := feeds.runs
    refine run_gives fun first lessFirst => run_gives ?_
    intro second lessSecond
    refine callRoot_gives eval fun atEval sameBot => run_gives ?_
    intro third lessThird
    apply (share_gives _ atEval).bind
    intro shared after made
    obtain ⟨⟨cell, rfl, fresh⟩, afterBot⟩ := made
    have feedsAfter : after.bot.FeedsItself := by
      rw [afterBot, sameBot]
      exact feeds
    have shown : (run host third (.lazy cell shownText) [] Kind.commandOrText).Gives after
        (Unchanged (.text selfFeeding) after) := by
      apply fresh_lazy_gives fresh rfl
      intro shallower later _ laterBot
      exact shownText_gives shallower (laterBot ▸ feedsAfter)
    have again : ∀ later : World σ, later.bot = after.bot →
        (callLine (run host third) selfFeeding Kind.textOrNothing).Gives later
          fun _ _ => False := by
      intro later laterBot
      apply Eval.gives_ofExcept_bind toCommand_selfFeeding
      exact ih third (by omega) (laterBot ▸ feedsAfter)
    have code := evalText_gives Kind.textOrNothing shown again
    apply Eval.gives_pure_bind
    have invoked : (invoke host (run host third) (callLine (run host third)) Builtin.eval.function
        [.context, .arguments [.lazy cell shownText], .kinds Kind.textOrNothing]).Gives after
        fun _ _ => False := by
      have coded : ((Builtin.Eval.code [.context, .arguments [.lazy cell shownText],
          .kinds Kind.textOrNothing]).runWith (run host third) (callLine (run host third))).Gives
          after fun _ _ => False := by
        show ((Builtin.Eval.run [.lazy cell shownText] Kind.textOrNothing >>= fun reply =>
          pure (Value.reply reply)).runWith _ _).Gives after _
        rw [Native.runWith_bind]
        exact code.bind fun _ _ impossible => impossible.elim
      exact coded.bind fun _ _ impossible => impossible.elim
    exact invoked.bind fun _ _ impossible => impossible.elim

end Evaluate

/-- A line that runs itself has no result, however deep its calls may go. -/
theorem callLine_selfFeeding {host : Host σ} {world : World σ} (feeds : world.bot.FeedsItself)
    (depth : Nat) :
    (Evaluate.callLine (Evaluate.run host depth) selfFeeding Kind.textOrNothing).run.run world =
      none := by
  have endless : (Evaluate.callLine (Evaluate.run host depth) selfFeeding
      Kind.textOrNothing).Gives world fun _ _ => False :=
    Eval.gives_ofExcept_bind toCommand_selfFeeding (Evaluate.selfFeeding_endless depth feeds)
  apply Option.eq_none_iff_forall_ne_some.2
  intro result runs
  obtain ⟨_, _, impossible⟩ := endless _ _ runs
  exact impossible

/-- Whether a bot feeds itself, as far as it can be seen by looking up the names. -/
def Bot.looksSelfFeeding (bot : Bot) : Bool :=
  match bot.groups.top.resolve "eval", bot.groups.top.resolve "alias" with
  | .ok (_, .leaf (.documented run)), .ok (_, .group id _) =>
    match (bot.groups.children id).resolve "show" with
    | .ok (_, .leaf (.documented shown)) =>
      run == Builtin.eval.documented && shown == Builtin.aliasShow.documented &&
        bot.aliases.get? "x" == some selfFeeding
    | _ => false
  | _, _ => false

theorem Bot.feedsItself_of_looks {bot : Bot} (looks : bot.looksSelfFeeding = true) :
    bot.FeedsItself := by
  unfold Bot.looksSelfFeeding at looks
  split at looks
  · rename_i toEval toGroup
    split at looks
    · rename_i toShow
      simp only [Bool.and_eq_true, beq_iff_eq] at looks
      obtain ⟨⟨rfl, rfl⟩, stored⟩ := looks
      exact ⟨⟨_, toEval⟩, ⟨_, _, _, toGroup, _, toShow⟩, stored⟩
    · cases looks
  · cases looks

/-- The bot that is told nothing feeds itself as soon as the text is stored. -/
theorem Bot.exists_feedsItself :
    ∃ bot, Bot.start .standard = .ok bot ∧
      ((Bot.addAlias "x" selfFeeding).run.run bot).2.FeedsItself := by
  have started : (Bot.start .standard).toOption.any (fun bot =>
      ((Bot.addAlias "x" selfFeeding).run.run bot).2.looksSelfFeeding) = true := by
    decide +kernel
  cases same : Bot.start .standard with
  | error error =>
    rw [same] at started
    cases started
  | ok bot =>
    rw [same] at started
    simp only [Except.toOption, Option.any_some] at started
    exact ⟨bot, rfl, Bot.feedsItself_of_looks started⟩

end ChatLine
