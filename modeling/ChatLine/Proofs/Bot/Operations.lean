import ChatLine.Proofs.Bot.Books
import Mathlib.Data.List.TakeDrop

set_option autoImplicit false

namespace ChatLine

namespace Bot

open Effects

section Runs

theorem run_register (command : Documented) (bot : Bot) :
    (register command).run.run bot =
      match validatePath command.path with
      | .error error => (.error error, bot)
      | .ok _ =>
        if bot.registered.any fun other => other.fullName == command.fullName then
          (.error (.duplicateCommand command.fullName), bot)
        else
          let earlier := bot.registeredAt command.path
          let commands := earlier ++ [command]
          match commandFor commands with
          | .error error => (.error error, bot)
          | .ok placed =>
            match (changeTree (.place command.path placed earlier.isEmpty)).run.run bot with
            | (.error error, after) => (.error error, after)
            | (.ok _, after) =>
              (.ok (), { after with registry := after.registry.set command.path commands }) := by
  unfold register
  rw [run_bind]
  have valid := run_ofExcept (validatePath command.path) bot
  rw [valid]
  cases validatePath command.path with
  | error error => rfl
  | ok _ =>
    dsimp only
    rw [run_bind, run_get]
    dsimp only
    split
    · rfl
    · rw [run_bind, run_ofExcept]
      cases commandFor (bot.registeredAt command.path ++ [command]) with
      | error error => rfl
      | ok placed =>
        dsimp only
        rw [run_bind]
        rcases (changeTree _).run.run bot with ⟨_ | _, after⟩ <;> rfl

theorem not_mem_registered {bot : Bot} {fullName : String}
    (fresh : ¬ (bot.registered.any fun other => other.fullName == fullName) = true) :
    fullName ∉ bot.registered.map Documented.fullName := by
  intro listed
  obtain ⟨other, inside, same⟩ := List.mem_map.1 listed
  exact fresh (List.any_eq_true.2 ⟨other, inside, by simp [same]⟩)

/-- How the registering of a command ends: it is refused and nothing happens, or the tree is asked to
place the command of the path, and the registry follows if it does. -/
theorem register_cases (command : Documented) (bot : Bot) :
    (∃ error, (register command).run.run bot = (.error error, bot)) ∨
      ∃ placed result after, validatePath command.path = .ok () ∧
        command.fullName ∉ bot.registered.map Documented.fullName ∧
        commandFor (bot.registeredAt command.path ++ [command]) = .ok placed ∧
        (changeTree (.place command.path placed (bot.registeredAt command.path).isEmpty)).run.run
          bot = (result, after) ∧
        (register command).run.run bot = (result, match result with
          | .error _ => after
          | .ok _ => { after with
              registry := after.registry.set command.path
                (bot.registeredAt command.path ++ [command]) }) := by
  rw [run_register]
  cases valid : validatePath command.path with
  | error error => exact .inl ⟨error, rfl⟩
  | ok _ =>
    dsimp only
    split
    · exact .inl ⟨_, rfl⟩
    · rename_i fresh_name
      obtain ⟨placed, built⟩ : ∃ placed,
          commandFor (bot.registeredAt command.path ++ [command]) = .ok placed :=
        exists_commandFor (by simp)
      rw [built]
      cases placing : (changeTree (.place command.path placed
          (bot.registeredAt command.path).isEmpty)).run.run bot with
      | mk result after =>
        refine .inr ⟨placed, result, after, rfl, not_mem_registered fresh_name, rfl, placing, ?_⟩
        dsimp only
        rw [placing]
        cases result <;> rfl

theorem run_addAlias (name text : String) (bot : Bot) :
    (addAlias name text).run.run bot =
      match validatePath name with
      | .error error => (.error error, bot)
      | .ok _ =>
        if bot.aliases.has name then (.error (.duplicateCommand name), bot)
        else
          match Command.ofLine text with
          | .error error => (.error error, bot)
          | .ok command =>
            match (changeTree (.addAt (Text.spaced name) command)).run.run bot with
            | (.error error, after) => (.error error, after)
            | (.ok _, after) =>
              (.ok (), { after with aliases := after.aliases.set name text }) := by
  unfold addAlias
  rw [run_bind]
  have valid := run_ofExcept (validatePath name) bot
  rw [valid]
  cases validatePath name with
  | error error => rfl
  | ok _ =>
    dsimp only
    rw [run_bind, run_get]
    dsimp only
    split
    · rfl
    · rw [run_bind, run_ofExcept]
      cases Command.ofLine text with
      | error error => rfl
      | ok placed =>
        dsimp only
        rw [run_bind]
        rcases (changeTree _).run.run bot with ⟨_ | _, after⟩ <;> rfl

/-- How the storing of a line ends: it is refused and nothing happens, or the tree is asked to add the
command of the line, and the table follows if it does. -/
theorem addAlias_cases (name text : String) (bot : Bot) :
    (∃ error, (addAlias name text).run.run bot = (.error error, bot)) ∨
      ∃ command result after, validatePath name = .ok () ∧ bot.aliases.get? name = none ∧
        Command.ofLine text = .ok command ∧
        (changeTree (.addAt (Text.spaced name) command)).run.run bot = (result, after) ∧
        (addAlias name text).run.run bot = (result, match result with
          | .error _ => after
          | .ok _ => { after with aliases := after.aliases.set name text }) := by
  rw [run_addAlias]
  cases valid : validatePath name with
  | error error => exact .inl ⟨error, rfl⟩
  | ok _ =>
    dsimp only
    split
    · exact .inl ⟨_, rfl⟩
    · rename_i free_name
      have absent : bot.aliases.get? name = none := by
        refine Decidable.byContradiction fun found => free_name ?_
        exact NameMap.has_iff.2 found
      cases Command.ofLine text with
      | error error => exact .inl ⟨error, rfl⟩
      | ok command =>
        cases adding : (changeTree (.addAt (Text.spaced name) command)).run.run bot with
        | mk result after =>
          refine .inr ⟨command, result, after, rfl, absent, rfl, adding, ?_⟩
          dsimp only
          rw [adding]
          cases result <;> rfl

theorem run_addCommand (path : String) (command : Command) (bot : Bot) :
    (addCommand path command).run.run bot =
      match validatePath path with
      | .error error => (.error error, bot)
      | .ok _ => (changeTree (.addAt (Text.spaced path) command)).run.run bot := by
  unfold addCommand
  rw [run_bind]
  have valid := run_ofExcept (validatePath path) bot
  rw [valid]
  cases validatePath path with
  | error error => rfl
  | ok _ => rfl

theorem run_unregister (path : String) (bot : Bot) :
    (unregister path).run bot =
      match bot.registry.get? path with
      | none => ([], bot)
      | some removed =>
        (removed, ((detach path).run.run { bot with registry := bot.registry.erase path }).2) := by
  unfold unregister
  simp only [StateT.run_bind, StateT.run_get, pure_bind]
  cases bot.registry.get? path <;> rfl

theorem run_unregisterOverload (fullName : String) (bot : Bot) :
    (unregisterOverload fullName).run bot =
      match findOverload? fullName bot.registry with
      | none => (none, bot)
      | some (path, before, removed, after) =>
        let left := before ++ after
        if left.isEmpty then
          (some removed, ((detach path).run.run { bot with registry := bot.registry.erase path }).2)
        else
          let kept := { bot with registry := bot.registry.set path left }
          match commandFor left with
          | .error _ => (some removed, kept)
          | .ok command =>
            (some removed, ((changeTree (.place path command false)).run.run kept).2) := by
  unfold unregisterOverload
  simp only [StateT.run_bind, StateT.run_get, pure_bind]
  cases findOverload? fullName bot.registry with
  | none => rfl
  | some found =>
    obtain ⟨path, before, removed, after⟩ := found
    dsimp only
    split
    · rfl
    · cases commandFor (before ++ after) <;> rfl

theorem run_removeAlias (name : String) (bot : Bot) :
    (removeAlias name).run.run bot =
      match bot.aliases.get? name with
      | none => (.error (.nameNotFound name), bot)
      | some text =>
        match (detach name).run.run { bot with aliases := bot.aliases.erase name } with
        | (.error error, after) => (.error error, after)
        | (.ok _, after) => (.ok text, after) := by
  unfold removeAlias
  rw [run_bind, run_get]
  dsimp only
  cases bot.aliases.get? name with
  | none => rfl
  | some text =>
    dsimp only
    rw [run_bind, run_set]
    dsimp only
    rw [run_bind]
    rcases (detach name).run.run _ with ⟨_ | _, after⟩ <;> rfl

end Runs

theorem mem_of_findOverload? {fullName : String} {registry : NameMap (List Documented)}
    {path : String} {before after : List Documented} {removed : Documented}
    (found : findOverload? fullName registry = some (path, before, removed, after)) :
    (path, before ++ removed :: after) ∈ registry := by
  induction registry with
  | nil => cases found
  | cons entry rest ih =>
    obtain ⟨key, commands⟩ := entry
    unfold findOverload? at found
    rw [List.span_eq_takeWhile_dropWhile] at found
    split at found
    · rename_i same
      simp only [Option.some.injEq, Prod.mk.injEq] at found same
      obtain ⟨rfl, rfl, rfl, rfl⟩ := found
      rw [← same.1, ← same.2, List.takeWhile_append_dropWhile]
      exact List.mem_cons_self
    · exact List.mem_cons_of_mem _ (ih found)

section Steps

variable {bot : Bot} {added : Added}

theorem registered_perm_registeredAt (sorted : bot.registry.Sorted) (path : String) :
    bot.registered.Perm
      (bot.registeredAt path ++ registered { bot with registry := bot.registry.erase path }) := by
  cases found : bot.registry.get? path with
  | none =>
    rw [NameMap.erase_eq_self found, registeredAt, found]
    exact .refl _
  | some commands =>
    rw [registeredAt, found]
    exact registered_perm sorted found

/-- Commands set at a path of the registry, and their command put there in the tree. -/
theorem InStep.set_registry (step : bot.InStep added) {path : String} {commands : List Documented}
    {placed : Command} {groups : Groups} (built : commandFor commands = .ok placed)
    (sound : Children.Sound groups.top)
    (moved : Children.sits? groups.top =
      Function.update (Children.sits? bot.groups.top) (Text.spaced path) (some placed))
    (free : bot.registry.get? path = none →
      Children.sits? bot.groups.top (Text.spaced path) = none)
    (names : ((registered { bot with registry := bot.registry.set path commands }).map
      Documented.fullName).Nodup) :
    InStep { bot with groups := groups, registry := bot.registry.set path commands } added where
  registry := step.registry.set path commands
  aliases := step.aliases
  names := names
  holds := by
    have listed := entries_set_registry added step.registry path commands groups
    rw [built] at listed
    refine Children.Holds.perm ?_ listed.symm
    cases found : bot.registry.get? path with
    | none =>
      rw [NameMap.erase_eq_self found]
      exact step.holds.put sound (Text.spaced_ne_nil path) (free found) moved
    | some earlier =>
      exact (step.holds.perm (entries_of_registry added step.registry found)).replace sound moved

theorem InStep.register (step : bot.InStep added) (command : Documented) :
    InStep ((Bot.register command).run.run bot).2 added := by
  rcases register_cases command bot with
    ⟨error, refused⟩ | ⟨placed, result, after, valid, new, built, placing, runs⟩
  · rw [refused]
    exact step
  · obtain ⟨groups, changed, sound, done⟩ := changeTree_spec
      (Change.puts_place (named_of_validatePath valid) (Text.spaced_ne_nil command.path) placed
        (bot.registeredAt command.path).isEmpty) bot step.holds.sound
    rw [placing] at changed done
    dsimp only at changed
    subst changed
    rw [runs]
    cases result with
    | error error => exact step.unmoved sound done.2
    | ok _ =>
      refine step.set_registry built sound done.1 (fun absent => done.2 ?_) ?_
      · rw [registeredAt, absent]
        rfl
      · have before := registered_perm_registeredAt step.registry command.path
        have after := registered_set_perm step.registry command.path
          (bot.registeredAt command.path ++ [command])
        have one_more : (bot.registeredAt command.path ++ [command] ++
            registered { bot with registry := bot.registry.erase command.path }).Perm
            (command :: bot.registered) := by
          rw [List.append_assoc]
          exact List.perm_middle.trans (before.symm.cons command)
        rw [((after.trans one_more).map Documented.fullName).nodup_iff, List.map_cons]
        exact List.nodup_cons.2 ⟨new, step.names⟩

theorem nodup_names_erase (step : bot.InStep added) (path : String) :
    ((registered { bot with registry := bot.registry.erase path }).map
      Documented.fullName).Nodup := by
  have parts := (registered_perm_registeredAt step.registry path).map Documented.fullName
  have both := parts.nodup_iff.1 step.names
  rw [List.map_append] at both
  exact (List.nodup_append.1 both).2.1

/-- A path taken out of the registry, and what sat there out of the tree. -/
theorem InStep.erase_registry (step : bot.InStep added) {path : String}
    {commands : List Documented} (found : bot.registry.get? path = some commands) :
    InStep ((detach path).run.run { bot with registry := bot.registry.erase path }).2 added := by
  obtain ⟨command, -, sits⟩ := step.sits_of_registry found
  obtain ⟨groups, runs, sound, moved⟩ :=
    detach_spec { bot with registry := bot.registry.erase path } step.holds.sound sits
  rw [runs]
  exact {
    holds := (step.holds.perm (entries_of_registry added step.registry found)).drop sound moved
    registry := step.registry.erase path
    aliases := step.aliases
    names := nodup_names_erase step path }

theorem InStep.unregister (step : bot.InStep added) (path : String) :
    InStep ((Bot.unregister path).run bot).2 added := by
  rw [run_unregister]
  cases found : bot.registry.get? path with
  | none => exact step
  | some removed => exact step.erase_registry found

theorem InStep.unregisterOverload (step : bot.InStep added) (fullName : String) :
    InStep ((Bot.unregisterOverload fullName).run bot).2 added := by
  rw [run_unregisterOverload]
  cases overload : findOverload? fullName bot.registry with
  | none => exact step
  | some parts =>
    obtain ⟨path, before, removed, after⟩ := parts
    have found := (NameMap.get?_eq_some_iff step.registry path _).2 (mem_of_findOverload? overload)
    dsimp only
    split
    · exact step.erase_registry found
    · rename_i some_left
      obtain ⟨placed, built⟩ := exists_commandFor fun empty => some_left (List.isEmpty_iff.2 empty)
      obtain ⟨old, -, sits⟩ := step.sits_of_registry found
      rw [built]
      dsimp only
      obtain ⟨groups, runs, sound, done⟩ := changeTree_spec
        (Change.puts_place (Children.named_of_sits? sits) (Text.spaced_ne_nil path) placed false)
        { bot with registry := bot.registry.set path (before ++ after) } step.holds.sound
      rw [runs]
      generalize ((changeTree (.place path placed false)).run.run
        { bot with registry := bot.registry.set path (before ++ after) }).1 = result at done
      cases result with
      | error error => exact nomatch done.1
      | ok _ =>
        refine step.set_registry built sound done.1 ?_ ?_
        · intro absent
          rw [found] at absent
          cases absent
        · have old_names :=
            ((registered_perm step.registry found).map Documented.fullName).nodup_iff.1
            step.names
          have new_perm := registered_set_perm step.registry path (before ++ after)
          rw [(new_perm.map Documented.fullName).nodup_iff]
          refine old_names.sublist (List.Sublist.map _ ?_)
          rw [List.append_assoc, List.append_assoc, List.cons_append]
          exact (List.sublist_cons_self _ _).append_left before

/-- What an added line does: the books have one line more, if the tree took its command. -/
theorem InStep.addAlias (step : bot.InStep added) (name text : String) :
    InStep ((Bot.addAlias name text).run.run bot).2 added := by
  rcases addAlias_cases name text bot with
    ⟨error, refused⟩ | ⟨command, result, after, valid, absent, meant, adding, runs⟩
  · rw [refused]
    exact step
  · obtain ⟨groups, changed, sound, done⟩ := changeTree_spec
      (Change.puts_addAt (Text.spaced_ne_nil name) (named_of_validatePath valid) command)
      bot step.holds.sound
    rw [adding] at changed done
    dsimp only at changed
    subst changed
    rw [runs]
    cases result with
    | error error => exact step.unmoved sound done.2
    | ok _ =>
      have listed := entries_set_aliases added step.aliases name text groups
      rw [NameMap.erase_eq_self absent, meant] at listed
      exact {
        holds := (step.holds.put sound (Text.spaced_ne_nil name) (done.2 rfl) done.1).perm
          listed.symm
        registry := step.registry
        aliases := step.aliases.set name text
        names := step.names }

theorem InStep.removeAlias (step : bot.InStep added) (name : String) :
    InStep ((Bot.removeAlias name).run.run bot).2 added := by
  rw [run_removeAlias]
  cases found : bot.aliases.get? name with
  | none => exact step
  | some text =>
    obtain ⟨command, -, sits⟩ := step.sits_of_aliases found
    obtain ⟨groups, runs, sound, moved⟩ :=
      detach_spec { bot with aliases := bot.aliases.erase name } step.holds.sound sits
    have kept : InStep { bot with groups := groups, aliases := bot.aliases.erase name } added := {
      holds := (step.holds.perm (entries_of_aliases added step.aliases found)).drop sound moved
      registry := step.registry
      aliases := step.aliases.erase name
      names := step.names }
    dsimp only
    generalize (detach name).run.run { bot with aliases := bot.aliases.erase name } = made at runs ⊢
    obtain ⟨result, after⟩ := made
    dsimp only at runs
    subst runs
    cases result <;> exact kept

/-- A command that is added is one more in the books, unless adding it fails. -/
theorem InStep.addCommand (step : bot.InStep added) (path : String) (command : Command) :
    InStep ((Bot.addCommand path command).run.run bot).2
      (match ((Bot.addCommand path command).run.run bot).1 with
      | .ok _ => (path, command) :: added
      | .error _ => added) := by
  rw [run_addCommand]
  cases valid : validatePath path with
  | error error => exact step
  | ok _ =>
    dsimp only
    obtain ⟨groups, runs, sound, done⟩ := changeTree_spec
      (Change.puts_addAt (Text.spaced_ne_nil path) (named_of_validatePath valid) command)
      bot step.holds.sound
    rw [runs]
    generalize ((changeTree (.addAt (Text.spaced path) command)).run.run bot).1 = result at done ⊢
    cases result with
    | error error => exact step.unmoved sound done.2
    | ok _ =>
      have one_more := step.holds.put sound (Text.spaced_ne_nil path) (done.2 rfl) done.1
      exact { step with holds := one_more.perm (entries_cons_added bot added path command).symm }

end Steps

/-- A change that an application can make of a bot. -/
inductive Operation where
  | register (command : Documented)
  | unregister (path : String)
  | unregisterOverload (fullName : String)
  | addAlias (name text : String)
  | removeAlias (name : String)
  | addCommand (path : String) (command : Command)

/-- A bot, and the commands that were added to it without documentation, the latest first. -/
structure History where
  bot : Bot
  added : Added

namespace History

/-- The history with one more operation, which may succeed or fail. -/
def after (history : History) : Operation → History
  | .register command => { history with bot := ((Bot.register command).run.run history.bot).2 }
  | .unregister path => { history with bot := ((Bot.unregister path).run history.bot).2 }
  | .unregisterOverload fullName =>
    { history with bot := ((Bot.unregisterOverload fullName).run history.bot).2 }
  | .addAlias name text => { history with bot := ((Bot.addAlias name text).run.run history.bot).2 }
  | .removeAlias name => { history with bot := ((Bot.removeAlias name).run.run history.bot).2 }
  | .addCommand path command =>
    match (Bot.addCommand path command).run.run history.bot with
    | (.ok _, bot) => ⟨bot, (path, command) :: history.added⟩
    | (.error _, bot) => { history with bot := bot }

/-- The history of operations on a bot that begins without commands. -/
def ofOperations (config : Config) (operations : List Operation) : History :=
  operations.foldl after ⟨.empty config, []⟩

end History

theorem InStep.empty (config : Config) : InStep (.empty config) [] where
  holds := .nil
  registry := NameMap.sorted_nil
  aliases := NameMap.sorted_nil
  names := .nil

theorem InStep.after {history : History} (step : history.bot.InStep history.added)
    (operation : Operation) :
    (history.after operation).bot.InStep (history.after operation).added := by
  cases operation with
  | register command => exact step.register command
  | unregister path => exact step.unregister path
  | unregisterOverload fullName => exact step.unregisterOverload fullName
  | addAlias name text => exact step.addAlias name text
  | removeAlias name => exact step.removeAlias name
  | addCommand path command =>
    have kept := step.addCommand path command
    unfold History.after
    dsimp only
    generalize (Bot.addCommand path command).run.run history.bot = made at kept ⊢
    obtain ⟨error | done, bot⟩ := made <;> exact kept

/-- Every sequence of operations keeps the tree in step with the books. -/
theorem inStep_ofOperations (config : Config) (operations : List Operation) :
    (History.ofOperations config operations).bot.InStep
      (History.ofOperations config operations).added := by
  have kept : ∀ history : History, history.bot.InStep history.added →
      (operations.foldl History.after history).bot.InStep
        (operations.foldl History.after history).added := by
    induction operations with
    | nil => exact fun history step => step
    | cons operation rest ih => exact fun history step => ih _ (step.after operation)
  exact kept ⟨.empty config, []⟩ (.empty config)

/-- After any operations on a bot that begins without commands, whether they succeeded or failed,
the leaves of the command tree are exactly these, each at its own path: for each path in the
registry the command for what is registered there, for each stored line what its text means, and
each command that was added without documentation. What stands at a path stands under the empty name
of the group there, if there is one. No group below the top is empty, and no two registered commands
have one full name. -/
theorem leaves_ofOperations (config : Config) (operations : List Operation) :
    let history := History.ofOperations config operations
    let bot := history.bot
    ((leavesBelow bot.groups.top).map fun leaf => (leaf.1, Except.ok leaf.2)).Perm
        ((bot.registry.map fun entry => (bot.slotPath entry.1, commandFor entry.2)) ++
          ((bot.aliases.map fun entry => (bot.slotPath entry.1, Command.ofLine entry.2)) ++
            history.added.map fun entry => (bot.slotPath entry.1, .ok entry.2))) ∧
      ((leavesBelow bot.groups.top).map Prod.fst).Nodup ∧
      (∀ group ∈ groupsBelow bot.groups.top, group ≠ []) ∧
      (bot.registered.map Documented.fullName).Nodup := by
  intro history bot
  have step : bot.InStep history.added := inStep_ofOperations config operations
  have sound := step.holds.sound
  refine ⟨?_, nodup_leavesBelow _ sound.sorted sound.nodes, ne_nil_of_mem_groupsBelow _ sound.nodes,
    step.names⟩
  have leaves := step.holds.leaves_perm
  simpa only [entries, List.map_append, List.map_map, Function.comp_def, ← slotPath_eq] using leaves

end Bot

end ChatLine
