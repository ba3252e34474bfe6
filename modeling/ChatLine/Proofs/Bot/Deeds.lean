import ChatLine.Proofs.Bot.Reached
import ChatLine.Proofs.Tree.Layout

set_option autoImplicit false

namespace ChatLine

namespace Children

/-- Where nothing sits at some names, there is nothing to take out at their slot. -/
theorem removeAt_slot_of_free {children : Children} (sound : Sound children) {names : List String}
    (named : ∀ name ∈ names, name ≠ "") (free : children.sits? names = none) :
    children.removeAt (children.slot names) = (none, children) := by
  induction names generalizing children with
  | nil =>
    have absent : children.get? "" = none := by
      cases found : children.get? "" with
      | none => rfl
      | some node =>
        cases node with
        | leaf command => simp [sits?, found] at free
        | group id below => exact absurd found (sound.plain id below)
    simp only [slot, removeAt, absent, NameMap.erase_eq_self absent]
  | cons name rest ih =>
    have first_named := named name List.mem_cons_self
    have rest_named := fun other inside => named other (List.mem_cons_of_mem name inside)
    cases found : children.get? name with
    | none =>
      rw [slot_plain (plain_of_absent found)]
      cases rest with
      | nil => simp only [removeAt, found, NameMap.erase_eq_self found]
      | cons next more => simp only [removeAt, found]
    | some node =>
      cases node with
      | leaf command =>
        rw [slot_plain (plain_of_leaf found)]
        cases rest with
        | nil => simp [sits?_leaf first_named found] at free
        | cons next more => simp only [removeAt, found]
      | group id below =>
        rw [sits?_group first_named found] at free
        have nothing := ih (sound.inner found).2 rest_named free
        obtain ⟨next, more, same⟩ := List.exists_cons_of_ne_nil (slot_ne_nil below rest)
        rw [same] at nothing
        rw [slot_group found, same]
        simp only [removeAt, found, nothing]

/-- Taking out what is at the slot of some names leaves nothing there and moves no other command. -/
theorem sits?_removeAt_slot {children : Children} (sound : Sound children) {names : List String}
    (named : ∀ name ∈ names, name ≠ "") :
    sits? (children.removeAt (children.slot names)).2 =
      Function.update children.sits? names none := by
  cases sits : children.sits? names with
  | none =>
    rw [removeAt_slot_of_free sound named sits, ← sits, Function.update_eq_self]
  | some command => exact (removeAt_slot sound sits).2.2

end Children

namespace Bot

open Effects

def commandAt? (bot : Bot) (path : String) : Option Command :=
  bot.groups.top.sits? (Text.spaced path)

namespace Ordered

variable {bot : Bot} {path : String}

theorem commandAt?_put (ordered : bot.Ordered) (valid : validatePath path = .ok ())
    (command : Command) :
    commandAt? { bot with groups := bot.groups.put command (Text.spaced path) } =
      Function.update bot.commandAt? path (some command) := by
  have spec := Children.put_spec ordered.sound (Text.spaced_ne_nil path)
    (named_of_validatePath valid) command bot.groups.next
  unfold commandAt?
  dsimp only [Groups.put]
  rw [spec.2]
  exact Function.update_comp_eq_of_injective _ Text.spaced_injective _ _

theorem commandAt?_detach (ordered : bot.Ordered) (valid : validatePath path = .ok ()) :
    commandAt? ((Bot.detach path).run.run bot).2 = Function.update bot.commandAt? path none := by
  rw [run_detach]
  have taken := Children.sits?_removeAt_slot ordered.sound (named_of_validatePath valid)
  unfold commandAt?
  dsimp only [Groups.without]
  rw [taken]
  exact Function.update_comp_eq_of_injective _ Text.spaced_injective _ _

end Ordered

theorem commandAt?_removeCommand (bot : Bot) (removed path : String) :
    commandAt? ((Bot.removeCommand removed).run.run bot).2 path = none ∨
      commandAt? ((Bot.removeCommand removed).run.run bot).2 path = bot.commandAt? path := by
  cases left : commandAt? ((Bot.removeCommand removed).run.run bot).2 path with
  | none => exact .inl rfl
  | some command => exact .inr (Children.sits?_of_removeAt left).symm

/-- Who put a command into the tree. -/
inductive Owner where
  | registry
  | aliases
  | application
  deriving DecidableEq, Repr

/-- A change of a bot, also the removal of whatever is at a path. -/
inductive Deed where
  | operation (change : Operation)
  | removeCommand (path : String)

namespace Deed

def on (bot : Bot) : Deed → Bot
  | .operation change => (History.after ⟨bot, []⟩ change).bot
  | .removeCommand path => ((Bot.removeCommand path).run.run bot).2

def puts? (bot : Bot) : Deed → Option (String × Owner)
  | .operation (.register command) =>
    match ((Bot.register command).run.run bot).1 with
    | .ok _ => some (command.path, .registry)
    | .error _ => none
  | .operation (.unregisterOverload fullName) =>
    match findOverload? fullName bot.registry with
    | some (path, before, _, after) =>
      if (before ++ after).isEmpty then none else some (path, .registry)
    | none => none
  | .operation (.addAlias name text) =>
    match ((Bot.addAlias name text).run.run bot).1 with
    | .ok _ => some (name, .aliases)
    | .error _ => none
  | .operation (.addCommand path command) =>
    match ((Bot.addCommand path command).run.run bot).1 with
    | .ok _ => some (path, .application)
    | .error _ => none
  | _ => none

def byRegistry : Deed → Bool
  | .operation (.register _) | .operation (.unregister _) | .operation (.unregisterOverload _) => true
  | _ => false

/-- What a deed does, by the path that it is about. -/
inductive Effect (bot : Bot) : Deed → Bot → Prop
  | idle {deed : Deed} (puts : deed.puts? bot = none) : Effect bot deed bot
  | registered {deed : Deed} {path : String} {commands : List Documented} {placed : Command}
      (registry : deed.byRegistry = true) (puts : deed.puts? bot = some (path, .registry))
      (valid : validatePath path = .ok ()) (built : commandFor commands = .ok placed)
      (free : bot.registry.get? path = none → bot.commandAt? path = none) :
      Effect bot deed { bot with
        groups := bot.groups.put placed (Text.spaced path)
        registry := bot.registry.set path commands }
  | unregistered {deed : Deed} {path : String} (registry : deed.byRegistry = true)
      (puts : deed.puts? bot = none) (listed : bot.registry.has path = true) :
      Effect bot deed ((detach path).run.run { bot with registry := bot.registry.erase path }).2
  | stored {name text : String} {command : Command}
      (puts : Deed.puts? bot (.operation (.addAlias name text)) = some (name, .aliases))
      (valid : validatePath name = .ok ()) (meant : Command.ofLine text = .ok command)
      (free : bot.commandAt? name = none) :
      Effect bot (.operation (.addAlias name text)) { bot with
        groups := bot.groups.put command (Text.spaced name)
        aliases := bot.aliases.set name text }
  | discarded {name text : String} (listed : bot.aliases.get? name = some text) :
      Effect bot (.operation (.removeAlias name))
        ((detach name).run.run { bot with aliases := bot.aliases.erase name }).2
  | added {path : String} {command : Command}
      (puts : Deed.puts? bot (.operation (.addCommand path command)) = some (path, .application))
      (valid : validatePath path = .ok ()) (free : bot.commandAt? path = none) :
      Effect bot (.operation (.addCommand path command))
        { bot with groups := bot.groups.put command (Text.spaced path) }
  | removed (path : String) :
      Effect bot (.removeCommand path) ((Bot.removeCommand path).run.run bot).2

end Deed

/-- Adding a command to the tree succeeds only where no command is, and puts it there. -/
theorem run_addAt_of_ok {bot : Bot} (ordered : bot.Ordered) {path : String}
    (valid : validatePath path = .ok ()) (command : Command) :
    ((changeTree (.addAt (Text.spaced path) command)).run.run bot =
        (.ok (), { bot with groups := bot.groups.put command (Text.spaced path) }) ∧
      bot.commandAt? path = none) ∨
    ∃ error, (changeTree (.addAt (Text.spaced path) command)).run.run bot = (.error error, bot) := by
  obtain ⟨groups, -, -, done⟩ := changeTree_spec
    (Change.puts_addAt (Text.spaced_ne_nil path) (named_of_validatePath valid) command)
    bot ordered.sound
  rcases run_addAt ordered.sound (named_of_validatePath valid) command with added | blocked
  · rw [added] at done
    exact .inl ⟨added, done.2 rfl⟩
  · exact .inr blocked

namespace Deed

variable {bot : Bot}

theorem effect_register (ordered : bot.Ordered) (command : Documented) :
    Effect bot (.operation (.register command))
      (Deed.on bot (.operation (.register command))) := by
  have puts : Deed.puts? bot (.operation (.register command)) =
      match ((Bot.register command).run.run bot).1 with
      | .ok _ => some (command.path, .registry)
      | .error _ => none := rfl
  show Effect bot _ ((Bot.register command).run.run bot).2
  rcases register_cases command bot with
    ⟨error, refused⟩ | ⟨placed, result, after, valid, -, built, placing, runs⟩
  · rw [refused] at puts ⊢
    exact .idle puts
  · rw [runs] at puts ⊢
    rw [run_place ordered.sound (named_of_validatePath valid)] at placing
    by_cases taken : ((bot.registeredAt command.path).isEmpty &&
        (bot.groups.top.sits? (Text.spaced command.path)).isSome) = true
    · rw [if_pos taken] at placing
      cases placing
      exact .idle puts
    · rw [if_neg taken] at placing
      cases placing
      refine .registered rfl puts valid built fun absent => ?_
      have unlisted : (bot.registeredAt command.path).isEmpty = true := by
        rw [registeredAt, absent]
        rfl
      rw [unlisted, Bool.true_and, Option.not_isSome_iff_eq_none] at taken
      exact taken

theorem effect_unregisterOverload (ordered : bot.Ordered) (sorted : bot.registry.Sorted)
    (fullName : String) :
    Effect bot (.operation (.unregisterOverload fullName))
      (Deed.on bot (.operation (.unregisterOverload fullName))) := by
  have run := run_unregisterOverload fullName bot
  have puts : Deed.puts? bot (.operation (.unregisterOverload fullName)) =
      match findOverload? fullName bot.registry with
      | some (path, before, _, after) =>
        if (before ++ after).isEmpty then none else some (path, .registry)
      | none => none := rfl
  show Effect bot _ ((Bot.unregisterOverload fullName).run bot).2
  cases overload : findOverload? fullName bot.registry with
  | none =>
    rw [overload] at run puts
    rw [run]
    exact .idle puts
  | some parts =>
    obtain ⟨path, before, removed, after⟩ := parts
    have inside := mem_of_findOverload? overload
    have found := (NameMap.get?_eq_some_iff sorted path _).2 inside
    rw [overload] at run puts
    dsimp only at run puts
    by_cases last : (before ++ after).isEmpty = true
    · rw [if_pos last] at run puts
      rw [run]
      refine .unregistered rfl puts (NameMap.has_iff.2 ?_)
      rw [found]
      exact Option.some_ne_none _
    · rw [if_neg last] at run puts
      have present : before ++ after ≠ [] := fun empty => last (List.isEmpty_iff.2 empty)
      obtain ⟨placed, built⟩ := exists_commandFor present
      have valid := ordered.registry _ inside
      rw [built] at run
      dsimp only at run
      rw [run_place (ordered.setRegistry valid _).sound (named_of_validatePath valid)] at run
      rw [run]
      refine .registered rfl puts valid built fun absent => ?_
      rw [found] at absent
      cases absent

theorem effect_addAlias (ordered : bot.Ordered) (name text : String) :
    Effect bot (.operation (.addAlias name text))
      (Deed.on bot (.operation (.addAlias name text))) := by
  have puts : Deed.puts? bot (.operation (.addAlias name text)) =
      match ((Bot.addAlias name text).run.run bot).1 with
      | .ok _ => some (name, .aliases)
      | .error _ => none := rfl
  show Effect bot _ ((Bot.addAlias name text).run.run bot).2
  rcases addAlias_cases name text bot with
    ⟨error, refused⟩ | ⟨command, result, after, valid, -, meant, adding, runs⟩
  · rw [refused] at puts ⊢
    exact .idle puts
  · rw [runs] at puts ⊢
    rcases run_addAt_of_ok ordered valid command with ⟨added, free⟩ | ⟨error, blocked⟩
    · cases adding.symm.trans added
      exact .stored puts valid meant free
    · cases adding.symm.trans blocked
      exact .idle puts

theorem effect_addCommand (ordered : bot.Ordered) (path : String) (command : Command) :
    Effect bot (.operation (.addCommand path command))
      (Deed.on bot (.operation (.addCommand path command))) := by
  have run := run_addCommand path command bot
  have puts : Deed.puts? bot (.operation (.addCommand path command)) =
      match ((Bot.addCommand path command).run.run bot).1 with
      | .ok _ => some (path, .application)
      | .error _ => none := rfl
  have after : Deed.on bot (.operation (.addCommand path command)) =
      ((Bot.addCommand path command).run.run bot).2 := by
    unfold Deed.on History.after
    dsimp only
    generalize (Bot.addCommand path command).run.run bot = made
    obtain ⟨error | done, later⟩ := made <;> rfl
  rw [after]
  cases valid : validatePath path with
  | error error =>
    rw [valid] at run
    rw [run] at puts ⊢
    exact .idle puts
  | ok _ =>
    rw [valid] at run
    dsimp only at run
    rcases run_addAt_of_ok ordered valid command with ⟨added, free⟩ | ⟨error, blocked⟩
    · rw [added] at run
      rw [run] at puts ⊢
      exact .added puts valid free
    · rw [blocked] at run
      rw [run] at puts ⊢
      exact .idle puts

/-- Every deed has one of these effects. -/
theorem effect_on (ordered : bot.Ordered) (sorted : bot.registry.Sorted) (deed : Deed) :
    Effect bot deed (deed.on bot) := by
  match deed with
  | .operation (.register command) => exact effect_register ordered command
  | .operation (.unregister path) =>
    show Effect bot _ ((Bot.unregister path).run bot).2
    rw [run_unregister]
    cases found : bot.registry.get? path with
    | none => exact .idle rfl
    | some removed => exact .unregistered rfl rfl (NameMap.has_iff.2 (by simp [found]))
  | .operation (.unregisterOverload fullName) =>
    exact effect_unregisterOverload ordered sorted fullName
  | .operation (.addAlias name text) => exact effect_addAlias ordered name text
  | .operation (.removeAlias name) =>
    show Effect bot _ ((Bot.removeAlias name).run.run bot).2
    rw [run_removeAlias]
    cases found : bot.aliases.get? name with
    | none => exact .idle rfl
    | some text =>
      have effect : Effect bot (.operation (.removeAlias name)) _ := .discarded found
      dsimp only
      generalize (detach name).run.run { bot with aliases := bot.aliases.erase name } = made
        at effect ⊢
      obtain ⟨error | done, later⟩ := made <;> exact effect
  | .operation (.addCommand path command) => exact effect_addCommand ordered path command
  | .removeCommand path => exact .removed path

end Deed

end Bot

end ChatLine
