import ChatLine.Proofs.Bot.Operations
import ChatLine.Proofs.Bot.Paths
import ChatLine.Proofs.Bot.Putting
import ChatLine.Proofs.Tree.Numbers

set_option autoImplicit false

namespace ChatLine

namespace Children

variable {children : Children}

theorem Sound.removeAt (sound : Sound children) (path : List String) :
    Sound (children.removeAt path).2 := by
  refine removeAt_keeps (fun sound found => (sound.inner found).2) (fun sound => sound.erase) ?_
    sound path
  intro children name id below left sound found present left_sound
  refine sound.set (.group id present left_sound) ?_
  rintro rfl
  exact absurd found (sound.plain id below)

theorem sits?_of_erase {name : String} {names : List String} {command : Command}
    (sits : sits? (children.erase name) names = some command) :
    children.sits? names = some command := by
  by_cases same : names.headD "" = name
  · have absent : NameMap.get? (children.erase name) (names.headD "") = none := by
      rw [NameMap.get?_erase, if_pos same]
    cases names with
    | nil =>
      simp only [List.headD_nil] at absent
      simp only [sits?, absent] at sits
      cases sits
    | cons first rest =>
      rw [List.headD_cons] at absent
      rw [sits?_absent absent] at sits
      cases sits
  · rw [← sits, sits?_congr]
    rw [NameMap.get?_erase, if_neg same]

theorem sits?_of_removeAt {path names : List String} {command : Command}
    (sits : sits? (children.removeAt path).2 names = some command) :
    children.sits? names = some command := by
  induction path generalizing children names with
  | nil => exact sits
  | cons name rest ih =>
    by_cases ends : rest = []
    · subst ends
      exact sits?_of_erase sits
    · obtain ⟨next, more, rfl⟩ := List.exists_cons_of_ne_nil ends
      unfold removeAt at sits
      split at sits
      · rename_i id below found
        have inner : ∀ {names}, sits? (Children.removeAt below (next :: more)).2 names = some command →
            sits? below names = some command := ih
        generalize Children.removeAt below (next :: more) = parts at inner sits
        obtain ⟨_ | removed, left⟩ := parts
        · exact sits
        · dsimp only at inner sits
          split at sits
          · exact sits?_of_erase sits
          · by_cases same : names.headD "" = name
            · cases names with
              | nil =>
                simp only [List.headD_nil] at same
                simp only [sits?, NameMap.get?_set, if_pos same] at sits
                cases sits
              | cons first others =>
                have named := named_of_sits? sits first List.mem_cons_self
                rw [List.headD_cons] at same
                subst same
                rw [sits?_group named (by rw [NameMap.get?_set, if_pos rfl])] at sits
                rw [sits?_group named found]
                exact inner sits
            · rw [← sits, sits?_congr]
              rw [NameMap.get?_set, if_neg same]
      · exact sits

end Children

namespace Bot

/-- The tree is in good order, its groups have numbers of their own, its commands sit at words of
small letters, and so do the registered paths consist of them. -/
structure Ordered (bot : Bot) : Prop where
  sound : Children.Sound bot.groups.top
  numbered : bot.groups.Numbered
  words : ∀ names command, bot.groups.top.sits? names = some command →
    ∀ name ∈ names, isPathWord name = true
  registry : ∀ entry ∈ bot.registry, validatePath entry.1 = .ok ()

namespace Ordered

variable {bot : Bot}

theorem empty (config : Config) : Ordered (.empty config) where
  sound := Children.sound_nil
  numbered := .empty
  words := by
    intro names command sits
    have nothing : Children.sits? [] names = some command := sits
    rw [Children.sits?_nil] at nothing
    cases nothing
  registry := fun _ inside => nomatch inside

theorem put (ordered : bot.Ordered) {path : String} (valid : validatePath path = .ok ())
    (command : Command) :
    Ordered { bot with groups := bot.groups.put command (Text.spaced path) } := by
  have named := named_of_validatePath valid
  have spec := Children.put_spec ordered.sound (Text.spaced_ne_nil path) named command
    bot.groups.next
  refine ⟨spec.1, ordered.numbered.put ordered.sound named _, ?_, ordered.registry⟩
  intro names other sits
  have moved : Children.sits? (bot.groups.top.put command _ _) names = some other := sits
  rw [spec.2, Function.update_apply] at moved
  split at moved
  · rename_i same
    rw [same]
    exact isPathWord_of_validatePath valid
  · exact ordered.words names other moved

theorem without (ordered : bot.Ordered) (path : List String) :
    Ordered { bot with groups := bot.groups.without path } :=
  { ordered with
    sound := ordered.sound.removeAt path
    numbered := ordered.numbered.without ordered.sound path
    words := fun names command sits => ordered.words names command (Children.sits?_of_removeAt sits) }

theorem setRegistry (ordered : bot.Ordered) {path : String} (valid : validatePath path = .ok ())
    (commands : List Documented) :
    Ordered { bot with registry := bot.registry.set path commands } :=
  { ordered with
    registry := by
      intro entry inside
      rcases NameMap.mem_set inside with rfl | old
      · exact valid
      · exact ordered.registry entry old }

theorem eraseRegistry (ordered : bot.Ordered) (path : String) :
    Ordered { bot with registry := bot.registry.erase path } :=
  { ordered with
    registry := fun entry inside => ordered.registry entry (List.mem_filter.1 inside).1 }

theorem place (ordered : bot.Ordered) {path : String} (valid : validatePath path = .ok ())
    (command : Command) (fresh : Bool) :
    Ordered ((changeTree (.place path command fresh)).run.run bot).2 := by
  rw [run_place ordered.sound (named_of_validatePath valid)]
  split
  · exact ordered
  · exact ordered.put valid command

theorem addAt (ordered : bot.Ordered) {path : String} (valid : validatePath path = .ok ())
    (command : Command) :
    Ordered ((changeTree (.addAt (Text.spaced path) command)).run.run bot).2 := by
  rcases run_addAt ordered.sound (named_of_validatePath valid) command with added | ⟨error, blocked⟩
  · rw [added]
    exact ordered.put valid command
  · rw [blocked]
    exact ordered

end Ordered

/-- The parts of which the operations are made keep a property of bots: the changes of the tree, at
paths of words, and the changes of the books. -/
structure Invariant (holds : Bot → Prop) : Prop where
  registry : ∀ {bot}, holds bot → ∀ entry ∈ bot.registry, validatePath entry.1 = .ok ()
  place : ∀ {bot path}, holds bot → validatePath path = .ok () → ∀ command fresh,
    holds ((changeTree (.place path command fresh)).run.run bot).2
  addAt : ∀ {bot path}, holds bot → validatePath path = .ok () → ∀ command,
    holds ((changeTree (.addAt (Text.spaced path) command)).run.run bot).2
  removeAt : ∀ {bot}, holds bot → ∀ path, holds ((changeTree (.removeAt path)).run.run bot).2
  setRegistry : ∀ {bot path}, holds bot → validatePath path = .ok () → ∀ commands,
    holds { bot with registry := bot.registry.set path commands }
  eraseRegistry : ∀ {bot}, holds bot → ∀ path,
    holds { bot with registry := bot.registry.erase path }
  aliases : ∀ {bot}, holds bot → ∀ aliases, holds { bot with aliases := aliases }

namespace Invariant

variable {holds : Bot → Prop} {bot : Bot}

theorem register (kept : Invariant holds) (before : holds bot) (command : Documented) :
    holds ((Bot.register command).run.run bot).2 := by
  rcases register_cases command bot with
    ⟨error, refused⟩ | ⟨placed, result, after, valid, -, -, placing, runs⟩
  · rw [refused]
    exact before
  · have kept_after := kept.place before valid placed (bot.registeredAt command.path).isEmpty
    rw [placing] at kept_after
    rw [runs]
    cases result with
    | error error => exact kept_after
    | ok _ => exact kept.setRegistry kept_after valid _

theorem unregister (kept : Invariant holds) (before : holds bot) (path : String) :
    holds ((Bot.unregister path).run bot).2 := by
  rw [run_unregister]
  cases bot.registry.get? path with
  | none => exact before
  | some removed => exact kept.removeAt (kept.eraseRegistry before path) _

theorem unregisterOverload (kept : Invariant holds) (before : holds bot) (fullName : String) :
    holds ((Bot.unregisterOverload fullName).run bot).2 := by
  rw [run_unregisterOverload]
  cases overload : findOverload? fullName bot.registry with
  | none => exact before
  | some parts =>
    obtain ⟨path, first, removed, last⟩ := parts
    have valid := kept.registry before _ (mem_of_findOverload? overload)
    dsimp only
    split
    · exact kept.removeAt (kept.eraseRegistry before path) _
    · have left := kept.setRegistry before valid (first ++ last)
      cases commandFor (first ++ last) with
      | error error => exact left
      | ok placed => exact kept.place left valid placed false

theorem addAlias (kept : Invariant holds) (before : holds bot) (name text : String) :
    holds ((Bot.addAlias name text).run.run bot).2 := by
  rcases addAlias_cases name text bot with
    ⟨error, refused⟩ | ⟨command, result, after, valid, -, -, adding, runs⟩
  · rw [refused]
    exact before
  · have kept_after := kept.addAt before valid command
    rw [adding] at kept_after
    rw [runs]
    cases result with
    | error error => exact kept_after
    | ok _ => exact kept.aliases kept_after _

theorem removeAlias (kept : Invariant holds) (before : holds bot) (name : String) :
    holds ((Bot.removeAlias name).run.run bot).2 := by
  rw [run_removeAlias]
  cases bot.aliases.get? name with
  | none => exact before
  | some text => exact kept.removeAt (kept.aliases before _) _

theorem addCommand (kept : Invariant holds) (before : holds bot) (path : String)
    (command : Command) : holds ((Bot.addCommand path command).run.run bot).2 := by
  rw [run_addCommand]
  cases valid : validatePath path with
  | error error => exact before
  | ok _ => exact kept.addAt before valid command

theorem operation (kept : Invariant holds) (before : holds bot) (operation : Operation) :
    holds (History.after ⟨bot, []⟩ operation).bot := by
  cases operation with
  | register command => exact kept.register before command
  | unregister path => exact kept.unregister before path
  | unregisterOverload fullName => exact kept.unregisterOverload before fullName
  | addAlias name text => exact kept.addAlias before name text
  | removeAlias name => exact kept.removeAlias before name
  | addCommand path command =>
    have after := kept.addCommand before path command
    unfold History.after
    dsimp only
    generalize (Bot.addCommand path command).run.run bot = made at after ⊢
    obtain ⟨error | done, later⟩ := made <;> exact after

theorem removeCommand (kept : Invariant holds) (before : holds bot) (path : String) :
    holds ((Bot.removeCommand path).run.run bot).2 :=
  kept.removeAt before (Text.spaced path)

end Invariant

theorem invariant_ordered : Invariant Ordered where
  registry := Ordered.registry
  place := fun ordered valid => ordered.place valid
  addAt := fun ordered valid => ordered.addAt valid
  removeAt := Ordered.without
  setRegistry := fun ordered valid => ordered.setRegistry valid
  eraseRegistry := Ordered.eraseRegistry
  aliases := fun ordered _ => { ordered with }

/-- The bots that an application can have: it begins without commands, and every operation may follow,
also the removal of whatever is at a path. -/
inductive Reached : Bot → Prop
  | empty (config : Config) : Reached (.empty config)
  | operation {bot : Bot} (reached : Reached bot) (operation : Operation) :
    Reached (History.after ⟨bot, []⟩ operation).bot
  | removeCommand {bot : Bot} (reached : Reached bot) (path : String) :
    Reached ((Bot.removeCommand path).run.run bot).2

theorem Reached.after {history : History} (reached : Reached history.bot) (operation : Operation) :
    Reached (history.after operation).bot := by
  have same : (history.after operation).bot = (History.after ⟨history.bot, []⟩ operation).bot := by
    cases operation with
    | addCommand path command =>
      simp only [History.after]
      split <;> rfl
    | _ => rfl
  rw [same]
  exact reached.operation operation

theorem reached_ofOperations (config : Config) (operations : List Operation) :
    Reached (History.ofOperations config operations).bot := by
  have kept : ∀ history : History, Reached history.bot →
      Reached (operations.foldl History.after history).bot := by
    induction operations with
    | nil => exact fun history reached => reached
    | cons operation rest ih => exact fun history reached => ih _ (reached.after operation)
  exact kept ⟨.empty config, []⟩ (.empty config)

theorem Reached.ordered {bot : Bot} (reached : Reached bot) : bot.Ordered := by
  induction reached with
  | empty config => exact .empty config
  | operation _ operation ih => exact invariant_ordered.operation ih operation
  | removeCommand _ path ih => exact invariant_ordered.removeCommand ih path

end Bot

end ChatLine
