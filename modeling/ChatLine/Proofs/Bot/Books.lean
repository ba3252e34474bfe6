import ChatLine.Bot.Aliases
import ChatLine.Bot.Registry
import ChatLine.Proofs.Tree.Changes
import ChatLine.Proofs.Tree.Listing

set_option autoImplicit false

namespace ChatLine

namespace Text

theorem spaced_ne_nil (text : String) : spaced text ≠ [] := by
  unfold spaced
  rw [ne_eq, List.map_eq_nil_iff]
  exact cutAt_ne_nil _ _

end Text

namespace Bot

open Effects

/-- The commands added to a bot without documentation, by their paths. -/
abbrev Added := List (String × Command)

/-- What the command tree should hold, by its books. -/
def entries (bot : Bot) (added : Added) : List (List String × Except CommandError Command) :=
  (bot.registry.map fun entry => (Text.spaced entry.1, commandFor entry.2)) ++
    (bot.aliases.map (fun entry => (Text.spaced entry.1, Command.ofLine entry.2)) ++
      added.map fun entry => (Text.spaced entry.1, .ok entry.2))

/-- The tree is in step with the books, and no two registered commands have one full name. -/
structure InStep (bot : Bot) (added : Added) : Prop where
  holds : bot.groups.top.Holds (bot.entries added)
  registry : bot.registry.Sorted
  aliases : bot.aliases.Sorted
  names : (bot.registered.map Documented.fullName).Nodup

theorem named_of_validatePath {path : String} (valid : validatePath path = .ok ()) :
    ∀ name ∈ Text.spaced path, name ≠ "" := by
  intro name inside empty
  unfold validatePath at valid
  split at valid
  · rename_i words
    have word := List.all_eq_true.1 words name inside
    simp [isPathWord, empty] at word
  · cases valid

theorem exists_commandFor {commands : List Documented} (present : commands ≠ []) :
    ∃ command, commandFor commands = .ok command := by
  match commands with
  | [] => exact absurd rfl present
  | [single] => exact ⟨_, rfl⟩
  | first :: second :: rest => exact ⟨_, rfl⟩

section Entries

variable {bot : Bot} {path : String}

theorem entries_set_registry (added : Added) (sorted : bot.registry.Sorted) (path : String)
    (commands : List Documented) (groups : Groups) :
    (entries { bot with groups := groups, registry := bot.registry.set path commands } added).Perm
      ((Text.spaced path, commandFor commands) ::
        entries { bot with registry := bot.registry.erase path } added) :=
  ((sorted.set_perm path commands).map _).append_right _

theorem entries_of_registry (added : Added) (sorted : bot.registry.Sorted)
    {commands : List Documented}
    (found : bot.registry.get? path = some commands) :
    (bot.entries added).Perm
      ((Text.spaced path, commandFor commands) ::
        entries { bot with registry := bot.registry.erase path } added) :=
  ((sorted.perm_cons_erase found).map _).append_right _

theorem entries_set_aliases (added : Added) (sorted : bot.aliases.Sorted) (name text : String)
    (groups : Groups) :
    (entries { bot with groups := groups, aliases := bot.aliases.set name text } added).Perm
      ((Text.spaced name, Command.ofLine text) ::
        entries { bot with aliases := bot.aliases.erase name } added) := by
  have inner := ((sorted.set_perm name text).map fun entry : String × String =>
    (Text.spaced entry.1, Command.ofLine entry.2)).append_right
      (added.map fun entry => (Text.spaced entry.1, (.ok entry.2 : Except CommandError Command)))
  exact (inner.append_left _).trans List.perm_middle

theorem entries_of_aliases (added : Added) (sorted : bot.aliases.Sorted) {name text : String}
    (found : bot.aliases.get? name = some text) :
    (bot.entries added).Perm
      ((Text.spaced name, Command.ofLine text) ::
        entries { bot with aliases := bot.aliases.erase name } added) := by
  have inner := ((sorted.perm_cons_erase found).map fun entry : String × String =>
    (Text.spaced entry.1, Command.ofLine entry.2)).append_right
      (added.map fun entry => (Text.spaced entry.1, (.ok entry.2 : Except CommandError Command)))
  exact (inner.append_left _).trans List.perm_middle

theorem entries_cons_added (bot : Bot) (added : Added) (path : String) (command : Command) :
    (bot.entries ((path, command) :: added)).Perm
      ((Text.spaced path, .ok command) :: bot.entries added) := by
  unfold entries
  rw [List.map_cons]
  refine List.Perm.trans ?_ List.perm_middle
  exact List.perm_middle.append_left _

end Entries

section Changes

theorem run_changeTree {α : Type} (change : Change α) (bot : Bot) :
    (changeTree change).run.run bot =
      ((bot.groups.change change).1, { bot with groups := (bot.groups.change change).2 }) := by
  unfold changeTree
  rw [run_bind, run_get]
  dsimp only
  rcases bot.groups.change change with ⟨_ | _, groups⟩ <;> rfl

/-- What a change that puts a command does to the tree of a bot. -/
theorem changeTree_spec {change : Change Unit} {names : List String} {command : Command}
    {fresh : Bool} (puts : change.Puts names command fresh) (bot : Bot)
    (sound : Children.Sound bot.groups.top) :
    ∃ groups, ((changeTree change).run.run bot).2 = { bot with groups := groups } ∧
      Children.Sound groups.top ∧
      match ((changeTree change).run.run bot).1 with
      | .ok _ =>
        Children.sits? groups.top =
            Function.update (Children.sits? bot.groups.top) names (some command) ∧
          (fresh = true → Children.sits? bot.groups.top names = none)
      | .error _ => fresh = true ∧ Children.sits? groups.top = Children.sits? bot.groups.top := by
  rw [run_changeTree]
  refine ⟨_, rfl, ?_⟩
  have done := puts ⟨bot.groups.top, bot.groups.next, bot.groups.dropped⟩ sound
  unfold Change.PutsIn at done
  unfold Groups.change
  generalize change.run.run ⟨bot.groups.top, bot.groups.next, bot.groups.dropped⟩ = made at done ⊢
  rcases made with ⟨error | value, growth⟩
  · obtain ⟨fresh_true, -, -, after_sound, same⟩ := done
    exact ⟨after_sound, fresh_true, same⟩
  · exact done

theorem slotPath_eq (bot : Bot) (path : String) :
    bot.slotPath path = Children.slot bot.groups.top (Text.spaced path) := by
  rw [Children.slot_eq _ (Text.spaced_ne_nil path)]
  rfl

/-- Detaching what sits at a path takes it out of the tree, and nothing else. -/
theorem detach_spec (bot : Bot) {path : String} {command : Command}
    (sound : Children.Sound bot.groups.top)
    (sits : Children.sits? bot.groups.top (Text.spaced path) = some command) :
    ∃ groups, ((detach path).run.run bot).2 = { bot with groups := groups } ∧
      Children.Sound groups.top ∧
      Children.sits? groups.top =
        Function.update (Children.sits? bot.groups.top) (Text.spaced path) none := by
  obtain ⟨-, after_sound, moved⟩ := Children.removeAt_slot sound sits
  rw [← slotPath_eq] at after_sound moved
  exact ⟨_, rfl, after_sound, moved⟩

end Changes

section Operations

variable {bot : Bot} {added : Added}

/-- A tree in step with the books has a command at every path in them. -/
theorem InStep.sits_of_registry (step : bot.InStep added) {path : String}
    {commands : List Documented} (found : bot.registry.get? path = some commands) :
    ∃ command, commandFor commands = .ok command ∧
      Children.sits? bot.groups.top (Text.spaced path) = some command := by
  have listed := (entries_of_registry added step.registry found).mem_iff.2 List.mem_cons_self
  exact step.holds.sits_of_mem listed

theorem InStep.sits_of_aliases (step : bot.InStep added) {name text : String}
    (found : bot.aliases.get? name = some text) :
    ∃ command, Command.ofLine text = .ok command ∧
      Children.sits? bot.groups.top (Text.spaced name) = some command := by
  have listed := (entries_of_aliases added step.aliases found).mem_iff.2 List.mem_cons_self
  exact step.holds.sits_of_mem listed

/-- A change of the tree alone keeps it in step if it moves no command. -/
theorem InStep.unmoved (step : bot.InStep added) {groups : Groups}
    (sound : Children.Sound groups.top)
    (same : Children.sits? groups.top = Children.sits? bot.groups.top) :
    InStep { bot with groups := groups } added :=
  { step with holds := step.holds.unmoved sound same }

theorem registered_set_perm (sorted : bot.registry.Sorted) (path : String)
    (commands : List Documented) :
    (registered { bot with registry := bot.registry.set path commands }).Perm
      (commands ++ registered { bot with registry := bot.registry.erase path }) :=
  ((sorted.set_perm path commands).map Prod.snd).flatten

theorem registered_perm (sorted : bot.registry.Sorted) {path : String} {commands : List Documented}
    (found : bot.registry.get? path = some commands) :
    bot.registered.Perm
      (commands ++ registered { bot with registry := bot.registry.erase path }) :=
  ((sorted.perm_cons_erase found).map Prod.snd).flatten

end Operations

end Bot

end ChatLine
