import ChatLine.Proofs.Bot.Books
import ChatLine.Proofs.Tree.Putting

set_option autoImplicit false

namespace ChatLine.Bot

open Effects

/-- A command is placed in the tree of a bot, unless it is fresh and finds its path taken. -/
theorem run_place {bot : Bot} (sound : Children.Sound bot.groups.top) {path : String}
    (named : ∀ name ∈ Text.spaced path, name ≠ "") (command : Command) (fresh : Bool) :
    (changeTree (.place path command fresh)).run.run bot =
      if fresh && (bot.groups.top.sits? (Text.spaced path)).isSome then
        (.error (.duplicateCommand path), bot)
      else (.ok (), { bot with groups := bot.groups.put command (Text.spaced path) }) := by
  rw [run_changeTree]
  unfold Groups.change
  rw [Change.run_place named (Text.spaced_ne_nil path) command fresh
    ⟨bot.groups.top, bot.groups.next, bot.groups.dropped⟩ sound]
  dsimp only
  split <;> rfl

/-- A command is added to the tree of a bot, unless something is in the way. -/
theorem run_addAt {bot : Bot} (sound : Children.Sound bot.groups.top) {path : String}
    (named : ∀ name ∈ Text.spaced path, name ≠ "") (command : Command) :
    (changeTree (.addAt (Text.spaced path) command)).run.run bot =
        (.ok (), { bot with groups := bot.groups.put command (Text.spaced path) }) ∨
      ∃ error, (changeTree (.addAt (Text.spaced path) command)).run.run bot = (.error error, bot) := by
  rw [run_changeTree]
  unfold Groups.change
  rcases Change.run_addAt (Text.spaced_ne_nil path) named command
    ⟨bot.groups.top, bot.groups.next, bot.groups.dropped⟩ sound with added | ⟨error, blocked⟩
  · rw [added]
    exact .inl rfl
  · rw [blocked]
    exact .inr ⟨error, rfl⟩

theorem run_detach (bot : Bot) (path : String) :
    ((detach path).run.run bot).2 =
      { bot with groups := bot.groups.without (bot.groups.top.slot (Text.spaced path)) } := by
  rw [← slotPath_eq]
  rfl

end ChatLine.Bot
