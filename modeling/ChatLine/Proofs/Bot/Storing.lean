import ChatLine.Proofs.Bot.Operations
import ChatLine.Proofs.Line.Faults

set_option autoImplicit false

namespace ChatLine

namespace Change

open Effects

/-- Two changes end alike in every group, whatever they make of it. -/
def EndsLike (first second : Change Unit) : Prop :=
  ∀ growth, (first.run.run growth).1 = (second.run.run growth).1

theorem EndsLike.within {first second : Change Unit} (alike : first.EndsLike second) (name : String)
    (absorb : Bool) : (within name absorb first).EndsLike (within name absorb second) := by
  intro growth
  rw [run_within, run_within]
  rcases (childGroup name absorb).run.run growth with ⟨error | ⟨id, children⟩, outer⟩
  · rfl
  · exact alike { outer with children := children }

theorem EndsLike.descend {first second : Change Unit} (alike : first.EndsLike second) (absorb : Bool)
    (path : List String) : (descend absorb first path).EndsLike (descend absorb second path) := by
  induction path with
  | nil => exact alike
  | cons name rest ih => exact ih.within name absorb

theorem endsLike_insert (name : String) (taken : CommandError) (command other : Command) :
    (tryCatch (insert name (.leaf command)) fun _ => throw taken : Change Unit).EndsLike
      (tryCatch (insert name (.leaf other)) fun _ => throw taken) := by
  intro growth
  rw [run_tryCatch, run_tryCatch, run_insert, run_insert]
  cases growth.children.has name <;> rfl

/-- Whether a command can be added at a path is no matter of the command. -/
theorem endsLike_addAt (path : List String) (command other : Command) :
    (addAt path command).EndsLike (addAt path other) := by
  unfold addAt
  split
  · exact fun growth => rfl
  · exact (endsLike_insert _ _ command other).descend false _

end Change

/-- Every line can be stored: it has a command, which is what the line means. -/
theorem Command.exists_ofLine (text : String) :
    ∃ command, (Expr.read text).Means command ∧ ofLine text = .ok (.stored text command) := by
  obtain ⟨command, means⟩ := (Expr.clean_read text).exists_means
  have meant := (Expr.toCommand_eq_ok_iff _ _).2 means
  exact ⟨command, means, ofLine_eq_ok_iff.2 ⟨command, meant, rfl⟩⟩

namespace Bot

theorem fst_changeTree {first second : Change Unit} (alike : first.EndsLike second) (bot : Bot) :
    ((changeTree first).run.run bot).1 = ((changeTree second).run.run bot).1 := by
  rw [run_changeTree, run_changeTree]
  exact alike _

/-- How the storing of a line ends: with the error for its name, or as the adding of its command. -/
theorem fst_addAlias {text : String} {command : Command} (stored : Command.ofLine text = .ok command)
    (bot : Bot) (name : String) :
    ((addAlias name text).run.run bot).1 =
      match validatePath name with
      | .error error => .error error
      | .ok _ =>
        if bot.aliases.has name then .error (.duplicateCommand name)
        else ((changeTree (.addAt (Text.spaced name) command)).run.run bot).1 := by
  rw [run_addAlias, stored]
  cases validatePath name with
  | error error => rfl
  | ok _ =>
    dsimp only
    split
    · rfl
    · rcases (changeTree (.addAt (Text.spaced name) command)).run.run bot with
        ⟨error | done, after⟩ <;> rfl

/-- A line is stored under a name, or refused there, whatever it says. -/
theorem fst_addAlias_congr (bot : Bot) (name text other : String) :
    ((addAlias name text).run.run bot).1 = ((addAlias name other).run.run bot).1 := by
  obtain ⟨command, -, stored⟩ := Command.exists_ofLine text
  obtain ⟨another, -, otherStored⟩ := Command.exists_ofLine other
  have ends := fst_changeTree
    (Change.endsLike_addAt (Text.spaced name) (.stored text command) (.stored other another)) bot
  rw [fst_addAlias stored, fst_addAlias otherStored, ends]

/-- Translation is total on lines. A part of a line, be it one that was read or not, has the command
that it means; it fails exactly if there is a complaint in it, with what the first one in preorder
says. No line is read with a complaint in it. So each line has a command, by which it can be stored,
and whether and with what error a line is refused under a name is no matter of what the line says. -/
theorem every_line_means :
    (∀ expr : Expr,
      (∀ command, expr.toCommand = .ok command ↔ expr.Means command) ∧
      (∀ error, expr.toCommand = .error error ↔
        ∃ description, Expr.firstFault? (expr.preorder 0) = some description ∧
          error = .internal ("cannot execute an error node: " ++ description)) ∧
      ((∃ error, expr.toCommand = .error error) ↔
        ∃ path description span, expr.at? path = some (.fault description span))) ∧
    ∀ line : String,
      (∀ path description span, (Expr.read line).at? path ≠ some (.fault description span)) ∧
      (∃ command, (Expr.read line).Means command ∧ (Expr.read line).toCommand = .ok command ∧
        Command.ofLine line = .ok (.stored line command)) ∧
      ∀ (bot : Bot) (name other : String),
        ((addAlias name line).run.run bot).1 = ((addAlias name other).run.run bot).1 := by
  refine ⟨fun expr => ⟨expr.toCommand_eq_ok_iff, expr.toCommand_eq_error_iff, ?_⟩, fun line => ?_⟩
  · rw [Expr.exists_toCommand_eq_error_iff, Expr.clean_iff]
    simp only [ne_eq, not_forall, not_not]
  · obtain ⟨command, means, stored⟩ := Command.exists_ofLine line
    have meant := (Expr.toCommand_eq_ok_iff _ _).2 means
    exact ⟨Expr.clean_iff.1 (Expr.clean_read line), ⟨command, means, meant, stored⟩,
      fun bot name other => fst_addAlias_congr bot name line other⟩

end Bot

end ChatLine
