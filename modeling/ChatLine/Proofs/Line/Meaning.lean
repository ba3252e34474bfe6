import ChatLine.Bot.Aliases
import Mathlib.Data.List.Forall2

set_option autoImplicit false

namespace ChatLine

namespace Expr

/-- What a part means: a text is itself, and a call is the entry of the tree, applied to what its
parameters mean, one after the other. A complaint means nothing. -/
inductive Means : Expr → Command → Prop where
  | text (value : String) (span : Span) : Means (.text value span) (.literal value)
  | call {parameters : List Expr} {bound : List Command} (span : Span)
      (each : List.Forall₂ Means parameters bound) :
      Means (.call parameters span) (.applied .root bound)

theorem toCommand_call_eq_ok_iff {parameters : List Expr} {span : Span} {command : Command} :
    (call parameters span).toCommand = .ok command ↔
      ∃ bound, toCommands parameters = .ok bound ∧ command = .applied .root bound := by
  simp only [toCommand]
  cases toCommands parameters with
  | error error => exact ⟨nofun, fun ⟨_, none_bound, _⟩ => nomatch none_bound⟩
  | ok bound =>
    constructor
    · rintro ⟨⟩
      exact ⟨bound, rfl, rfl⟩
    · rintro ⟨_, ⟨⟩, rfl⟩
      rfl

theorem toCommands_cons_eq_ok_iff {expr : Expr} {rest : List Expr} {commands : List Command} :
    toCommands (expr :: rest) = .ok commands ↔
      ∃ command others, expr.toCommand = .ok command ∧ toCommands rest = .ok others ∧
        commands = command :: others := by
  simp only [toCommands]
  cases expr.toCommand with
  | error error => exact ⟨nofun, fun ⟨_, _, none_meant, _⟩ => nomatch none_meant⟩
  | ok command =>
    cases toCommands rest with
    | error error => exact ⟨nofun, fun ⟨_, _, _, none_meant, _⟩ => nomatch none_meant⟩
    | ok others =>
      constructor
      · rintro ⟨⟩
        exact ⟨command, others, rfl, rfl, rfl⟩
      · rintro ⟨_, _, ⟨⟩, ⟨⟩, rfl⟩
        rfl

mutual

theorem toCommand_eq_ok_iff (expr : Expr) (command : Command) :
    expr.toCommand = .ok command ↔ expr.Means command := by
  match expr with
  | .text value span =>
    constructor
    · rintro ⟨⟩
      exact .text value span
    · rintro ⟨⟩
      rfl
  | .fault description span => exact ⟨nofun, nofun⟩
  | .call parameters span =>
    rw [toCommand_call_eq_ok_iff]
    constructor
    · rintro ⟨bound, all, rfl⟩
      exact .call span ((toCommands_eq_ok_iff parameters bound).1 all)
    · rintro ⟨⟩
      rename_i bound each
      exact ⟨bound, (toCommands_eq_ok_iff parameters bound).2 each, rfl⟩

theorem toCommands_eq_ok_iff (exprs : List Expr) (commands : List Command) :
    toCommands exprs = .ok commands ↔ List.Forall₂ Means exprs commands := by
  match exprs with
  | [] =>
    rw [List.forall₂_nil_left_iff]
    constructor
    · rintro ⟨⟩
      rfl
    · rintro rfl
      rfl
  | expr :: rest =>
    rw [toCommands_cons_eq_ok_iff, List.forall₂_cons_left_iff]
    constructor
    · rintro ⟨command, others, first, following, rfl⟩
      exact ⟨command, others, (toCommand_eq_ok_iff expr command).1 first,
        (toCommands_eq_ok_iff rest others).1 following, rfl⟩
    · rintro ⟨command, others, first, following, rfl⟩
      exact ⟨command, others, (toCommand_eq_ok_iff expr command).2 first,
        (toCommands_eq_ok_iff rest others).2 following, rfl⟩

end

variable {motive : Command → Prop}

mutual

theorem toCommand_induction (literal : ∀ text, motive (.literal text))
    (applied : ∀ bound, (∀ command ∈ bound, motive command) → motive (.applied .root bound))
    {expr : Expr} {command : Command} (meant : expr.toCommand = .ok command) : motive command := by
  match expr with
  | .text value span =>
    cases meant
    exact literal value
  | .fault description span => cases meant
  | .call parameters span =>
    obtain ⟨bound, all, rfl⟩ := toCommand_call_eq_ok_iff.1 meant
    exact applied bound (toCommands_induction literal applied all)

theorem toCommands_induction (literal : ∀ text, motive (.literal text))
    (applied : ∀ bound, (∀ command ∈ bound, motive command) → motive (.applied .root bound))
    {exprs : List Expr} {commands : List Command} (meant : toCommands exprs = .ok commands) :
    ∀ command ∈ commands, motive command := by
  match exprs with
  | [] =>
    cases meant
    exact List.forall_mem_nil _
  | expr :: rest =>
    obtain ⟨command, others, first, following, rfl⟩ := toCommands_cons_eq_ok_iff.1 meant
    exact List.forall_mem_cons.2 ⟨toCommand_induction literal applied first,
      toCommands_induction literal applied following⟩

end

end Expr

/-- A line is stored with its text and the command that it means. -/
theorem Command.ofLine_eq_ok_iff {text : String} {command : Command} :
    ofLine text = .ok command ↔
      ∃ body, (Expr.read text).toCommand = .ok body ∧ command = .stored text body := by
  unfold ofLine
  cases (Expr.read text).toCommand with
  | error error => exact ⟨nofun, fun ⟨_, none_meant, _⟩ => nomatch none_meant⟩
  | ok body =>
    constructor
    · rintro ⟨⟩
      exact ⟨body, rfl, rfl⟩
    · rintro ⟨_, ⟨⟩, rfl⟩
      rfl

end ChatLine
