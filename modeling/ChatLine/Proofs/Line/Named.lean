import ChatLine.Meaning
import ChatLine.Proofs.Bot.Paths
import ChatLine.Proofs.Line.Faults
import ChatLine.Proofs.Line.Writing

set_option autoImplicit false

namespace ChatLine

namespace Shape

mutual

/-- The command that a part of a line means, without regard to the stretches of the line. -/
def toCommand : Shape → Except CommandError Command
  | call parameters => do return .applied .root (← toCommands parameters)
  | text value => .ok (.literal value)
  | fault description => .error (.internal ("cannot execute an error node: " ++ description))

/-- The commands that parts of a line mean, up to the first that means nothing. -/
def toCommands : List Shape → Except CommandError (List Command)
  | [] => .ok []
  | shape :: rest => do
    let command ← shape.toCommand
    return command :: (← toCommands rest)

end

theorem toCommands_append {shapes others : List Shape} {commands otherCommands : List Command}
    (meant : toCommands shapes = .ok commands) (otherMeant : toCommands others = .ok otherCommands) :
    toCommands (shapes ++ others) = .ok (commands ++ otherCommands) := by
  induction shapes generalizing commands with
  | nil =>
    cases meant
    exact otherMeant
  | cons shape rest ih =>
    simp only [toCommands, List.cons_append] at meant ⊢
    cases first : shape.toCommand with
    | error error =>
      rw [first] at meant
      cases meant
    | ok command =>
      rw [first] at meant
      cases inner : toCommands rest with
      | error error =>
        rw [inner] at meant
        cases meant
      | ok restCommands =>
        rw [inner] at meant
        cases meant
        rw [ih inner]
        rfl

theorem toCommands_texts (words : List String) :
    toCommands (words.map .text) = .ok (words.map .literal) := by
  induction words with
  | nil => rfl
  | cons word rest ih =>
    simp only [List.map_cons, toCommands, ih]
    rfl

end Shape

namespace Expr

mutual

/-- What a part of a line means does not depend on where it stands. -/
theorem toCommand_eq (expr : Expr) : expr.toCommand = expr.shape.toCommand := by
  match expr with
  | .call parameters span => simp only [toCommand, shape, Shape.toCommand, toCommands_eq parameters]
  | .text value span => rfl
  | .fault description span => rfl

theorem toCommands_eq (exprs : List Expr) : toCommands exprs = Shape.toCommands (shapes exprs) := by
  match exprs with
  | [] => rfl
  | expr :: rest =>
    simp only [toCommands, shapes, Shape.toCommands, toCommand_eq expr, toCommands_eq rest]

end

end Expr

namespace Grammar

/-- All that can stand inside a call means something, since the line of the call does. -/
theorem Parameters.meant {chars : List Char} {shapes : List Shape} {left : Option (List Char)}
    (parameters : Parameters chars shapes left) :
    ∃ commands, Shape.toCommands shapes = .ok commands := by
  have said : Line (String.ofList ('!' :: chars)).toList (.call shapes) := by
    rw [String.toList_ofList]
    exact .marked parameters
  obtain ⟨command, means⟩ := (Expr.clean_read (String.ofList ('!' :: chars))).exists_means
  have meant := (Expr.toCommand_eq_ok_iff _ _).2 means
  rw [Expr.toCommand_eq, Expr.shape_read_of_line said, Shape.toCommand] at meant
  cases all : Shape.toCommands shapes with
  | error error =>
    rw [all] at meant
    cases meant
  | ok commands => exact ⟨commands, rfl⟩

end Grammar

namespace Bot

theorem writesText_of_isPathWord {word : String} (valid : isPathWord word = true) :
    Grammar.WritesText word.toList word.toList := by
  have small := small_of_isPathWord valid
  have not_inside (c : Char) (other : ¬ ('a' ≤ c ∧ c ≤ 'z')) : c ∉ word.toList :=
    fun inside => other (small c inside)
  refine .bare ?_ ?_ ?_ (not_inside ')' (by decide)) ?_
  · intro empty
    exact ne_empty_of_isPathWord valid (String.toList_injective empty)
  · intro quoted
    exact not_inside '"' (by decide) (List.mem_of_mem_head? quoted)
  · intro c inside
    obtain ⟨first, last⟩ := small c inside
    have lower : 97 ≤ c.toNat := first
    have upper : c.toNat ≤ 122 := last
    simp only [Text.isBlank, Bool.or_eq_false_iff, Bool.and_eq_false_iff, decide_eq_false_iff_not]
    omega
  · intro opening
    exact not_inside '(' (by decide) (opening.subset List.mem_cons_self)

theorem writesAll_words {words : List String} (valid : ∀ word ∈ words, isPathWord word = true) :
    Grammar.WritesAll (words.map .text) ([' '].intercalate (words.map String.toList)) := by
  induction words with
  | nil => exact .nothing
  | cons word rest ih =>
    obtain ⟨wordValid, restValid⟩ := List.forall_mem_cons.1 valid
    have written : Grammar.Writes (.text word) word.toList :=
      .text (writesText_of_isPathWord wordValid)
    cases rest with
    | nil =>
      simp only [List.map_cons, List.map_nil, List.intercalate_singleton]
      exact .single written
    | cons next others =>
      have white : ∀ c ∈ [' '], Text.isBlank c = true := List.forall_mem_singleton.2 rfl
      have both := Grammar.WritesAll.more [' '] written (by simp) white (ih restValid)
      simpa only [List.map_cons, List.intercalate_cons_cons, List.append_assoc] using both

theorem writesAll_path {path : String} (valid : validatePath path = .ok ()) :
    Grammar.WritesAll ((Text.spaced path).map .text) path.toList := by
  have written := writesAll_words (isPathWord_of_validatePath valid)
  rwa [Text.toList_spaced, Text.intercalate_cutAt] at written

/-- The line that is a path means the words of the path, given to the entry of the tree. -/
theorem toCommand_path {path : String} (valid : validatePath path = .ok ()) :
    (Expr.read ("!" ++ path)).toCommand =
      .ok (.applied .root ((Text.spaced path).map .literal)) := by
  have written : Grammar.WritesLine (.call ((Text.spaced path).map .text)) ("!" ++ path).toList := by
    rw [String.toList_append]
    exact .marked (writesAll_path valid)
  rw [Expr.toCommand_eq, Expr.shape_read_of_line written.line]
  simp only [Shape.toCommand, Shape.toCommands_texts]
  rfl

/-- After the words of a path come the arguments that the rest of the line says, as it says them
alone. -/
theorem exists_arguments {path : String} (valid : validatePath path = .ok ()) (tail : String) :
    ∃ arguments, (Expr.read ("! " ++ tail)).toCommand = .ok (.applied .root arguments) ∧
      (Expr.read ("!" ++ path ++ " " ++ tail)).toCommand =
        .ok (.applied .root ((Text.spaced path).map .literal ++ arguments)) := by
  obtain ⟨shapes, left, parameters⟩ := Grammar.exists_parameters tail.toList
  obtain ⟨arguments, meant⟩ := parameters.meant
  have after : Grammar.Parameters (' ' :: tail.toList) shapes left := .blank rfl parameters
  have alone : Grammar.Line ("! " ++ tail).toList (.call shapes) := by
    rw [String.toList_append]
    exact .marked after
  have behind : Grammar.Line ("!" ++ path ++ " " ++ tail).toList
      (.call ((Text.spaced path).map .text ++ shapes)) := by
    simp only [String.toList_append, List.append_assoc]
    exact .marked ((writesAll_path valid).parameters (.blank _ rfl) after)
  refine ⟨arguments, ?_, ?_⟩
  · rw [Expr.toCommand_eq, Expr.shape_read_of_line alone]
    simp only [Shape.toCommand, meant]
    rfl
  · rw [Expr.toCommand_eq, Expr.shape_read_of_line behind]
    simp only [Shape.toCommand, Shape.toCommands_append (Shape.toCommands_texts _) meant]
    rfl

end Bot

end ChatLine
