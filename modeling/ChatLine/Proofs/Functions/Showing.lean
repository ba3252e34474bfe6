import ChatLine.Proofs.Functions.OnTexts
import ChatLine.Proofs.Line.Leading

set_option autoImplicit false

namespace ChatLine

variable {σ : Type}

namespace Builtin.ShowTree

variable {blanks : String}

/-- The first visible character of a text is the mark of a call. -/
def Marked (text : String) : Prop :=
  (Text.trimStart text).toList.head? = some Scan.commandMark

instance (text : String) : Decidable (Marked text) :=
  inferInstanceAs (Decidable (_ = _))

def shownAs (text other : String) : Except CommandError String :=
  if Marked text then .ok (Expr.read other).render
  else .error (.native "this is not a command")

theorem show?_eq (text : String) : show? text = shownAs text text := rfl

theorem marked_of_head? {text : String} (starts : text.toList.head? = some '!') : Marked text := by
  obtain ⟨rest, whole⟩ := List.head?_eq_some_iff.1 starts
  rw [Marked, Text.trimStart, whole, String.toList_ofList, List.dropWhile_cons_of_neg (by decide)]
  rfl

theorem marked_blanks_iff (white : ∀ c ∈ blanks.toList, Text.isBlank c) (text : String) :
    Marked (blanks ++ text) ↔ Marked text := by
  rw [Marked, Marked, Text.trimStart, Text.trimStart, String.toList_append,
    List.dropWhile_append_of_pos white]

/-- A line with white space before it is shown as if it had one more mark. -/
theorem show?_blanks (white : ∀ c ∈ blanks.toList, Text.isBlank c) (present : blanks ≠ "")
    (text : String) : show? (blanks ++ text) = shownAs text ("!" ++ text) := by
  rw [show?_eq, shownAs, shownAs, Expr.render_inj_shape.2 (Expr.shape_read_blanks white present text)]
  simp only [marked_blanks_iff white]

theorem show?_blanks_iff (white : ∀ c ∈ blanks.toList, Text.isBlank c) (present : blanks ≠ "")
    (text : String) : show? (blanks ++ text) = show? text ↔ text.toList.head? ≠ some '!' := by
  rw [show?_blanks white present, show?_eq, ← Expr.shape_read_mark_iff, ← Expr.render_inj_shape,
    shownAs, shownAs]
  split
  · exact ⟨Except.ok.inj, congrArg _⟩
  · rename_i bare
    refine ⟨fun _ => ?_, fun _ => rfl⟩
    rw [Expr.render_inj_shape, Expr.shape_read_mark_iff]
    exact fun starts => bare (marked_of_head? starts)

end Builtin.ShowTree

namespace Evaluate

open Builtin.ShowTree

variable {host : Host σ} {world : World σ}

theorem run_invoke_showTree {call : Caller σ} {line : LineCaller σ} (text : String)
    (world : World σ) :
    (invoke host call line Builtin.showTree.function [.text (some text)]).run.run world =
      some ((show? text).map .string, world) := by
  have bound : ((Native.ofExcept (Bindings.text [.text (some text)] 0) : Native σ _).runWith call
      line).run.run world = some (.ok (.ok text), world) := rfl
  apply run_invoke_of_result
  change ((code [.text (some text)]).runWith call line).run.run world = _
  rw [code, Native.runWith_bind, Eval.run_bind, bound]
  dsimp only
  cases show? text <;> rfl

theorem resultIn_showTree {command : Command}
    (isFunction : command.function? = some Builtin.showTree.function) (depth : Nat) (line : String) :
    (onNames host (depth + 4) command [line] [.string]).resultIn world =
      some ((show? line).map .text) := by
  have binds : (Function.bindFormals (run host (depth + 2)) [.string] (sharedNames world [line])
      Builtin.showTree.function.formals (sharedNames world [line])).run.run
        (world.grow [line].length) = some (.ok ([.text (some line)], []), world.readWord line) := by
    change (Function.bindFormals _ _ _ [.plain .string] [.lazy world.cells.size _]).run.run
      (world.grow 1) = _
    simp only [Function.bindFormals, Function.bindFormal, Eval.run_bind, Eval.run_pure,
      run_text_shared]
    rfl
  exact resultIn_onNames depth isFunction binds (Nat.le_refl 1) (run_invoke_showTree line _)

theorem map_text_inj {first second : Except CommandError String} :
    first.map Reply.text = second.map .text ↔ first = second := by
  cases first <;> cases second <;> simp [Except.map]

/-- White space before a line, and `parse command`. A line whose first visible character is no mark is
refused with and without the white space. Every other line is shown, but the white space makes the
line one that does not begin with its mark, so it is read as if it had one more: the outcome is the
same just if the line does not begin with its mark anyway. -/
theorem showTree_of_blanks {command : Command}
    (isFunction : command.function? = some Builtin.showTree.function) {blanks : String}
    (white : ∀ c ∈ blanks.toList, Text.isBlank c) (present : blanks ≠ "") (text : String)
    (depth : Nat) :
    let shown := fun line => (onNames host (depth + 4) command [line] [.string]).resultIn world
    shown (blanks ++ text) = some ((shownAs text ("!" ++ text)).map .text) ∧
      shown text = some ((shownAs text text).map .text) ∧
      (shown (blanks ++ text) = shown text ↔ text.toList.head? ≠ some '!') := by
  intro shown
  have answers (line : String) : shown line = some ((show? line).map .text) :=
    resultIn_showTree isFunction depth line
  refine ⟨?_, answers text, ?_⟩
  · rw [answers, show?_blanks white present]
  · rw [answers, answers, Option.some.injEq, ← show?_blanks_iff white present]
    exact map_text_inj

/-- A line that has white space before its mark anyway is shown alike with more of it. -/
theorem showTree_of_blanks_tab :
    let world := World.start (.empty .standard) (.fresh .unlimited none) () 0
    let shown := fun line => (onNames Host.none 4 (.documented Builtin.showTree.documented) [line]
      [.string]).resultIn world
    shown ("\t" ++ " !a b") = shown " !a b" := by
  intro world shown
  have isFunction : (Command.documented Builtin.showTree.documented).function? =
      some Builtin.showTree.function := rfl
  have white : ∀ c ∈ "\t".toList, Text.isBlank c := by simp [Text.isBlank]
  exact (showTree_of_blanks isFunction white (by decide) " !a b" 0).2.2.2 (by decide)

/-- White space before a line that begins with its mark is not ignored: the name of the command that
is shown has the mark in it. -/
theorem showTree_keeps_mark :
    let world := World.start (.empty .standard) (.fresh .unlimited none) () 0
    let shown := fun line => (onNames Host.none 4 (.documented Builtin.showTree.documented) [line]
      [.string]).resultIn world
    (∀ c ∈ " ".toList, Text.isBlank c) ∧
      shown "!a b" = some (.ok (.text "(cmd \"a\" \"b\")")) ∧
      shown (" " ++ "!a b") = some (.ok (.text "(cmd \"!a\" \"b\")")) := by
  intro world shown
  have isFunction : (Command.documented Builtin.showTree.documented).function? =
      some Builtin.showTree.function := rfl
  have plain : show? "!a b" = .ok "(cmd \"a\" \"b\")" := by decide +kernel
  have moved : show? (" " ++ "!a b") = .ok "(cmd \"!a\" \"b\")" := by decide +kernel
  refine ⟨by simp [Text.isBlank], ?_, ?_⟩
  · exact (resultIn_showTree isFunction 0 "!a b").trans (by rw [plain]; rfl)
  · exact (resultIn_showTree isFunction 0 (" " ++ "!a b")).trans (by rw [moved]; rfl)

end Evaluate

end ChatLine
