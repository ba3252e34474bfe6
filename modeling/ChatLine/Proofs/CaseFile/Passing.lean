import ChatLine.CaseFile.Basic
import ChatLine.Proofs.Line.Symbols
import ChatLine.Proofs.Text.Squeezing

set_option autoImplicit false

namespace ChatLine

namespace Symbol

/-- The symbol with one space in the place of each run of spaces in its text. -/
def squeezed : Symbol → Symbol
  | text value => text (String.ofList (Text.squeeze value.toList))
  | symbol => symbol

theorem begins_squeezed (symbol : Symbol) : symbol.squeezed.begins = symbol.begins := by
  cases symbol <;> rfl

/-- A symbol stays, its text squeezed, and one space of the white space after it. -/
theorem joined_spell (symbol : Symbol) (rest : List Char) :
    Text.joined (symbol.spell Text.isPlain ++ rest) =
      symbol.squeezed.spell Text.isPlain ++ (Text.gapBefore rest ++ Text.joined rest) := by
  cases symbol with
  | text value =>
    simp only [spell, squeezed, Text.quoteBy, List.cons_append, List.append_assoc,
      List.nil_append, String.toList_ofList]
    rw [Text.joined_visible rfl, Text.joined_quoted, Text.joined_visible rfl]
  | opening => exact Text.joined_append (List.cons_ne_nil _ _) (by simp [Text.isBlank]) rest
  | closing => exact Text.joined_append (List.cons_ne_nil _ _) (by simp [Text.isBlank]) rest
  | cmd => exact Text.joined_append (List.cons_ne_nil _ _) (by simp [Text.isBlank]) rest
  | error => exact Text.joined_append (List.cons_ne_nil _ _) (by simp [Text.isBlank]) rest

def collapsed (part : List Char × Symbol) : List Char × Symbol :=
  (if part.1.isEmpty then [] else [' '], part.2.squeezed)

theorem collapsed_white (parts : List (List Char × Symbol)) :
    ∀ part ∈ parts.map collapsed, ∀ c ∈ part.1, Text.isBlank c := by
  intro part part_mem c c_mem
  obtain ⟨old, -, rfl⟩ := List.mem_map.1 part_mem
  simp only [collapsed] at c_mem
  split at c_mem
  · cases c_mem
  · rw [List.mem_singleton.1 c_mem]
    rfl

/-- Of symbols with white space before them the symbols stay, their texts squeezed, and one space
where white space was. -/
theorem joined_written (first : Symbol) {parts : List (List Char × Symbol)} {after : List Char}
    (white : ∀ part ∈ parts, ∀ c ∈ part.1, Text.isBlank c)
    (white_after : ∀ c ∈ after, Text.isBlank c) :
    Text.joined (first.spell Text.isPlain ++ (written Text.isPlain parts ++ after)) =
      first.squeezed.spell Text.isPlain ++ written Text.isPlain (parts.map collapsed) := by
  induction parts generalizing first with
  | nil =>
    rw [joined_spell]
    simp only [written, List.flatMap_nil, List.nil_append, List.map_nil]
    rw [Text.gapBefore_blanks white_after, Text.joined_blanks white_after, List.append_nil]
  | cons part parts ih =>
    obtain ⟨blanks, symbol⟩ := part
    rw [List.forall_mem_cons] at white
    obtain ⟨c, rest, begins, visible⟩ := symbol.exists_spell_cons Text.isPlain
    have gap := Text.gapBefore_blanks_append white.1 visible
      (rest ++ (written Text.isPlain parts ++ after))
    rw [← List.cons_append, ← begins] at gap
    rw [joined_spell, written_cons, List.append_assoc, List.append_assoc, gap,
      Text.joined_blanks_append white.1, ih symbol white.2, List.map_cons, collapsed, written_cons]

end Symbol

namespace Shape

mutual

/-- The tree with one space in the place of each run of spaces in its texts. -/
def squeezed : Shape → Shape
  | call parameters => .call (squeezedAll parameters)
  | text value => .text (String.ofList (Text.squeeze value.toList))
  | fault description => .fault (String.ofList (Text.squeeze description.toList))

def squeezedAll : List Shape → List Shape
  | [] => []
  | shape :: rest => shape.squeezed :: squeezedAll rest

end

mutual

theorem symbols_squeezed (shape : Shape) :
    shape.squeezed.symbols = shape.symbols.map Symbol.squeezed := by
  match shape with
  | .call parameters =>
    simp only [squeezed, symbols, List.map_cons, List.map_append, List.map_nil, Symbol.squeezed,
      symbolsAll_squeezed parameters]
  | .text value => rfl
  | .fault description => rfl

theorem symbolsAll_squeezed (shapes : List Shape) :
    symbolsAll (squeezedAll shapes) = (symbolsAll shapes).map Symbol.squeezed := by
  match shapes with
  | [] => rfl
  | shape :: rest =>
    simp only [squeezedAll, symbolsAll, List.map_append, symbols_squeezed shape,
      symbolsAll_squeezed rest]

end

end Shape

namespace Symbol

/-- What is left of a symbol and the white space before it is as in an expression just if there was
white space where an expression has a space, and none elsewhere. -/
theorem collapsed_eq_iff (part : List Char × Symbol) (symbol : Symbol) :
    collapsed part = (symbol.gap, symbol) ↔
      part.2.squeezed = symbol ∧ part.1.isEmpty = !part.2.begins := by
  rw [collapsed, Prod.mk.injEq, and_comm]
  refine and_congr_right ?_
  rintro rfl
  rw [gap, begins_squeezed]
  cases part.1.isEmpty <;> cases part.2.begins <;> simp

theorem map_collapsed_eq_iff (parts : List (List Char × Symbol)) (symbols : List Symbol) :
    parts.map collapsed = spaced symbols ↔
      parts.map (fun part => part.2.squeezed) = symbols ∧
        ∀ part ∈ parts, part.1.isEmpty = !part.2.begins := by
  induction parts generalizing symbols with
  | nil => cases symbols <;> simp [spaced]
  | cons part parts ih =>
    cases symbols with
    | nil => simp [spaced]
    | cons symbol symbols =>
      rw [List.map_cons, spaced_cons, List.cons.injEq, collapsed_eq_iff, ih symbols, List.map_cons,
        List.cons.injEq, List.forall_mem_cons, and_and_and_comm]

theorem map_collapsed_spaced (symbols : List Symbol) :
    (spaced symbols).map collapsed = spaced (symbols.map squeezed) := by
  refine (map_collapsed_eq_iff _ _).2 ⟨by simp [spaced, Function.comp_def], ?_⟩
  intro part part_mem
  obtain ⟨symbol, -, rfl⟩ := List.mem_map.1 part_mem
  simp only [gap]
  cases symbol.begins <;> rfl

end Symbol

/-- The expression for a tree stays, but for the spaces in its texts. -/
theorem Shape.joined_spell (shape : Shape) :
    Text.joined (shape.spell Text.isPlain) = shape.squeezed.spell Text.isPlain := by
  obtain ⟨first, rest, same, spelled⟩ := shape.exists_symbols_cons Text.isPlain
  obtain ⟨other, others, squeezed_same, squeezed_spelled⟩ :=
    shape.squeezed.exists_symbols_cons Text.isPlain
  rw [Shape.symbols_squeezed, same, List.map_cons, List.cons.injEq] at squeezed_same
  obtain ⟨rfl, rfl⟩ := squeezed_same
  rw [spelled, squeezed_spelled, ← List.append_nil (Symbol.written _ _),
    Symbol.joined_written first (Symbol.spaced_white rest) (List.forall_mem_nil _),
    Symbol.map_collapsed_spaced]

/-- An expression with any white space before its symbols and after the last one. -/
structure Layout where
  parts : List (List Char × Symbol)
  after : List Char
  white : ∀ part ∈ parts, ∀ c ∈ part.1, Text.isBlank c
  white_after : ∀ c ∈ after, Text.isBlank c

namespace Layout

def chars (layout : Layout) : List Char :=
  Symbol.written Text.isPlain layout.parts ++ layout.after

/-- But for white space between its symbols, the layout is the expression for a tree. -/
def Denotes (layout : Layout) (shape : Shape) : Prop :=
  layout.parts.map Prod.snd = shape.symbols

/-- From the second symbol on, white space stands just where an expression has a space. -/
def Kept (layout : Layout) : Prop :=
  ∀ part ∈ layout.parts.tail, part.1.isEmpty = !part.2.begins

theorem exists_kept (shape : Shape) :
    ∃ layout : Layout, layout.Denotes shape ∧ layout.chars = shape.spell Text.isPlain ∧
      layout.Kept := by
  obtain ⟨first, rest, same, spelled⟩ := shape.exists_symbols_cons Text.isPlain
  have white : ∀ part ∈ ([], first) :: Symbol.spaced rest, ∀ c ∈ part.1, Text.isBlank c :=
    List.forall_mem_cons.2 ⟨List.forall_mem_nil _, Symbol.spaced_white rest⟩
  refine ⟨⟨_, [], white, List.forall_mem_nil _⟩, ?_, ?_, ?_⟩
  · rw [Denotes, same]
    simp [Symbol.spaced, Function.comp_def]
  · rw [chars, List.append_nil, Symbol.written_cons, spelled]
    rfl
  · exact ((Symbol.map_collapsed_eq_iff _ _).1 (Symbol.map_collapsed_spaced rest)).2

/-- A layout is collapsed to the expression for a tree just if it denotes that tree, the spaces in
the texts apart, and has white space just where an expression has a space. -/
theorem joined_chars_eq_iff {layout : Layout} {shape : Shape} (denotes : layout.Denotes shape)
    (other : Shape) :
    Text.joined layout.chars = other.spell Text.isPlain ↔
      shape.squeezed = other ∧ layout.Kept := by
  obtain ⟨parts, after, white, white_after⟩ := layout
  obtain ⟨first, rest, other_same, spelled⟩ := other.exists_symbols_cons Text.isPlain
  obtain ⟨symbol, symbols, same, -⟩ := shape.exists_symbols_cons Text.isPlain
  rw [Denotes, same] at denotes
  obtain ⟨⟨blanks, begins⟩, parts, rfl, rfl, rfl⟩ := List.map_eq_cons_iff.1 denotes
  rw [List.forall_mem_cons] at white
  have trees : shape.squeezed = other ↔
      begins.squeezed = first ∧ parts.map (fun part => part.2.squeezed) = rest := by
    rw [← Shape.symbols_inj, Shape.symbols_squeezed, same, other_same]
    simp [Function.comp_def]
  rw [chars, Symbol.written_cons, List.append_assoc, Text.joined_blanks_append white.1,
    List.append_assoc, Symbol.joined_written begins white.2 white_after, spelled, trees, and_assoc,
    Kept, List.tail_cons, ← Symbol.map_collapsed_eq_iff]
  constructor
  · intro written_same
    obtain ⟨symbol_same, rest_same⟩ := Symbol.spell_append_inj written_same
    exact ⟨symbol_same, Symbol.written_inj (Symbol.collapsed_white parts)
      (Symbol.spaced_white rest) rest_same⟩
  · rintro ⟨rfl, parts_same⟩
    rw [parts_same]

end Layout

namespace Case

theorem toList_collapse (text : String) : (collapse text).toList = Text.joined text.toList := by
  rw [collapse, String.toList_intercalate, Text.words_eq, List.map_map]
  simp [Text.joined, Function.comp_def]

/-- When a case passes: its expected text is collapsed to the expression for the tree that was read,
with one space in the place of each run of spaces in its texts. Where the expected text is the
expression for some tree, laid out with other white space, that tree is the one that was read, the
runs of spaces in their texts apart. So a case whose tree differs in anything else fails. -/
theorem run_eq_pass_iff (case : Case) (asked : case.skip = none) :
    (case.run = .pass ↔ collapse case.expected =
      String.ofList ((Expr.read case.input).shape.squeezed.spell Text.isPlain)) ∧
    ∀ (layout : Layout) (shape : Shape), layout.Denotes shape →
      case.expected.toList = layout.chars →
      (case.run = .pass ↔
        shape.squeezed = (Expr.read case.input).shape.squeezed ∧ layout.Kept) := by
  have passes : case.run = .pass ↔ Text.joined case.expected.toList =
      (Expr.read case.input).shape.squeezed.spell Text.isPlain := by
    rw [← Shape.joined_spell, ← Expr.toList_render, ← toList_collapse, ← toList_collapse,
      String.toList_inj, run, asked]
    simp only [beq_iff_eq]
    split
    · rename_i same
      exact iff_of_true rfl same.symm
    · rename_i other
      exact iff_of_false (by simp) (Ne.symm other)
  refine ⟨?_, ?_⟩
  · rw [passes, ← toList_collapse, ← String.toList_inj, String.toList_ofList]
  · intro layout shape denotes written
    rw [passes, written, Layout.joined_chars_eq_iff denotes]

/-- A case that expects a text with two spaces, on a line of its own. -/
def overLines : Case where
  name := "over lines"
  line := 1
  input := "!say \"a  b\""
  expected := "(cmd \"say\"\n  \"a  b\")"
  skip := none

/-- How the case lays its tree out. -/
def overLinesLayout : Layout where
  parts := [([], .opening), ([], .cmd), ([' '], .text "say"), (['\n', ' ', ' '], .text "a  b"),
    ([], .closing)]
  after := []
  white := by simp [Text.isBlank]
  white_after := List.forall_mem_nil _

theorem run_eq_pass_iff_overLines : overLines.skip = none ∧ overLines.run = .pass := by
  have kept : overLinesLayout.Kept := by simp [Layout.Kept, overLinesLayout, Symbol.begins]
  have passes := (run_eq_pass_iff overLines rfl).2 overLinesLayout
    (.call [.text "say", .text "a  b"]) rfl (by decide +kernel)
  exact ⟨rfl, passes.2 ⟨by decide +kernel, kept⟩⟩

/-- A case that expects a text with one space where its input has two. -/
def twoSpaces : Case where
  name := "two spaces"
  line := 1
  input := "!say \"a  b\""
  expected := "(cmd \"say\" \"a b\")"
  skip := none

def oneSpace : Shape := .call [.text "say", .text "a b"]

theorem twoSpaces_run : twoSpaces.skip = none ∧
    (∃ layout : Layout, layout.Denotes oneSpace ∧ twoSpaces.expected.toList = layout.chars) ∧
    (Expr.read twoSpaces.input).shape ≠ oneSpace ∧ twoSpaces.run = .pass := by
  refine ⟨rfl, ?_, by decide +kernel, by decide +kernel⟩
  obtain ⟨layout, denotes, same, -⟩ := Layout.exists_kept oneSpace
  refine ⟨layout, denotes, ?_⟩
  rw [same]
  decide +kernel

end Case

end ChatLine
