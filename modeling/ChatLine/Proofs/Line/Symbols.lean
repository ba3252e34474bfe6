import ChatLine.Proofs.Line.Rendering

set_option autoImplicit false

namespace ChatLine

/-- A symbol of a bracketed expression. -/
inductive Symbol where
  | opening
  | closing
  | cmd
  | error
  | text (value : String)

namespace Symbol

/-- A symbol as it is written, where `plain` tells which characters of a text stand for themselves.
-/
def spell (plain : Char → Bool) : Symbol → List Char
  | opening => ['(']
  | closing => [')']
  | cmd => ['c', 'm', 'd']
  | error => ['e', 'r', 'r', 'o', 'r']
  | text value => Text.quoteBy plain value

/-- Whether a symbol begins a part of an expression. A space stands before it, but not at the start
of the whole expression. -/
def begins : Symbol → Bool
  | opening => true
  | text _ => true
  | closing => false
  | cmd => false
  | error => false

def gap (symbol : Symbol) : List Char := if symbol.begins then [' '] else []

theorem exists_spell_cons (plain : Char → Bool) (symbol : Symbol) :
    ∃ c rest, symbol.spell plain = c :: rest ∧ Text.isBlank c = false := by
  cases symbol <;> exact ⟨_, _, rfl, rfl⟩

theorem spell_append_inj {plain : Char → Bool} {first second : Symbol} {rest more : List Char}
    (same : first.spell plain ++ rest = second.spell plain ++ more) :
    first = second ∧ rest = more := by
  match first, second with
  | .text value, .text other =>
    obtain ⟨rfl, left⟩ := Text.quoteBy_append_inj same
    exact ⟨rfl, left⟩
  | .opening, .opening | .closing, .closing | .cmd, .cmd | .error, .error =>
    exact ⟨rfl, List.append_cancel_left same⟩
  | .text _, .opening | .text _, .closing | .text _, .cmd | .text _, .error
  | .opening, .text _ | .closing, .text _ | .cmd, .text _ | .error, .text _ =>
    simp [spell, Text.quoteBy] at same
  | .opening, .closing | .opening, .cmd | .opening, .error | .closing, .opening | .closing, .cmd
  | .closing, .error | .cmd, .opening | .cmd, .closing | .cmd, .error | .error, .opening
  | .error, .closing | .error, .cmd => simp [spell] at same

def written (plain : Char → Bool) (parts : List (List Char × Symbol)) : List Char :=
  parts.flatMap fun part => part.1 ++ part.2.spell plain

theorem written_cons (plain : Char → Bool) (blanks : List Char) (symbol : Symbol)
    (parts : List (List Char × Symbol)) :
    written plain ((blanks, symbol) :: parts) =
      blanks ++ (symbol.spell plain ++ written plain parts) :=
  List.append_assoc _ _ _

theorem written_append (plain : Char → Bool) (front back : List (List Char × Symbol)) :
    written plain (front ++ back) = written plain front ++ written plain back :=
  List.flatMap_append

/-- Where white space ends is known, since no symbol begins with it. -/
theorem blanks_append_spell_inj {plain : Char → Bool} {first second : Symbol}
    {blanks others rest more : List Char} (white : ∀ c ∈ blanks, Text.isBlank c)
    (other_white : ∀ c ∈ others, Text.isBlank c)
    (same : blanks ++ (first.spell plain ++ rest) = others ++ (second.spell plain ++ more)) :
    blanks = others ∧ first = second ∧ rest = more := by
  have blanks_same := congrArg (List.takeWhile Text.isBlank) same
  obtain ⟨c, tail, first_begins, visible⟩ := first.exists_spell_cons plain
  obtain ⟨d, others_tail, second_begins, other_visible⟩ := second.exists_spell_cons plain
  rw [List.takeWhile_append_of_pos white, List.takeWhile_append_of_pos other_white, first_begins,
    second_begins, List.cons_append, List.cons_append,
    List.takeWhile_cons_of_neg (by simp [visible]),
    List.takeWhile_cons_of_neg (by simp [other_visible]), List.append_nil, List.append_nil]
    at blanks_same
  subst blanks_same
  exact ⟨rfl, spell_append_inj (List.append_cancel_left same)⟩

/-- The characters of symbols with white space before them tell the symbols and the white space. -/
theorem written_inj {plain : Char → Bool} {first second : List (List Char × Symbol)}
    (white : ∀ part ∈ first, ∀ c ∈ part.1, Text.isBlank c)
    (other_white : ∀ part ∈ second, ∀ c ∈ part.1, Text.isBlank c)
    (same : written plain first = written plain second) : first = second := by
  have present : ∀ (blanks : List Char) (symbol : Symbol) parts,
      written plain ((blanks, symbol) :: parts) ≠ [] := by
    intro blanks symbol parts
    obtain ⟨c, tail, begins, -⟩ := symbol.exists_spell_cons plain
    simp [written_cons, begins]
  induction first generalizing second with
  | nil =>
    cases second with
    | nil => rfl
    | cons part parts => exact absurd same.symm (present part.1 part.2 parts)
  | cons part parts ih =>
    cases second with
    | nil => exact absurd same (present part.1 part.2 parts)
    | cons other others =>
      rw [List.forall_mem_cons] at white other_white
      obtain ⟨blanks_same, symbol_same, rest_same⟩ :=
        blanks_append_spell_inj white.1 other_white.1
          ((written_cons ..).symm.trans (same.trans (written_cons ..)))
      rw [Prod.ext blanks_same symbol_same, ih white.2 other_white.2 rest_same]

/-- Symbols with the white space that an expression has before them. -/
def spaced (symbols : List Symbol) : List (List Char × Symbol) :=
  symbols.map fun symbol => (symbol.gap, symbol)

theorem spaced_cons (symbol : Symbol) (symbols : List Symbol) :
    spaced (symbol :: symbols) = (symbol.gap, symbol) :: spaced symbols := rfl

theorem spaced_append (front back : List Symbol) :
    spaced (front ++ back) = spaced front ++ spaced back := List.map_append

theorem spaced_white (symbols : List Symbol) :
    ∀ part ∈ spaced symbols, ∀ c ∈ part.1, Text.isBlank c := by
  intro part part_mem c c_mem
  obtain ⟨symbol, -, rfl⟩ := List.mem_map.1 part_mem
  rw [gap] at c_mem
  split at c_mem
  · rw [List.mem_singleton.1 c_mem]
    rfl
  · cases c_mem

end Symbol

namespace Shape

mutual

def symbols : Shape → List Symbol
  | call parameters => .opening :: .cmd :: (symbolsAll parameters ++ [.closing])
  | text value => [.text value]
  | fault description => [.opening, .error, .text description, .closing]

def symbolsAll : List Shape → List Symbol
  | [] => []
  | shape :: rest => shape.symbols ++ symbolsAll rest

end

mutual

/-- An expression is its symbols with a space before each of its parts. -/
theorem written_symbols (plain : Char → Bool) (shape : Shape) :
    Symbol.written plain (Symbol.spaced shape.symbols) = ' ' :: spell plain shape := by
  match shape with
  | .call parameters =>
    rw [symbols, Symbol.spaced_cons, Symbol.spaced_cons, Symbol.spaced_append,
      Symbol.written_cons, Symbol.written_cons, Symbol.written_append, written_symbolsAll]
    rfl
  | .text value =>
    rw [symbols, Symbol.spaced_cons, Symbol.written_cons]
    exact congrArg (List.cons ' ') (List.append_nil _)
  | .fault description =>
    rw [symbols, Symbol.spaced_cons, Symbol.spaced_cons, Symbol.spaced_cons, Symbol.written_cons,
      Symbol.written_cons, Symbol.written_cons]
    rfl

theorem written_symbolsAll (plain : Char → Bool) (shapes : List Shape) :
    Symbol.written plain (Symbol.spaced (symbolsAll shapes)) = spellAll plain shapes := by
  match shapes with
  | [] => rfl
  | shape :: rest =>
    rw [symbolsAll, Symbol.spaced_append, Symbol.written_append, written_symbols,
      written_symbolsAll]
    rfl

end

/-- The symbols tell the tree. -/
theorem symbols_inj {first second : Shape} : first.symbols = second.symbols ↔ first = second := by
  constructor
  · intro same
    -- any choice of the characters that stand for themselves would do
    have written := written_symbols (fun _ => true) first
    rw [same, written_symbols] at written
    exact (spell_inj.1 (List.tail_eq_of_cons_eq written)).symm
  · exact fun same => congrArg symbols same

/-- An expression begins with its first symbol; the space that parts have before them is not there.
-/
theorem exists_symbols_cons (plain : Char → Bool) (shape : Shape) :
    ∃ first rest, shape.symbols = first :: rest ∧
      shape.spell plain = first.spell plain ++ Symbol.written plain (Symbol.spaced rest) := by
  have begins : ∃ first rest, shape.symbols = first :: rest ∧ first.gap = [' '] := by
    cases shape <;> exact ⟨_, _, rfl, rfl⟩
  obtain ⟨first, rest, same, gap⟩ := begins
  have written := written_symbols plain shape
  rw [same, Symbol.spaced_cons, Symbol.written_cons, gap] at written
  exact ⟨first, rest, same, (List.tail_eq_of_cons_eq written).symm⟩

end Shape

end ChatLine
