import ChatLine.Proofs.Line.Reading
import Mathlib.Data.List.Induction

set_option autoImplicit false

namespace ChatLine

namespace Grammar

/-- A value as it stands between quotes: every quote gets a backslash before it, and nothing else
changes. -/
def escape : List Char → List Char
  | [] => []
  | c :: rest => if c = '"' then '\\' :: '"' :: escape rest else c :: escape rest

/-- The ways to write a value. A backslash at its end would escape the closing quote, and a bare
value must go on to its end. -/
inductive WritesText (value : List Char) : List Char → Prop where
  | quoted (closes : value.getLast? ≠ some '\\') : WritesText value ('"' :: (escape value ++ ['"']))
  | bare (present : value ≠ []) (unquoted : value.head? ≠ some '"')
      (visible : ∀ c ∈ value, Text.isBlank c = false) (unclosed : ')' ∉ value)
      (unnested : ¬ ['(', '!'] <:+: value) : WritesText value value

mutual

/-- The ways to write a part of a line. -/
inductive Writes : Shape → List Char → Prop where
  | text {value : String} {chars : List Char} (written : WritesText value.toList chars) :
      Writes (.text value) chars
  | call {parameters : List Shape} {chars : List Char} (written : WritesAll parameters chars) :
      Writes (.call parameters) ('(' :: '!' :: (chars ++ [')']))

/-- The ways to write parts one after the other, with white space between them. -/
inductive WritesAll : List Shape → List Char → Prop where
  | nothing : WritesAll [] []
  | single {shape : Shape} {chars : List Char} (written : Writes shape chars) :
      WritesAll [shape] chars
  | more {shape next : Shape} {rest : List Shape} {chars others : List Char} (blanks : List Char)
      (written : Writes shape chars) (apart : blanks ≠ [])
      (white : ∀ c ∈ blanks, Text.isBlank c) (following : WritesAll (next :: rest) others) :
      WritesAll (shape :: next :: rest) (chars ++ (blanks ++ others))

end

/-- The ways to write a line: the mark and the parameters of its call. -/
inductive WritesLine : Shape → List Char → Prop where
  | marked {parameters : List Shape} {chars : List Char} (written : WritesAll parameters chars) :
      WritesLine (.call parameters) ('!' :: chars)

theorem head?_escape (value : List Char) : (escape value).head? ≠ some '"' := by
  cases value with
  | nil => simp [escape]
  | cons c rest =>
    by_cases quote : c = '"'
    · simp [escape, quote]
    · simp [escape, quote]

/-- What stands between quotes is read as the value that was written. -/
theorem unescape_escape (value : List Char) : unescape (escape value) = value := by
  induction value with
  | nil => rfl
  | cons c rest ih =>
    by_cases quote : c = '"'
    · simp [escape, quote, unescape, ih]
    · have apart : [c].getLast? = some '\\' → (escape rest).head? ≠ some '"' :=
        fun _ => head?_escape rest
      have alone : unescape [c] = [c] := by simp [unescape]
      have parts : unescape ([c] ++ escape rest) = [c] ++ rest := by
        rw [unescape_append apart, alone, ih]
      simpa [escape, quote] using parts

theorem escape_append (first second : List Char) :
    escape (first ++ second) = escape first ++ escape second := by
  induction first with
  | nil => rfl
  | cons c rest ih =>
    by_cases quote : c = '"'
    · simp [escape, quote, ih]
    · simp [escape, quote, ih]

theorem quotesEscaped_escape (value : List Char) : QuotesEscaped (escape value) := by
  induction value using List.reverseRecOn with
  | nil => exact .nil
  | append_singleton front c ih =>
    rw [escape_append]
    by_cases quote : c = '"'
    · have backslash : QuotesEscaped (escape front ++ ['\\']) :=
        ih.concat fun same => absurd same (by decide)
      have both := backslash.concat (c := '"') fun _ => List.getLast?_concat
      simpa [escape, quote] using both
    · simpa [escape, quote] using ih.concat (c := c) fun same => absurd same quote

theorem getLast?_escape {value : List Char} (closes : value.getLast? ≠ some '\\') :
    (escape value).getLast? ≠ some '\\' := by
  rcases List.eq_nil_or_concat value with rfl | ⟨front, c, rfl⟩
  · simp [escape]
  · rw [List.concat_eq_append] at closes ⊢
    rw [List.getLast?_concat] at closes
    rw [escape_append]
    by_cases quote : c = '"'
    · simp [escape, quote]
    · simpa [escape, quote] using closes

/-- A bare value goes on to its end, wherever a text can end after it. -/
theorem unbroken_of_bare {value rest : List Char} (visible : ∀ c ∈ value, Text.isBlank c = false)
    (unclosed : ')' ∉ value) (unnested : ¬ ['(', '!'] <:+: value) (ends : EndsText rest) :
    Unbroken value rest := by
  intro last present suffix stops
  obtain ⟨c, tail, rfl⟩ := List.exists_cons_of_ne_nil present
  have inside : c ∈ value := suffix.mem List.mem_cons_self
  rw [List.cons_append] at stops
  generalize after : tail ++ rest = following at stops
  cases stops with
  | blank _ white =>
    rw [visible c inside] at white
    cases white
  | closing => exact unclosed inside
  | opening others =>
    cases tail with
    | nil =>
      rw [List.nil_append] at after
      rw [after] at ends
      cases ends with
      | blank _ white => exact absurd white (by decide)
    | cons d tail =>
      obtain ⟨rfl, -⟩ := List.cons.inj after
      exact unnested ((List.prefix_append ['(', '!'] tail).isInfix.trans suffix.isInfix)

theorem WritesText.parameters {value : String} {chars rest : List Char} {shapes : List Shape}
    {left : Option (List Char)} (written : WritesText value.toList chars) (ends : EndsText rest)
    (after : Parameters rest shapes left) :
    Parameters (chars ++ rest) (.text value :: shapes) left := by
  cases written with
  | quoted closes =>
    have said := Parameters.quoted (quotesEscaped_escape value.toList) (getLast?_escape closes) after
    rw [unescape_escape, String.ofList_toList] at said
    simpa using said
  | bare present unquoted visible unclosed unnested =>
    have unbroken := unbroken_of_bare visible unclosed unnested ends
    have said := Parameters.free present unquoted unbroken ends after
    rwa [String.ofList_toList] at said

theorem Parameters.blanks {blanks rest : List Char} {shapes : List Shape}
    {left : Option (List Char)} (white : ∀ c ∈ blanks, Text.isBlank c)
    (after : Parameters rest shapes left) : Parameters (blanks ++ rest) shapes left := by
  induction blanks with
  | nil => exact after
  | cons c blanks ih =>
    rw [List.forall_mem_cons] at white
    exact .blank white.1 (ih white.2)

theorem endsText_of_blanks {blanks : List Char} (apart : blanks ≠ [])
    (white : ∀ c ∈ blanks, Text.isBlank c) (rest : List Char) : EndsText (blanks ++ rest) := by
  obtain ⟨c, blanks, rfl⟩ := List.exists_cons_of_ne_nil apart
  exact .blank _ (white c List.mem_cons_self)

mutual

theorem Writes.parameters {shape : Shape} {chars rest : List Char} {shapes : List Shape}
    {left : Option (List Char)} (written : Writes shape chars) (ends : EndsText rest)
    (after : Parameters rest shapes left) : Parameters (chars ++ rest) (shape :: shapes) left := by
  match written with
  | .text written => exact written.parameters ends after
  | .call written =>
    have within := written.parameters (.closing rest) (Parameters.closed rest)
    rw [List.append_nil] at within
    simpa using Parameters.call within after

theorem WritesAll.parameters {written : List Shape} {chars rest : List Char} {shapes : List Shape}
    {left : Option (List Char)} (all : WritesAll written chars) (ends : EndsText rest)
    (after : Parameters rest shapes left) :
    Parameters (chars ++ rest) (written ++ shapes) left := by
  match all with
  | .nothing => exact after
  | .single first => exact first.parameters ends after
  | .more blanks first apart white following =>
    have behind := Parameters.blanks white (following.parameters ends after)
    have said := first.parameters (endsText_of_blanks apart white _) behind
    simpa only [List.append_assoc, List.cons_append] using said

end

/-- A written line says the tree that it was written for. -/
theorem WritesLine.line {shape : Shape} {chars : List Char} (written : WritesLine shape chars) :
    Line chars shape := by
  cases written with
  | marked all =>
    have parameters := all.parameters .line .ended
    rw [List.append_nil, List.append_nil] at parameters
    exact .marked parameters

end Grammar

open Grammar

/-- Reading undoes writing: however a tree of calls and texts was written, the reader gets that tree
back. -/
theorem Expr.shape_read_of_writes {line : String} {shape : Shape}
    (written : WritesLine shape line.toList) : (Expr.read line).shape = shape :=
  Expr.shape_read_of_line written.line

/-- A bare value with a quote, a mark and a parenthesis in it, a quoted one that begins with a
backslash before a quote, an empty one, and calls without and with parameters. -/
theorem Expr.shape_read_of_writes_nested :
    WritesLine (.call [.text "say", .call [.text "a\"(b!", .call []], .text "\\\" x", .text ""])
        "!say (!a\"(b! (!)) \"\\\\\" x\"\t \"\"".toList ∧
      (Expr.read "!say (!a\"(b! (!)) \"\\\\\" x\"\t \"\"").shape =
        .call [.text "say", .call [.text "a\"(b!", .call []], .text "\\\" x", .text ""] := by
  have visible {value : List Char} (all : value.all (fun c => !Text.isBlank c) = true) :
      ∀ c ∈ value, Text.isBlank c = false := by
    intro c inside
    simpa using List.all_eq_true.1 all c inside
  have say : Writes (.text "say") ['s', 'a', 'y'] :=
    .text (.bare (by decide) (by decide) (visible rfl) (by decide) (by decide))
  have word : Writes (.text "a\"(b!") ['a', '"', '(', 'b', '!'] :=
    .text (.bare (by decide) (by decide) (visible rfl) (by decide) (by decide))
  have blank : ∀ c ∈ [' '], Text.isBlank c := List.all_eq_true.1 rfl
  have blanks : ∀ c ∈ ['\t', ' '], Text.isBlank c := List.all_eq_true.1 rfl
  have inner : Writes (.call [.text "a\"(b!", .call []]) _ :=
    .call (.more [' '] word (by decide) blank (.single (.call .nothing)))
  have quoted : Writes (.text "\\\" x") _ := .text (.quoted (by decide))
  have empty : Writes (.text "") _ := .text (.quoted (by decide))
  have tail := WritesAll.more ['\t', ' '] quoted (by decide) blanks (.single empty)
  have written := WritesLine.marked
    (.more [' '] say (by decide) blank (.more [' '] inner (by decide) blank tail))
  exact ⟨written, Expr.shape_read_of_writes written⟩

end ChatLine
