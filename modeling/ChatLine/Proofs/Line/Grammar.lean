import ChatLine.Line.Expr
import ChatLine.Text.Blank

set_option autoImplicit false

namespace ChatLine

/-- A part of a line without the stretches of the line. -/
inductive Shape where
  | call (parameters : List Shape)
  | text (value : String)
  | fault (description : String)

namespace Expr

mutual

def shape : Expr → Shape
  | call parameters _ => .call (shapes parameters)
  | text value _ => .text value
  | fault description _ => .fault description

def shapes : List Expr → List Shape
  | [] => []
  | expr :: rest => expr.shape :: shapes rest

end

mutual

def decEq : (first second : Expr) → Decidable (first = second)
  | call parameters span, call others other =>
    have := decEqAll parameters others
    decidable_of_iff (parameters = others ∧ span = other) (by simp)
  | text value span, text second other =>
    decidable_of_iff (value = second ∧ span = other) (by simp)
  | fault description span, fault second other =>
    decidable_of_iff (description = second ∧ span = other) (by simp)
  | call _ _, text _ _ | call _ _, fault _ _ | text _ _, call _ _ | text _ _, fault _ _
  | fault _ _, call _ _ | fault _ _, text _ _ => isFalse (by simp)

def decEqAll : (firsts seconds : List Expr) → Decidable (firsts = seconds)
  | [], [] => isTrue rfl
  | [], _ :: _ | _ :: _, [] => isFalse (by simp)
  | first :: firsts, second :: seconds =>
    have := decEq first second
    have := decEqAll firsts seconds
    decidable_of_iff (first = second ∧ firsts = seconds) (by simp)

end

instance : DecidableEq Expr := decEq

end Expr

namespace Grammar

/-- Whether a text that is not quoted ends before these characters. -/
inductive EndsText : List Char → Prop where
  | line : EndsText []
  | blank {c : Char} (rest : List Char) (white : Text.isBlank c) : EndsText (c :: rest)
  | closing (rest : List Char) : EndsText (')' :: rest)
  | opening (rest : List Char) : EndsText ('(' :: '!' :: rest)

/-- The word goes on to its end: at none of its characters does a text end. -/
def Unbroken (word rest : List Char) : Prop :=
  ∀ last, last ≠ [] → last <:+ word → ¬ EndsText (last ++ rest)

/-- Every quote comes right after a backslash. -/
def QuotesEscaped (raw : List Char) : Prop :=
  ∀ before after, raw = before ++ '"' :: after → before.getLast? = some '\\'

/-- The value of what stands between quotes: a backslash and a quote are one quote. -/
def unescape : List Char → List Char
  | '\\' :: '"' :: rest => '"' :: unescape rest
  | c :: rest => c :: unescape rest
  | [] => []

/-- The characters inside a call say its parameters; `left` is what stands after the parenthesis
that closes the call, and nothing for a call that is open at the end of the line. -/
inductive Parameters : List Char → List Shape → Option (List Char) → Prop where
  | ended : Parameters [] [] none
  | closed (rest : List Char) : Parameters (')' :: rest) [] (some rest)
  | blank {c : Char} {rest : List Char} {shapes : List Shape} {left : Option (List Char)}
      (white : Text.isBlank c) (after : Parameters rest shapes left) :
      Parameters (c :: rest) shapes left
  | quoted {raw rest : List Char} {shapes : List Shape} {left : Option (List Char)}
      (escaped : QuotesEscaped raw) (closes : raw.getLast? ≠ some '\\')
      (after : Parameters rest shapes left) :
      Parameters ('"' :: (raw ++ '"' :: rest)) (.text (String.ofList (unescape raw)) :: shapes) left
  | quotedToEnd {raw : List Char} (escaped : QuotesEscaped raw) :
      Parameters ('"' :: raw) [.text (String.ofList (unescape raw))] none
  | call {inside rest : List Char} {parameters shapes : List Shape} {left : Option (List Char)}
      (within : Parameters inside parameters (some rest)) (after : Parameters rest shapes left) :
      Parameters ('(' :: '!' :: inside) (.call parameters :: shapes) left
  | callToEnd {inside : List Char} {parameters : List Shape}
      (within : Parameters inside parameters none) :
      Parameters ('(' :: '!' :: inside) [.call parameters] none
  | free {word rest : List Char} {shapes : List Shape} {left : Option (List Char)}
      (present : word ≠ []) (unquoted : word.head? ≠ some '"') (unbroken : Unbroken word rest)
      (ends : EndsText rest) (after : Parameters rest shapes left) :
      Parameters (word ++ rest) (.text (String.ofList word) :: shapes) left

/-- What a line says: a call, with or without the mark before it. What stands after the parenthesis
that closes it says nothing. -/
inductive Line : List Char → Shape → Prop where
  | marked {rest : List Char} {shapes : List Shape} {left : Option (List Char)}
      (parameters : Parameters rest shapes left) : Line ('!' :: rest) (.call shapes)
  | unmarked {chars : List Char} {shapes : List Shape} {left : Option (List Char)}
      (bare : chars.head? ≠ some '!') (parameters : Parameters chars shapes left) :
      Line chars (.call shapes)

theorem QuotesEscaped.nil : QuotesEscaped [] := by
  intro before after same
  simp at same

theorem QuotesEscaped.concat {raw : List Char} {c : Char} (escaped : QuotesEscaped raw)
    (fits : c = '"' → raw.getLast? = some '\\') : QuotesEscaped (raw ++ [c]) := by
  intro before after same
  rcases List.eq_nil_or_concat after with rfl | ⟨init, last, rfl⟩
  · obtain ⟨rfl, last_same⟩ := List.append_inj' same rfl
    simp only [List.cons.injEq, and_true] at last_same
    exact fits last_same
  · have parts : raw ++ [c] = (before ++ '"' :: init) ++ [last] := by
      rw [same]
      simp
    obtain ⟨rfl, -⟩ := List.append_inj' parts rfl
    exact escaped before init rfl

/-- After an opening quote, either a quote closes the text or none does. -/
theorem exists_closing_quote (chars : List Char) :
    (∃ raw rest, chars = raw ++ '"' :: rest ∧ QuotesEscaped raw ∧ raw.getLast? ≠ some '\\') ∨
      QuotesEscaped chars := by
  -- `seen` is what the search for the closing quote went over
  have search : ∀ chars seen : List Char, QuotesEscaped seen →
      (∃ raw rest, seen ++ chars = raw ++ '"' :: rest ∧ QuotesEscaped raw ∧
        raw.getLast? ≠ some '\\') ∨ QuotesEscaped (seen ++ chars) := by
    intro chars
    induction chars with
    | nil =>
      intro seen escaped
      rw [List.append_nil]
      exact .inr escaped
    | cons c rest ih =>
      intro seen escaped
      by_cases closes : c = '"' ∧ seen.getLast? ≠ some '\\'
      · obtain ⟨rfl, open_still⟩ := closes
        exact .inl ⟨seen, rest, rfl, escaped, open_still⟩
      · have goes_on : QuotesEscaped (seen ++ [c]) := by
          refine escaped.concat fun quote => Decidable.byContradiction ?_
          intro other
          exact closes ⟨quote, other⟩
        have further := ih (seen ++ [c]) goes_on
        rwa [List.append_assoc] at further
  exact search chars [] .nil

theorem Unbroken.tail {c : Char} {word rest : List Char} (unbroken : Unbroken (c :: word) rest) :
    Unbroken word rest :=
  fun last present suffix => unbroken last present (suffix.trans (List.suffix_cons c word))

/-- Some word, which may be empty, stands before the next end of a text. -/
theorem exists_word (chars : List Char) :
    ∃ word rest, chars = word ++ rest ∧ Unbroken word rest ∧ EndsText rest := by
  induction chars with
  | nil =>
    refine ⟨[], [], rfl, ?_, .line⟩
    intro last present suffix
    exact absurd (List.suffix_nil.1 suffix) present
  | cons c chars ih =>
    by_cases ends : EndsText (c :: chars)
    · refine ⟨[], c :: chars, rfl, ?_, ends⟩
      intro last present suffix
      exact absurd (List.suffix_nil.1 suffix) present
    · obtain ⟨word, rest, rfl, unbroken, stops⟩ := ih
      refine ⟨c :: word, rest, rfl, ?_, stops⟩
      intro last present suffix
      rcases List.suffix_cons_iff.1 suffix with rfl | inner
      · exact ends
      · exact unbroken last present inner

/-- What stands after a closed call is shorter than what stands inside and after it. -/
theorem Parameters.left_length {chars : List Char} {shapes : List Shape}
    {left : Option (List Char)} (reads : Parameters chars shapes left) :
    ∀ rest, left = some rest → rest.length < chars.length := by
  induction reads with
  | ended => exact fun rest same => nomatch same
  | closed rest =>
    intro other same
    cases same
    exact Nat.lt_succ_self _
  | blank white after ih =>
    intro rest same
    have shorter := ih rest same
    simp only [List.length_cons]
    omega
  | quoted escaped closes after ih =>
    intro rest same
    have shorter := ih rest same
    simp only [List.length_cons, List.length_append]
    omega
  | quotedToEnd escaped => exact fun rest same => nomatch same
  | call within after within_ih ih =>
    intro rest same
    have shorter := ih rest same
    have inside := within_ih _ rfl
    simp only [List.length_cons]
    omega
  | callToEnd within => exact fun rest same => nomatch same
  | free present unquoted unbroken ends after ih =>
    intro rest same
    have shorter := ih rest same
    simp only [List.length_append]
    omega

/-- A quote begins a parameter, if the characters after the text that it begins are the inside of a
call. -/
theorem exists_parameters_of_quote {chars : List Char}
    (shorter : ∀ other : List Char, other.length < chars.length + 1 →
      ∃ shapes left, Parameters other shapes left) :
    ∃ shapes left, Parameters ('"' :: chars) shapes left := by
  rcases exists_closing_quote chars with ⟨raw, rest, rfl, escaped, closes⟩ | escaped
  · obtain ⟨shapes, left, after⟩ := shorter rest (by
      simp only [List.length_append, List.length_cons]
      omega)
    exact ⟨_, left, .quoted escaped closes after⟩
  · exact ⟨_, none, .quotedToEnd escaped⟩

/-- The opening of a call begins a parameter, if what stands after it is the inside of a call. -/
theorem exists_parameters_of_opening {chars : List Char}
    (shorter : ∀ other : List Char, other.length < chars.length + 2 →
      ∃ shapes left, Parameters other shapes left) :
    ∃ shapes left, Parameters ('(' :: '!' :: chars) shapes left := by
  obtain ⟨inside, left, within⟩ := shorter chars (by omega)
  cases left with
  | none => exact ⟨_, none, .callToEnd within⟩
  | some rest =>
    have inner := within.left_length rest rfl
    obtain ⟨shapes, left, after⟩ := shorter rest (by omega)
    exact ⟨_, left, .call within after⟩

theorem exists_parameters (chars : List Char) : ∃ shapes left, Parameters chars shapes left := by
  induction size : chars.length using Nat.strongRecOn generalizing chars with
  | _ size ih =>
    subst size
    have shorter : ∀ other : List Char, other.length < chars.length →
        ∃ shapes left, Parameters other shapes left := fun other less => ih _ less other rfl
    obtain ⟨word, rest, rfl, unbroken, ends⟩ := exists_word chars
    cases word with
    | nil =>
      rw [List.nil_append] at shorter ⊢
      cases ends with
      | line => exact ⟨[], none, .ended⟩
      | blank rest white =>
        obtain ⟨shapes, left, after⟩ := shorter rest (Nat.lt_succ_self _)
        exact ⟨shapes, left, .blank white after⟩
      | closing rest => exact ⟨[], some rest, .closed rest⟩
      | opening rest => exact exists_parameters_of_opening shorter
    | cons c word =>
      by_cases quote : c = '"'
      · subst quote
        exact exists_parameters_of_quote shorter
      · obtain ⟨shapes, left, after⟩ := shorter rest (by
          simp only [List.length_append, List.length_cons]
          omega)
        exact ⟨_, left, .free (by simp) (by simpa using quote) unbroken ends after⟩

/-- Every line says something. -/
theorem exists_line (chars : List Char) : ∃ shape, Line chars shape := by
  by_cases mark : chars.head? = some '!'
  · obtain ⟨rest, rfl⟩ : ∃ rest, chars = '!' :: rest := by
      cases chars with
      | nil => cases mark
      | cons c rest =>
        cases mark
        exact ⟨rest, rfl⟩
    obtain ⟨shapes, left, parameters⟩ := exists_parameters rest
    exact ⟨_, .marked parameters⟩
  · obtain ⟨shapes, left, parameters⟩ := exists_parameters chars
    exact ⟨_, .unmarked mark parameters⟩

end Grammar

end ChatLine
