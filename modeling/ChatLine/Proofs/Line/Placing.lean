import ChatLine.Proofs.Line.Grammar

set_option autoImplicit false

namespace ChatLine

def Span.stop (span : Span) : Nat := span.position + span.length

namespace Grammar

/-- The characters stand in the line from a position on to its end. -/
def StandsAt (source : String) (position : Nat) (chars : List Char) : Prop :=
  ∃ before, source.toList = before ++ chars ∧ before.length = position

/-- What is left to read where the parameters of a call end: the parenthesis that closes it and all
after it, or nothing. -/
def unread : Option (List Char) → List Char
  | some rest => ')' :: rest
  | none => []

/-- The characters from a position of the line on say the parameters of a call, each with its
stretch of the line, up to the position `stop`. -/
inductive Placed (source : String) :
    Nat → List Char → List Expr → Nat → Option (List Char) → Prop where
  | ended (position : Nat) : Placed source position [] [] position none
  | closed (position : Nat) (rest : List Char) :
      Placed source position (')' :: rest) [] position (some rest)
  | blank {position stop : Nat} {c : Char} {rest : List Char} {exprs : List Expr}
      {left : Option (List Char)} (white : Text.isBlank c)
      (after : Placed source (position + 1) rest exprs stop left) :
      Placed source position (c :: rest) exprs stop left
  | quoted {position stop : Nat} {raw rest : List Char} {exprs : List Expr}
      {left : Option (List Char)} (escaped : QuotesEscaped raw)
      (closes : raw.getLast? ≠ some '\\')
      (after : Placed source (position + raw.length + 2) rest exprs stop left) :
      Placed source position ('"' :: (raw ++ '"' :: rest))
        (.text (String.ofList (unescape raw)) ⟨source, position + 1, raw.length⟩ :: exprs) stop left
  | quotedToEnd (position : Nat) {raw : List Char} (escaped : QuotesEscaped raw) :
      Placed source position ('"' :: raw)
        [.text (String.ofList (unescape raw)) ⟨source, position + 1, raw.length⟩]
        (position + raw.length + 1) none
  | call {position closing stop : Nat} {inside rest : List Char} {parameters exprs : List Expr}
      {left : Option (List Char)}
      (within : Placed source (position + 2) inside parameters closing (some rest))
      (after : Placed source (closing + 1) rest exprs stop left) :
      Placed source position ('(' :: '!' :: inside)
        (.call parameters ⟨source, position + 1, closing - (position + 1)⟩ :: exprs) stop left
  | callToEnd {position stop : Nat} {inside : List Char} {parameters : List Expr}
      (within : Placed source (position + 2) inside parameters stop none) :
      Placed source position ('(' :: '!' :: inside)
        [.call parameters ⟨source, position + 1, source.toList.length - (position + 1)⟩] stop none
  | free {position stop : Nat} {word rest : List Char} {exprs : List Expr}
      {left : Option (List Char)} (present : word ≠ []) (unquoted : word.head? ≠ some '"')
      (unbroken : Unbroken word rest) (ends : EndsText rest)
      (after : Placed source (position + word.length) rest exprs stop left) :
      Placed source position (word ++ rest)
        (.text (String.ofList word) ⟨source, position, word.length⟩ :: exprs) stop left

/-- What a line says, with the stretches: a call, which begins with the line. -/
inductive PlacedLine (line : String) : Expr → Prop where
  | marked {rest : List Char} {exprs : List Expr} {stop : Nat} {left : Option (List Char)}
      (begins : line.toList = '!' :: rest) (parameters : Placed line 1 rest exprs stop left) :
      PlacedLine line (.call exprs ⟨line, 0, stop⟩)
  | unmarked {exprs : List Expr} {stop : Nat} {left : Option (List Char)}
      (bare : line.toList.head? ≠ some '!')
      (parameters : Placed line 0 line.toList exprs stop left) :
      PlacedLine line (.call exprs ⟨line, 0, stop⟩)

variable {source : String} {position stop : Nat} {chars : List Char} {exprs : List Expr}
  {left : Option (List Char)}

theorem standsAt_start (source : String) : StandsAt source 0 source.toList := ⟨[], rfl, rfl⟩

theorem StandsAt.after {first rest : List Char} (stands : StandsAt source position (first ++ rest)) :
    StandsAt source (position + first.length) rest := by
  obtain ⟨before, whole, same⟩ := stands
  refine ⟨before ++ first, ?_, ?_⟩
  · rw [whole, List.append_assoc]
  · rw [List.length_append, same]

theorem StandsAt.tail {c : Char} {rest : List Char} (stands : StandsAt source position (c :: rest)) :
    StandsAt source (position + 1) rest := by
  have parts : StandsAt source position ([c] ++ rest) := stands
  exact parts.after

theorem StandsAt.quoted {raw rest : List Char}
    (stands : StandsAt source position ('"' :: (raw ++ '"' :: rest))) :
    StandsAt source (position + raw.length + 2) rest := by
  have behind := stands.tail.after.tail
  rwa [Nat.add_right_comm position 1] at behind

theorem StandsAt.ended (stands : StandsAt source position chars) :
    StandsAt source (position + chars.length) [] := by
  have parts : StandsAt source position (chars ++ []) := by rwa [List.append_nil]
  exact parts.after

theorem StandsAt.length (stands : StandsAt source position chars) :
    position + chars.length = source.toList.length := by
  obtain ⟨before, whole, same⟩ := stands
  rw [whole, List.length_append, same]

theorem StandsAt.text {middle rest : List Char} (stands : StandsAt source position (middle ++ rest)) :
    (Span.text ⟨source, position, middle.length⟩).toList = middle := by
  obtain ⟨before, whole, rfl⟩ := stands
  rw [Span.text, whole, List.drop_left, List.take_left, String.toList_ofList]

theorem StandsAt.text_of_length {length : Nat} {middle rest : List Char}
    (stands : StandsAt source position (middle ++ rest)) (same : middle.length = length) :
    (Span.text ⟨source, position, length⟩).toList = middle := by
  rw [← same]
  exact stands.text

theorem Parameters.exists_placed {shapes : List Shape} (reads : Parameters chars shapes left)
    (source : String) :
    ∀ position, ∃ exprs stop, Expr.shapes exprs = shapes ∧
      Placed source position chars exprs stop left := by
  induction reads with
  | ended => exact fun position => ⟨[], position, rfl, .ended position⟩
  | closed rest => exact fun position => ⟨[], position, rfl, .closed position rest⟩
  | blank white after ih =>
    intro position
    obtain ⟨exprs, stop, same, placed⟩ := ih (position + 1)
    exact ⟨exprs, stop, same, .blank white placed⟩
  | @quoted raw rest shapes left escaped closes after ih =>
    intro position
    obtain ⟨exprs, stop, same, placed⟩ := ih (position + raw.length + 2)
    refine ⟨_, stop, ?_, .quoted escaped closes placed⟩
    rw [Expr.shapes, Expr.shape, same]
  | quotedToEnd escaped => exact fun position => ⟨_, _, rfl, .quotedToEnd position escaped⟩
  | call within after within_ih ih =>
    intro position
    obtain ⟨parameters, closing, inner_same, inner⟩ := within_ih (position + 2)
    obtain ⟨exprs, stop, same, placed⟩ := ih (closing + 1)
    refine ⟨_, stop, ?_, .call inner placed⟩
    rw [Expr.shapes, Expr.shape, inner_same, same]
  | callToEnd within within_ih =>
    intro position
    obtain ⟨parameters, stop, inner_same, inner⟩ := within_ih (position + 2)
    refine ⟨_, stop, ?_, .callToEnd inner⟩
    rw [Expr.shapes, Expr.shape, inner_same, Expr.shapes]
  | @free word rest shapes left present unquoted unbroken ends after ih =>
    intro position
    obtain ⟨exprs, stop, same, placed⟩ := ih (position + word.length)
    refine ⟨_, stop, ?_, .free present unquoted unbroken ends placed⟩
    rw [Expr.shapes, Expr.shape, same]

theorem Line.exists_placedLine {line : String} {shape : Shape} (meaning : Line line.toList shape) :
    ∃ expr, PlacedLine line expr ∧ expr.shape = shape := by
  generalize begins : line.toList = chars at meaning
  cases meaning with
  | marked parameters =>
    obtain ⟨exprs, stop, same, placed⟩ := parameters.exists_placed line 1
    exact ⟨_, .marked begins placed, by rw [Expr.shape, same]⟩
  | unmarked bare parameters =>
    subst begins
    obtain ⟨exprs, stop, same, placed⟩ := parameters.exists_placed line 0
    exact ⟨_, .unmarked bare placed, by rw [Expr.shape, same]⟩

theorem Placed.parameters (placed : Placed source position chars exprs stop left) :
    Parameters chars (Expr.shapes exprs) left := by
  induction placed with
  | ended position => exact .ended
  | closed position rest => exact .closed rest
  | blank white after ih => exact .blank white ih
  | quoted escaped closes after ih => exact .quoted escaped closes ih
  | quotedToEnd position escaped => exact .quotedToEnd escaped
  | call within after within_ih ih => exact .call within_ih ih
  | callToEnd within within_ih => exact .callToEnd within_ih
  | free present unquoted unbroken ends after ih =>
    exact .free present unquoted unbroken ends ih

theorem Placed.le_stop (placed : Placed source position chars exprs stop left) :
    position ≤ stop := by
  induction placed with
  | ended position => exact Nat.le_refl position
  | closed position rest => exact Nat.le_refl position
  | blank white after ih => omega
  | quoted escaped closes after ih => omega
  | quotedToEnd position escaped => omega
  | call within after within_ih ih => omega
  | callToEnd within within_ih => omega
  | free present unquoted unbroken ends after ih => omega

/-- Where the parameters of a call end, what they leave unread stands. -/
theorem Placed.standsAt (placed : Placed source position chars exprs stop left)
    (here : StandsAt source position chars) : StandsAt source stop (unread left) := by
  induction placed with
  | ended position => exact here
  | closed position rest => exact here
  | blank white after ih => exact ih here.tail
  | quoted escaped closes after ih => exact ih here.quoted
  | quotedToEnd position escaped => exact here.ended
  | call within after within_ih ih => exact ih (within_ih here.tail.tail).tail
  | callToEnd within within_ih => exact within_ih here.tail.tail
  | free present unquoted unbroken ends after ih => exact ih here.after

theorem Placed.position_le (placed : Placed source position chars exprs stop left) :
    ∀ expr ∈ exprs, position ≤ expr.span.position := by
  induction placed with
  | ended position => exact List.forall_mem_nil _
  | closed position rest => exact List.forall_mem_nil _
  | blank white after ih =>
    intro expr member
    exact Nat.le_of_succ_le (ih expr member)
  | quoted escaped closes after ih =>
    refine List.forall_mem_cons.2 ⟨Nat.le_succ _, fun expr member => ?_⟩
    have later := ih expr member
    omega
  | quotedToEnd position escaped => exact List.forall_mem_singleton.2 (Nat.le_succ _)
  | call within after within_ih ih =>
    refine List.forall_mem_cons.2 ⟨Nat.le_succ _, fun expr member => ?_⟩
    have later := ih expr member
    have longer := within.le_stop
    omega
  | callToEnd within within_ih => exact List.forall_mem_singleton.2 (Nat.le_succ _)
  | free present unquoted unbroken ends after ih =>
    refine List.forall_mem_cons.2 ⟨Nat.le_refl _, fun expr member => ?_⟩
    have later := ih expr member
    omega

theorem Placed.position_lt (placed : Placed source position chars exprs stop left)
    (ends : EndsText chars) : ∀ expr ∈ exprs, position < expr.span.position := by
  cases placed with
  | ended => exact List.forall_mem_nil _
  | closed => exact List.forall_mem_nil _
  | blank white after => exact after.position_le
  | quoted =>
    cases ends with
    | blank _ white => exact absurd white (by decide)
  | quotedToEnd =>
    cases ends with
    | blank _ white => exact absurd white (by decide)
  | call within after =>
    refine List.forall_mem_cons.2 ⟨Nat.lt_succ_self _, fun expr member => ?_⟩
    have later := after.position_le expr member
    have longer := within.le_stop
    omega
  | callToEnd within => exact List.forall_mem_singleton.2 (Nat.lt_succ_self _)
  | free present unquoted unbroken => exact absurd ends (unbroken _ present (List.suffix_refl _))

end Grammar

end ChatLine
