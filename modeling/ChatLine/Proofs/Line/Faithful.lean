import ChatLine.Proofs.Line.Extending
import ChatLine.Proofs.Line.Nesting

set_option autoImplicit false

namespace ChatLine

/-- The text at a place of a line was written in quotes: there is a quote before the place, and the
reader of the line comes to it as one that begins a text. -/
def WrittenInQuotes (line : String) (place : Nat) : Prop :=
  ∃ steps reader, (Reader.step line)^[steps] (Reader.start line.toList) = reader ∧
    reader.stage = .quoted ∧ reader.rest.head? = some '"' ∧ reader.position + 1 = place

/-- The stretch of a part tells what was read there: that of a call is a line that says the same,
and that of a text is its value, where a backslash and a quote are one quote if the text was written
in quotes. No part is a complaint. -/
def Expr.Faithful (line : String) : Expr → Prop
  | .call parameters span => (Expr.read span.text).shape = (Expr.call parameters span).shape
  | .text value span =>
    (WrittenInQuotes line span.position → value.toList = Grammar.unescape span.text.toList) ∧
      (¬ WrittenInQuotes line span.position → value = span.text)
  | .fault _ _ => False

namespace Reader

variable (source : String)

theorem step_ahead (reader : Reader) : reader.position ≤ (step source reader).position ∧
    (step source reader).rest.length ≤ reader.rest.length := by
  unfold step
  split
  · unfold command
    split
    · rename_i same
      simp [same]
    · simp
  · have shorter : reader.skipBlank.rest.length ≤ reader.rest.length :=
      (List.dropWhile_suffix Text.isBlank).length_le
    have further : reader.position ≤ reader.skipBlank.position := Nat.le_add_right _ _
    unfold select
    dsimp only
    split
    · rename_i same
      simp only [same] at shorter ⊢
      exact ⟨further, shorter⟩
    · exact ⟨further, shorter⟩
    · rename_i same
      simp only [same, List.length_cons] at shorter ⊢
      omega
    · rename_i same
      simp only [same, List.length_cons] at shorter ⊢
      omega
    · exact ⟨further, shorter⟩
  · exact ⟨Nat.le_add_right _ _, Scan.scanFree_rest_length _⟩
  · have shorter := Scan.scanQuoted_rest_length [] 0 false (reader.rest.drop 1)
    simp only [quoted, List.length_drop] at shorter ⊢
    omega
  · exact ⟨Nat.le_refl _, Nat.le_refl _⟩

theorem iterate_ahead (steps : Nat) (reader : Reader) :
    reader.position ≤ ((step source)^[steps] reader).position ∧
      ((step source)^[steps] reader).rest.length ≤ reader.rest.length := by
  induction steps with
  | zero => exact ⟨Nat.le_refl _, Nat.le_refl _⟩
  | succ steps ih =>
    rw [Function.iterate_succ_apply']
    have ahead := step_ahead source ((step source)^[steps] reader)
    omega

/-- A quoted text goes on behind its quote, or up to the end of the line. -/
theorem rest_quoted {reader : Reader} (near : (reader.quoted source).position ≤ reader.position + 1) :
    (reader.quoted source).rest = [] := by
  simp only [quoted] at near ⊢
  generalize (Scan.scanQuoted [] 0 false (reader.rest.drop 1)) = found at near
  cases same : found.rest with
  | nil => rfl
  | cons c rest =>
    simp only [same, List.take_succ_cons, List.length_cons] at near
    omega

/-- Where the reader has something left to read, no text that it reads there is in quotes: a quoted
text takes it further. -/
theorem not_writtenInQuotes {line : String} {steps : Nat} {reader : Reader}
    (comes : (step line)^[steps] (start line.toList) = reader) (present : reader.rest ≠ []) :
    ¬ WrittenInQuotes line reader.position := by
  rintro ⟨others, other, comes_other, quoted, -, place⟩
  rcases Nat.lt_or_ge others steps with before | behind
  · -- the quoted text ends behind its first character, or with the line
    obtain ⟨further, rfl⟩ := Nat.exists_eq_add_of_lt before
    have between : (step line)^[further] (other.quoted line) = reader := by
      have first : step line other = other.quoted line := by simp only [step, quoted]
      rw [← comes, ← first, ← comes_other, ← Function.iterate_succ_apply' (step line),
        ← Function.iterate_add_apply]
      congr 1
      omega
    have ahead := iterate_ahead line further (other.quoted line)
    rw [between] at ahead
    have nothing : (other.quoted line).rest = [] := rest_quoted line (by omega)
    rw [nothing, List.length_nil, Nat.le_zero, List.length_eq_zero_iff] at ahead
    exact present ahead.2
  · obtain ⟨further, rfl⟩ := Nat.exists_eq_add_of_le behind
    have between : (step line)^[further] reader = other := by
      rw [← comes, ← comes_other, ← Function.iterate_add_apply, Nat.add_comm]
    have ahead := iterate_ahead line further reader
    rw [between] at ahead
    omega

end Reader

namespace Grammar

/-- A call says the same with nothing in the place of the parenthesis that closes it, or with other
characters after it. -/
theorem Parameters.cut {chars : List Char} {shapes : List Shape} {left : Option (List Char)}
    (reads : Parameters chars shapes left) :
    ∀ rest, left = some rest → ∃ front, chars = front ++ ')' :: rest ∧
      Parameters front shapes none ∧
        ∀ other, Parameters (front ++ ')' :: other) shapes (some other) := by
  induction reads with
  | ended => exact fun rest same => nomatch same
  | closed rest =>
    intro other same
    cases same
    exact ⟨[], rfl, .ended, fun other => .closed other⟩
  | @blank c chars shapes left white after ih =>
    intro rest same
    obtain ⟨front, rfl, cut, closed⟩ := ih rest same
    exact ⟨c :: front, rfl, .blank white cut, fun other => .blank white (closed other)⟩
  | @quoted raw chars shapes left escaped closes after ih =>
    intro rest same
    obtain ⟨front, rfl, cut, closed⟩ := ih rest same
    refine ⟨'"' :: (raw ++ '"' :: front), by simp, .quoted escaped closes cut, fun other => ?_⟩
    simpa using Parameters.quoted escaped closes (closed other)
  | quotedToEnd escaped => exact fun rest same => nomatch same
  | @call inside chars parameters shapes left within after within_ih ih =>
    intro rest same
    obtain ⟨inner, rfl, -, inner_closed⟩ := within_ih chars rfl
    obtain ⟨front, rfl, cut, closed⟩ := ih rest same
    refine ⟨'(' :: '!' :: (inner ++ ')' :: front), by simp, .call (inner_closed front) cut,
      fun other => ?_⟩
    simpa using Parameters.call (inner_closed (front ++ ')' :: other)) (closed other)
  | callToEnd within => exact fun rest same => nomatch same
  | @free word chars shapes left present unquoted unbroken ends after ih =>
    intro rest same
    obtain ⟨front, rfl, cut, closed⟩ := ih rest same
    have alone : Unbroken word front := by
      intro last some_last suffix stops
      have longer := stops.append (by simp [some_last]) (')' :: rest)
      rw [List.append_assoc] at longer
      exact unbroken last some_last suffix longer
    have ends_alone : EndsText front := by
      by_cases nothing : front = []
      · rw [nothing]
        exact .line
      · exact ends.of_append nothing (.inr (by simp))
    refine ⟨word ++ front, by simp, .free present unquoted alone ends_alone cut, fun other => ?_⟩
    have ends_closed : EndsText (front ++ ')' :: other) := by
      by_cases nothing : front = []
      · rw [nothing]
        exact .closing other
      · exact ends_alone.append nothing _
    rw [List.append_assoc]
    exact .free present unquoted (alone.append (.inr (by simp))) ends_closed (closed other)

open ChatLine.Expr

variable {line : String} {position stop : Nat} {chars : List Char} {exprs : List Expr}
  {left : Option (List Char)}

/-- What stands between the beginning and the end of the parameters of a call says the same
parameters. -/
theorem Placed.exists_front (placed : Placed line position chars exprs stop left)
    (here : StandsAt line position chars) :
    ∃ front, chars = front ++ unread left ∧ position + front.length = stop ∧
      Parameters front (shapes exprs) none := by
  have behind := (placed.standsAt here).length
  have bound := here.length
  cases left with
  | none =>
    refine ⟨chars, (List.append_nil chars).symm, ?_, placed.parameters⟩
    simp only [unread, List.length_nil] at behind
    omega
  | some rest =>
    obtain ⟨front, rfl, cut, -⟩ := placed.parameters.cut rest rfl
    refine ⟨front, rfl, ?_, cut⟩
    simp only [unread, List.length_append, List.length_cons] at behind bound
    omega

theorem faithful_quoted {raw rest : List Char} {length : Nat} {opened : List OpenCall}
    (comes : Reader.Follows line (Reader.start line.toList)
      (Reader.selecting position ('"' :: rest) opened))
    (stands : (Span.text ⟨line, position + 1, length⟩).toList = raw) :
    (Expr.text (String.ofList (unescape raw)) ⟨line, position + 1, length⟩).Faithful line := by
  obtain ⟨steps, comes⟩ := comes
  rw [Reader.step_quote, ← Function.iterate_succ_apply] at comes
  have quoted : WrittenInQuotes line (position + 1) := ⟨steps + 1, _, comes, rfl, rfl, rfl⟩
  refine ⟨fun _ => ?_, fun bare => absurd quoted bare⟩
  rw [String.toList_ofList]
  exact congrArg unescape stands.symm

theorem faithful_free {word rest : List Char} {opened : List OpenCall} (present : word ≠ [])
    (unquoted : word.head? ≠ some '"') (goes_on : ¬ EndsText (word ++ rest))
    (comes : Reader.Follows line (Reader.start line.toList)
      (Reader.selecting position (word ++ rest) opened))
    (stands : (Span.text ⟨line, position, word.length⟩).toList = word) :
    (Expr.text (String.ofList word) ⟨line, position, word.length⟩).Faithful line := by
  obtain ⟨c, tail, rfl⟩ := List.exists_cons_of_ne_nil present
  obtain ⟨steps, comes⟩ := comes
  rw [List.cons_append] at comes goes_on
  rw [Reader.step_free line (by simpa using unquoted) goes_on, ← Function.iterate_succ_apply] at comes
  have bare : ¬ WrittenInQuotes line position := Reader.not_writtenInQuotes comes (by simp)
  refine ⟨fun quoted => absurd quoted bare, fun _ => ?_⟩
  rw [← String.toList_inj, String.toList_ofList]
  exact stands.symm

theorem faithful_call {span : Span} {front : List Char} (stands : span.text.toList = '!' :: front)
    (reads : Parameters front (shapes exprs) none) : (Expr.call exprs span).Faithful line := by
  refine shape_read_of_line ?_
  rw [stands]
  exact .marked reads

theorem Placed.faithful_call (within : Placed line (position + 2) chars exprs stop left)
    (here : StandsAt line position ('(' :: '!' :: chars)) :
    (Expr.call exprs ⟨line, position + 1, stop - (position + 1)⟩).Faithful line := by
  obtain ⟨front, rfl, ends, reads⟩ := within.exists_front here.tail.tail
  have whole : StandsAt line (position + 1) (('!' :: front) ++ unread left) := here.tail
  refine Grammar.faithful_call (whole.text_of_length ?_) reads
  rw [List.length_cons]
  omega

/-- Wherever the reader comes to the parameters of a call, their stretches tell what they are. -/
theorem Placed.faithful (placed : Placed line position chars exprs stop left) :
    StandsAt line position chars → ∀ call others,
      Reader.Follows line (Reader.start line.toList)
        (Reader.selecting position chars (call :: others)) →
      ∀ expr ∈ exprs, expr.Everywhere (Faithful line) := by
  induction placed with
  | ended position => exact fun _ _ _ _ => List.forall_mem_nil _
  | closed position rest => exact fun _ _ _ _ => List.forall_mem_nil _
  | blank white after ih =>
    intro here call others comes
    exact ih here.tail call others (comes.trans (Reader.follows_blank line white _ _ _))
  | @quoted position stop raw rest exprs left escaped closes after ih =>
    intro here call others comes
    have text := everywhere_of_parameters (faithful_quoted comes here.tail.text)
      (List.forall_mem_nil _)
    have followed := comes.trans (Reader.follows_quoted line rest escaped closes _ call others)
    exact List.forall_mem_cons.2 ⟨text, ih here.quoted _ others followed⟩
  | @quotedToEnd position raw escaped =>
    intro here call others comes
    have stands : StandsAt line (position + 1) (raw ++ []) := by simpa using here.tail
    exact List.forall_mem_singleton.2
      (everywhere_of_parameters (faithful_quoted comes stands.text) (List.forall_mem_nil _))
  | @call position closing stop inside rest parameters exprs left within after within_ih ih =>
    intro here call others comes
    have inner := here.tail.tail
    have comesTo := Reader.comesTo_of_placed line within ⟨position + 1, []⟩ (call :: others)
    refine List.forall_mem_cons.2 ⟨?_, ?_⟩
    · have opened := comes.trans (Reader.follows_opening line position inside (call :: others))
      exact everywhere_of_parameters (within.faithful_call here) (within_ih inner _ _ opened)
    · exact ih (within.standsAt inner).tail _ _ (comes.trans (Reader.follows_call line comesTo))
  | @callToEnd position stop inside parameters within within_ih =>
    intro here call others comes
    have inner := here.tail.tail
    have ended : stop = line.toList.length := (within.standsAt inner).length
    have opened := comes.trans (Reader.follows_opening line position inside (call :: others))
    rw [← ended]
    exact List.forall_mem_singleton.2
      (everywhere_of_parameters (within.faithful_call here) (within_ih inner _ _ opened))
  | @free position stop word rest exprs left present unquoted unbroken ends after ih =>
    intro here call others comes
    have goes_on := unbroken word present (List.suffix_refl _)
    have text := everywhere_of_parameters
      (faithful_free present unquoted goes_on comes here.text) (List.forall_mem_nil _)
    have followed := comes.trans
      (Reader.follows_free line present unquoted unbroken ends position call others)
    exact List.forall_mem_cons.2 ⟨text, ih here.after _ others followed⟩

/-- The stretches of a line tell what was read, from the outermost call on. -/
theorem PlacedLine.faithful {expr : Expr} (placed : PlacedLine line expr) :
    expr.Everywhere (Faithful line) := by
  cases placed with
  | @marked rest exprs stop left begins parameters =>
    have here : StandsAt line 1 rest := ⟨['!'], begins, rfl⟩
    obtain ⟨front, same, ends, reads⟩ := parameters.exists_front here
    have comes := Reader.follows_marked line rest
    rw [← begins] at comes
    have whole : StandsAt line 0 (('!' :: front) ++ unread left) := ⟨[], by rw [begins, same]; rfl, rfl⟩
    have stands := whole.text_of_length (show ('!' :: front).length = stop by simp; omega)
    exact everywhere_of_parameters (faithful_call stands reads)
      (parameters.faithful here ⟨0, []⟩ [] comes)
  | @unmarked exprs stop left bare parameters =>
    have here := standsAt_start line
    obtain ⟨front, same, ends, reads⟩ := parameters.exists_front here
    have comes := Reader.follows_unmarked line bare
    have whole : StandsAt line 0 (front ++ unread left) := ⟨[], same, rfl⟩
    have stands := whole.text_of_length (show front.length = stop by omega)
    have unmarked : front.head? ≠ some '!' := by
      rintro mark
      refine bare ?_
      rw [same, List.head?_append, mark]
      rfl
    have same_call : (Expr.call exprs ⟨line, 0, stop⟩).Faithful line := by
      refine shape_read_of_line ?_
      rw [stands]
      exact .unmarked unmarked reads
    exact everywhere_of_parameters same_call (parameters.faithful here ⟨0, []⟩ [] comes)

end Grammar

/-- Every part of a line can be found again in the line by its stretch: the text of the stretch of a
call, the outermost one included, is read as a call of the same shape, and a text is the text of its
stretch, or what that says in quotes if it was written in quotes. -/
theorem Expr.spans_faithful {line : String} {path : List Nat} {node : Expr}
    (reached : (Expr.read line).at? path = some node) : node.Faithful line :=
  (Expr.placedLine_read line).faithful path node reached

/-- A call that touches the texts around it, with an escaped quote in it. -/
theorem Expr.spans_faithful_escaped :
    (Expr.read "a(!b \"c\\\"d\")e").at? [1] =
        some (.call [.text "b" ⟨"a(!b \"c\\\"d\")e", 3, 1⟩,
          .text "c\"d" ⟨"a(!b \"c\\\"d\")e", 6, 4⟩] ⟨"a(!b \"c\\\"d\")e", 2, 9⟩) ∧
      (Expr.read (Span.text ⟨"a(!b \"c\\\"d\")e", 2, 9⟩)).shape = .call [.text "b", .text "c\"d"] ∧
      (Expr.text "c\"d" ⟨"a(!b \"c\\\"d\")e", 6, 4⟩).Faithful "a(!b \"c\\\"d\")e" := by
  have call : (Expr.read "a(!b \"c\\\"d\")e").at? [1] =
      some (.call [.text "b" ⟨"a(!b \"c\\\"d\")e", 3, 1⟩,
        .text "c\"d" ⟨"a(!b \"c\\\"d\")e", 6, 4⟩] ⟨"a(!b \"c\\\"d\")e", 2, 9⟩) := by decide +kernel
  have text : (Expr.read "a(!b \"c\\\"d\")e").at? [1, 1] =
      some (.text "c\"d" ⟨"a(!b \"c\\\"d\")e", 6, 4⟩) := by decide +kernel
  exact ⟨call, Expr.spans_faithful call, Expr.spans_faithful text⟩

end ChatLine
