import ChatLine.Line.Reader
import ChatLine.Proofs.Line.Placing
import Mathlib.Logic.Function.Iterate

set_option autoImplicit false

namespace ChatLine

namespace Grammar

theorem unescape_append {first second : List Char}
    (apart : first.getLast? = some '\\' → second.head? ≠ some '"') :
    unescape (first ++ second) = unescape first ++ unescape second := by
  fun_induction unescape first with
  | case1 rest ih =>
    have apart_rest : rest.getLast? = some '\\' → second.head? ≠ some '"' := by
      intro last
      apply apart
      simp [List.getLast?_cons, last]
    simp only [List.cons_append, unescape, ih apart_rest]
  | case2 c rest other ih =>
    have apart_rest : rest.getLast? = some '\\' → second.head? ≠ some '"' := by
      intro last
      apply apart
      simp [List.getLast?_cons, last]
    have same : unescape (c :: (rest ++ second)) = c :: unescape (rest ++ second) := by
      rw [unescape.eq_2]
      intro tail backslash quote
      cases rest with
      | nil =>
        refine apart ?_ ?_
        · simp [backslash]
        · simp [show second = '"' :: tail from quote]
      | cons d rest =>
        rw [List.cons_append, List.cons.injEq] at quote
        exact other rest backslash (by rw [quote.1])
    rw [List.cons_append, same, ih apart_rest, List.cons_append]
  | case3 => rfl

theorem endsText_iff (c : Char) (rest : List Char) :
    EndsText (c :: rest) ↔ Scan.endsFree c rest = true := by
  constructor
  · intro ends
    cases ends with
    | blank rest white => simp [Scan.endsFree, white]
    | closing rest => simp [Scan.endsFree]
    | opening rest => simp [Scan.endsFree, Scan.opensCall]
  · intro ends
    simp only [Scan.endsFree, Bool.or_eq_true, decide_eq_true_eq] at ends
    rcases ends with (rfl | white) | opens
    · exact .closing rest
    · exact .blank rest white
    · unfold Scan.opensCall at opens
      split at opens
      · rename_i same
        cases same
        exact .opening _
      · cases opens

end Grammar

namespace Scan

open Grammar

/-- A free text is scanned as the word before the next end of a text. -/
theorem scanFree_append {word rest : List Char} (unbroken : Unbroken word rest)
    (ends : EndsText rest) : scanFree (word ++ rest) = ⟨word, word.length, rest⟩ := by
  induction word with
  | nil =>
    cases rest with
    | nil => rfl
    | cons c rest => simp only [List.nil_append, scanFree, (endsText_iff c rest).1 ends, ↓reduceIte,
        List.length_nil]
  | cons c word ih =>
    have goes_on : ¬ endsFree c (word ++ rest) := by
      intro stops
      exact unbroken (c :: word) (by simp) (List.suffix_refl _) ((endsText_iff c _).2 stops)
    simp only [List.cons_append, scanFree, goes_on, Bool.false_eq_true, ↓reduceIte,
      ih unbroken.tail,
      Scanned.cons, List.length_cons]

/-- A quoted text is scanned character by character: after the characters `seen`, the value so far
is what they stand for, and a quote is escaped if the last of them is a backslash. -/
theorem scanQuoted_append {raw : List Char} (seen rest : List Char)
    (escaped : QuotesEscaped (seen ++ raw)) :
    scanQuoted (unescape seen).reverse seen.length (seen.getLast? = some '\\') (raw ++ rest) =
      scanQuoted (unescape (seen ++ raw)).reverse (seen ++ raw).length
        ((seen ++ raw).getLast? = some '\\') rest := by
  induction raw generalizing seen with
  | nil => rw [List.append_nil, List.nil_append]
  | cons c raw ih =>
    have parts : seen ++ c :: raw = (seen ++ [c]) ++ raw := by
      rw [List.append_assoc]
      rfl
    have further := ih (seen ++ [c]) (parts ▸ escaped)
    rw [parts, ← further, List.cons_append, scanQuoted]
    by_cases quote : c = '"'
    · subst quote
      have last := escaped seen raw rfl
      obtain ⟨init, rfl⟩ := List.getLast?_eq_some_iff.1 last
      have value : unescape (init ++ ['\\'] ++ ['"']) = unescape init ++ ['"'] := by
        rw [List.append_assoc, unescape_append (by simp)]
        rfl
      have before : unescape (init ++ ['\\']) = unescape init ++ ['\\'] := by
        rw [unescape_append (by simp)]
        rfl
      simp [value, before, -List.append_assoc]
    · have value : unescape (seen ++ [c]) = unescape seen ++ [c] := by
        rw [unescape_append fun _ => by simpa using quote]
        simp [unescape]
      simp [value, quote]

theorem scanQuoted_closed {raw : List Char} (rest : List Char) (escaped : QuotesEscaped raw)
    (closes : raw.getLast? ≠ some '\\') :
    scanQuoted [] 0 false (raw ++ '"' :: rest) = ⟨unescape raw, raw.length, '"' :: rest⟩ := by
  have scanned := scanQuoted_append [] ('"' :: rest) escaped
  simp only [List.nil_append] at scanned
  have first : scanQuoted [] 0 false (raw ++ '"' :: rest) = _ := scanned
  rw [first, scanQuoted]
  simp [closes]

/-- A quoted text without closing quote is scanned up to the end of the line. -/
theorem scanQuoted_open {raw : List Char} (escaped : QuotesEscaped raw) :
    scanQuoted [] 0 false raw = ⟨unescape raw, raw.length, []⟩ := by
  have scanned := scanQuoted_append [] [] escaped
  simp only [List.nil_append, List.append_nil] at scanned
  have first : scanQuoted [] 0 false raw = _ := scanned
  rw [first, scanQuoted]
  simp

end Scan

def OpenCall.pushAll (call : OpenCall) (exprs : List Expr) : OpenCall :=
  exprs.foldl OpenCall.push call

theorem OpenCall.pushAll_parameters (call : OpenCall) (exprs : List Expr) :
    (call.pushAll exprs).parameters = exprs.reverse ++ call.parameters := by
  induction exprs generalizing call with
  | nil => rfl
  | cons expr exprs ih =>
    have further := ih (call.push expr)
    simpa [pushAll, push] using further

theorem OpenCall.pushAll_start (call : OpenCall) (exprs : List Expr) :
    (call.pushAll exprs).start = call.start := by
  induction exprs generalizing call with
  | nil => rfl
  | cons expr exprs ih => exact ih (call.push expr)

/-- A call that began without parameters is closed as the call of those that were pushed. -/
theorem OpenCall.close_pushAll (source : String) (start stop : Nat) (exprs : List Expr) :
    (OpenCall.pushAll ⟨start, []⟩ exprs).close source stop =
      .call exprs ⟨source, start, stop - start⟩ := by
  simp [close, pushAll_parameters, pushAll_start]

namespace Reader

open Grammar

/-- A reader that looks for the next parameter of the innermost open call. -/
abbrev selecting (position : Nat) (rest : List Char) (opened : List OpenCall) : Reader :=
  ⟨.select, position, rest, opened, none⟩

variable (source : String)

theorem run_step (reader : Reader) (going : reader.stage ≠ .finish) :
    reader.run source = (reader.step source).run source := by
  rw [run, if_neg going]

theorem run_finished {reader : Reader} (finished : reader.stage = .finish) :
    reader.run source = reader := by
  rw [run, if_pos finished]

/-- A reader comes to where another one stands, white space apart that this one skips as well. -/
def Follows (reader later : Reader) : Prop :=
  ∃ steps, (step source)^[steps] (step source reader) = step source later

variable {source} in
theorem Follows.refl (reader : Reader) : Follows source reader reader := ⟨0, rfl⟩

variable {source} in
theorem Follows.trans {first second third : Reader} (early : Follows source first second)
    (late : Follows source second third) : Follows source first third := by
  obtain ⟨steps, early⟩ := early
  obtain ⟨further, late⟩ := late
  refine ⟨further + steps, ?_⟩
  rw [Function.iterate_add_apply, early, late]

theorem follows_of_steps {reader later : Reader} (steps : Nat)
    (comes : (step source)^[steps] (step source reader) = later) : Follows source reader later := by
  refine ⟨steps + 1, ?_⟩
  rw [Function.iterate_succ_apply', comes]

theorem run_iterate (steps : Nat) (reader : Reader) :
    ((step source)^[steps] reader).run source = reader.run source := by
  induction steps generalizing reader with
  | zero => rfl
  | succ steps ih =>
    rw [Function.iterate_succ_apply, ih]
    by_cases finished : reader.stage = .finish
    · simp only [step, finished]
    · exact (run_step source reader finished).symm

variable {source} in
theorem Follows.run_eq {reader later : Reader} (follows : Follows source reader later) :
    reader.run source = later.run source := by
  obtain ⟨steps, comes⟩ := follows
  rw [← run_iterate source 1 reader, Function.iterate_one, ← run_iterate source steps, comes]
  exact run_iterate source 1 later

theorem skipBlank_visible {reader : Reader} {c : Char} {rest : List Char}
    (same : reader.rest = c :: rest) (visible : Text.isBlank c = false) :
    reader.skipBlank = reader := by
  cases reader
  subst same
  simp [skipBlank, visible]

theorem follows_blank {c : Char} (white : Text.isBlank c) (position : Nat) (rest : List Char)
    (opened : List OpenCall) :
    Follows source (selecting position (c :: rest) opened)
      (selecting (position + 1) rest opened) := by
  have skipped : (selecting position (c :: rest) opened).skipBlank =
      (selecting (position + 1) rest opened).skipBlank := by
    simp only [skipBlank, List.takeWhile_cons, List.dropWhile_cons, white, ↓reduceIte,
      List.length_cons, Reader.mk.injEq, and_true, true_and]
    omega
  refine ⟨0, ?_⟩
  simp only [Function.iterate_zero, id_eq, step, select, skipped]

theorem run_end (position : Nat) (opened : List OpenCall) :
    (selecting position [] opened).run source = ⟨.finish, position, [], opened, none⟩ := by
  rw [run_step source _ (by simp)]
  simp only [step, select, skipBlank, List.takeWhile_nil, List.length_nil, Nat.add_zero,
    List.dropWhile_nil]
  exact run_finished source rfl

theorem step_quote (position : Nat) (rest : List Char) (opened : List OpenCall) :
    step source (selecting position ('"' :: rest) opened) =
      ⟨.quoted, position, '"' :: rest, opened, none⟩ := by
  simp only [step, select]
  rw [skipBlank_visible rfl (by decide)]
  rfl

theorem follows_quoted {raw : List Char} (rest : List Char) (escaped : QuotesEscaped raw)
    (closes : raw.getLast? ≠ some '\\') (position : Nat) (call : OpenCall)
    (others : List OpenCall) :
    Follows source (selecting position ('"' :: (raw ++ '"' :: rest)) (call :: others))
      (selecting (position + raw.length + 2) rest
        (call.push (.text (String.ofList (unescape raw)) ⟨source, position + 1, raw.length⟩) ::
          others)) := by
  have next : position + 1 + raw.length + 1 = position + raw.length + 2 := by omega
  refine follows_of_steps source 1 ?_
  rw [Function.iterate_one, step_quote]
  simp only [step, quoted, List.drop_succ_cons, List.drop_zero,
    Scan.scanQuoted_closed rest escaped closes, push, List.take_succ_cons, List.take_zero,
    List.length_cons, List.length_nil, Nat.zero_add, next]

theorem follows_quotedToEnd {raw : List Char} (escaped : QuotesEscaped raw) (position : Nat)
    (call : OpenCall) (others : List OpenCall) :
    Follows source (selecting position ('"' :: raw) (call :: others))
      (selecting (position + raw.length + 1) []
        (call.push (.text (String.ofList (unescape raw)) ⟨source, position + 1, raw.length⟩) ::
          others)) := by
  refine follows_of_steps source 1 ?_
  rw [Function.iterate_one, step_quote]
  simp only [step, quoted, List.drop_succ_cons, List.drop_zero, Scan.scanQuoted_open escaped,
    push, List.take_nil, List.length_nil, List.drop_nil, Nat.add_zero, Nat.add_right_comm position 1]

/-- At a character that goes on a text and is no quote, the reader begins a free text. -/
theorem step_free {c : Char} {rest : List Char} (unquoted : c ≠ '"')
    (goes_on : ¬ EndsText (c :: rest)) (position : Nat) (opened : List OpenCall) :
    step source (selecting position (c :: rest) opened) =
      ⟨.free, position, c :: rest, opened, none⟩ := by
  have visible : Text.isBlank c = false := by
    cases white : Text.isBlank c with
    | true => exact absurd (.blank _ white) goes_on
    | false => rfl
  simp only [step]
  unfold select
  rw [skipBlank_visible rfl visible]
  dsimp only
  split
  · rename_i same
    cases same
  · rename_i same
    cases same
    exact absurd rfl unquoted
  · rename_i same
    exact absurd (same ▸ .opening _) goes_on
  · rename_i same
    exact absurd (same ▸ .closing _) goes_on
  · rfl

theorem follows_free {word rest : List Char} (present : word ≠ [])
    (unquoted : word.head? ≠ some '"') (unbroken : Unbroken word rest) (ends : EndsText rest)
    (position : Nat) (call : OpenCall) (others : List OpenCall) :
    Follows source (selecting position (word ++ rest) (call :: others))
      (selecting (position + word.length) rest
        (call.push (.text (String.ofList word) ⟨source, position, word.length⟩) :: others)) := by
  have goes_on := unbroken word present (List.suffix_refl _)
  have scanned := Scan.scanFree_append unbroken ends
  obtain ⟨c, tail, rfl⟩ := List.exists_cons_of_ne_nil present
  rw [List.cons_append] at goes_on scanned
  refine follows_of_steps source 1 ?_
  rw [Function.iterate_one, List.cons_append, step_free source (by simpa using unquoted) goes_on]
  simp only [step, free, scanned, push]

theorem follows_opening (position : Nat) (rest : List Char) (opened : List OpenCall) :
    Follows source (selecting position ('(' :: '!' :: rest) opened)
      (selecting (position + 2) rest (⟨position + 1, []⟩ :: opened)) := by
  have opens : step source (selecting position ('(' :: '!' :: rest) opened) =
      ⟨.command, position + 1, '!' :: rest, opened, none⟩ := by
    simp only [step, select]
    rw [skipBlank_visible rfl (by decide)]
    rfl
  refine follows_of_steps source 1 ?_
  rw [Function.iterate_one, opens]
  rfl

theorem follows_closing (position : Nat) (rest : List Char) (call outer : OpenCall)
    (others : List OpenCall) :
    Follows source (selecting position (')' :: rest) (call :: outer :: others))
      (selecting (position + 1) rest (outer.push (call.close source position) :: others)) := by
  refine follows_of_steps source 0 ?_
  rw [Function.iterate_zero, id_eq]
  simp only [step, select]
  rw [skipBlank_visible rfl (by decide)]
  simp only [close, List.isEmpty_cons, Bool.false_eq_true, ↓reduceIte]

theorem run_closing_last (position : Nat) (rest : List Char) (call : OpenCall) :
    (selecting position (')' :: rest) [call]).run source =
      ⟨.finish, position + 1, rest, [], some (call.close source position)⟩ := by
  rw [run_step source _ (by simp)]
  simp only [step, select]
  rw [skipBlank_visible rfl (by decide)]
  simp only [close, List.isEmpty_nil, ↓reduceIte]
  exact run_finished source rfl

theorem tree_closed {reader : Reader} {root : Expr} (closed : reader.opened = [])
    (found : reader.root? = some root) : reader.tree source = root := by
  unfold tree closeAll
  simp only [closed, List.isEmpty_nil, ↓reduceIte, found]

theorem tree_open {reader : Reader} (some_open : reader.opened ≠ []) :
    reader.tree source = (reader.close source source.toList.length).tree source := by
  unfold tree
  rw [closeAll, if_neg (by simpa using some_open)]

theorem tree_end_inner (position : Nat) (call outer : OpenCall) (others : List OpenCall) :
    ((selecting position [] (call :: outer :: others)).run source).tree source =
      ((selecting position [] (outer.push (call.close source source.toList.length) :: others)).run
        source).tree source := by
  rw [run_end, run_end, tree_open source (by simp)]
  rfl

theorem tree_end_last (position : Nat) (call : OpenCall) :
    ((selecting position [] [call]).run source).tree source =
      call.close source source.toList.length := by
  rw [run_end, tree_open source (by simp)]
  exact tree_closed source rfl rfl

/-- The reader comes to the parenthesis that closes the innermost of some open calls, with `rest` after
it, or to the end of the line, where the tree is told by the calls that are open there. -/
def ComesTo (reader : Reader) (opened : List OpenCall) (stop : Nat) : Option (List Char) → Prop
  | some rest => Follows source reader (selecting stop (')' :: rest) opened)
  | none => (reader.run source).tree source = ((selecting stop [] opened).run source).tree source

variable {source} in
theorem ComesTo.after {first second : Reader} {opened : List OpenCall} {stop : Nat}
    {left : Option (List Char)} (comes : ComesTo source second opened stop left)
    (follows : Follows source first second) : ComesTo source first opened stop left := by
  cases left with
  | some rest => exact follows.trans comes
  | none =>
    unfold ComesTo at comes ⊢
    rwa [follows.run_eq]

/-- A call that is closed becomes a parameter of the call around it. -/
theorem follows_call {position closing : Nat} {inside rest : List Char} {parameters : List Expr}
    {call : OpenCall} {others : List OpenCall}
    (within : ComesTo source (selecting (position + 2) inside (⟨position + 1, []⟩ :: call :: others))
      (OpenCall.pushAll ⟨position + 1, []⟩ parameters :: call :: others) closing (some rest)) :
    Follows source (selecting position ('(' :: '!' :: inside) (call :: others))
      (selecting (closing + 1) rest
        (call.push (.call parameters ⟨source, position + 1, closing - (position + 1)⟩) ::
          others)) := by
  have opens := follows_opening source position inside (call :: others)
  have closed := (opens.trans within).trans (follows_closing source _ _ _ _ _)
  rwa [OpenCall.close_pushAll] at closed

/-- Inside a call, the reader appends the parameters that the grammar says, with their stretches, and
comes to the parenthesis that closes the call or to the end of the line. -/
theorem comesTo_of_placed {position stop : Nat} {chars : List Char} {exprs : List Expr}
    {left : Option (List Char)} (placed : Placed source position chars exprs stop left) :
    ∀ call others, ComesTo source (selecting position chars (call :: others))
      (call.pushAll exprs :: others) stop left := by
  induction placed with
  | ended position => exact fun call others => rfl
  | closed position rest => exact fun call others => .refl _
  | blank white after ih =>
    exact fun call others => (ih call others).after (follows_blank source white _ _ _)
  | quoted escaped closes after ih =>
    exact fun call others => (ih _ others).after (follows_quoted source _ escaped closes _ call others)
  | quotedToEnd position escaped =>
    intro call others
    exact ComesTo.after rfl (follows_quotedToEnd source escaped position call others)
  | call within after within_ih ih =>
    intro call others
    exact (ih _ others).after (follows_call source (within_ih ⟨_, []⟩ (call :: others)))
  | @callToEnd position stop inside parameters within within_ih =>
    intro call others
    have comes := (within_ih ⟨position + 1, []⟩ (call :: others)).after
      (follows_opening source position _ (call :: others))
    have ended := Eq.trans comes (tree_end_inner source stop _ call others)
    rwa [OpenCall.close_pushAll] at ended
  | free present unquoted unbroken ends after ih =>
    exact fun call others =>
      (ih _ others).after (follows_free source present unquoted unbroken ends _ call others)

/-- Wherever parameters are read, the reader appends what the grammar says. -/
theorem comesTo_of_parameters {chars : List Char} {shapes : List Shape} {left : Option (List Char)}
    (reads : Parameters chars shapes left) :
    ∀ position call others, ∃ exprs stop, Expr.shapes exprs = shapes ∧
      ComesTo source (selecting position chars (call :: others)) (call.pushAll exprs :: others) stop
        left := by
  intro position call others
  obtain ⟨exprs, stop, same, placed⟩ := reads.exists_placed source position
  exact ⟨exprs, stop, same, comesTo_of_placed source placed call others⟩

/-- The outermost call is read with the parameters that the grammar says, and with its stretch. -/
theorem tree_of_placed {position stop : Nat} {chars : List Char} {exprs : List Expr}
    {left : Option (List Char)} (placed : Placed source position chars exprs stop left)
    (here : StandsAt source position chars) (start : Nat) :
    ((selecting position chars [⟨start, []⟩]).run source).tree source =
      .call exprs ⟨source, start, stop - start⟩ := by
  have comes := comesTo_of_placed source placed ⟨start, []⟩ []
  cases left with
  | none =>
    have ended : stop = source.toList.length := (placed.standsAt here).length
    unfold ComesTo at comes
    rw [comes, tree_end_last, OpenCall.close_pushAll, ended]
  | some rest =>
    rw [comes.run_eq, run_closing_last, tree_closed source rfl rfl, OpenCall.close_pushAll]

/-- Behind the mark of a line, the reader stands before the parameters of the outermost call. -/
theorem follows_marked (rest : List Char) :
    Follows source (start ('!' :: rest)) (selecting 1 rest [⟨0, []⟩]) :=
  follows_of_steps source 0 rfl

/-- Where a line has no mark, the reader stands before the parameters from the start. -/
theorem follows_unmarked {chars : List Char} (bare : chars.head? ≠ some '!') :
    Follows source (start chars) (selecting 0 chars [⟨0, []⟩]) := by
  refine follows_of_steps source 0 ?_
  show command ⟨.command, 0, chars, [], none⟩ = _
  unfold command
  split
  · rename_i marked
    cases marked
    exact absurd rfl bare
  · rfl

theorem exists_steps (reader : Reader) :
    ∃ steps, ((step source)^[steps] reader).stage = .finish ∧
      (step source)^[steps] reader = reader.run source := by
  fun_induction run source reader with
  | case1 reader finished => exact ⟨0, finished, rfl⟩
  | case2 reader going ih =>
    obtain ⟨steps, finished, same⟩ := ih
    exact ⟨steps + 1, finished, same⟩

end Reader

open Grammar in
/-- A line is read as the grammar says, the stretches included. -/
theorem Expr.read_of_placedLine {line : String} {expr : Expr} (placed : PlacedLine line expr) :
    Expr.read line = expr := by
  unfold Expr.read
  cases placed with
  | marked begins parameters =>
    have here : StandsAt line 1 _ := ⟨['!'], begins, rfl⟩
    rw [begins, (Reader.follows_marked line _).run_eq]
    exact Reader.tree_of_placed line parameters here 0
  | unmarked bare parameters =>
    rw [(Reader.follows_unmarked line bare).run_eq]
    exact Reader.tree_of_placed line parameters (standsAt_start line) 0

open Grammar in
theorem Expr.shape_read_of_line {line : String} {shape : Shape} (meaning : Line line.toList shape) :
    (Expr.read line).shape = shape := by
  obtain ⟨expr, placed, same⟩ := meaning.exists_placedLine
  rw [Expr.read_of_placedLine placed, same]

open Grammar in
theorem Expr.placedLine_read (line : String) : PlacedLine line (Expr.read line) := by
  obtain ⟨shape, meaning⟩ := exists_line line.toList
  obtain ⟨expr, placed, -⟩ := meaning.exists_placedLine
  rwa [Expr.read_of_placedLine placed]

/-- For every line the reader comes to its end in finitely many steps, and what it has read is what
the grammar says about the line, which is exactly one thing. -/
theorem Expr.read_iff_line (line : String) :
    (∃ steps, ((Reader.step line)^[steps] (Reader.start line.toList)).stage = .finish ∧
      ((Reader.step line)^[steps] (Reader.start line.toList)).tree line = Expr.read line) ∧
    ∀ shape, (Expr.read line).shape = shape ↔ Grammar.Line line.toList shape := by
  refine ⟨?_, fun shape => ⟨?_, ?_⟩⟩
  · obtain ⟨steps, finished, same⟩ := Reader.exists_steps line (Reader.start line.toList)
    refine ⟨steps, finished, ?_⟩
    rw [same]
    rfl
  · intro same
    obtain ⟨said, meaning⟩ := Grammar.exists_line line.toList
    have read := Expr.shape_read_of_line meaning
    rw [← same, read]
    exact meaning
  · exact fun meaning => Expr.shape_read_of_line meaning

end ChatLine
