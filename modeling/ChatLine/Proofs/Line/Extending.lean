import ChatLine.Bot.Calls
import ChatLine.Proofs.Line.Named

set_option autoImplicit false

namespace ChatLine

namespace Grammar

/-- The characters inside a call say its parameters, and at the end of the line this call is open, but
no call and no quoted text inside of it. -/
inductive LeftOpen : List Char → List Shape → Prop where
  | ended : LeftOpen [] []
  | blank {c : Char} {rest : List Char} {shapes : List Shape} (white : Text.isBlank c)
      (after : LeftOpen rest shapes) : LeftOpen (c :: rest) shapes
  | quoted {raw rest : List Char} {shapes : List Shape} (escaped : QuotesEscaped raw)
      (closes : raw.getLast? ≠ some '\\') (after : LeftOpen rest shapes) :
      LeftOpen ('"' :: (raw ++ '"' :: rest)) (.text (String.ofList (unescape raw)) :: shapes)
  | call {inside rest : List Char} {parameters shapes : List Shape}
      (within : Parameters inside parameters (some rest)) (after : LeftOpen rest shapes) :
      LeftOpen ('(' :: '!' :: inside) (.call parameters :: shapes)
  | free {word rest : List Char} {shapes : List Shape} (present : word ≠ [])
      (unquoted : word.head? ≠ some '"') (unbroken : Unbroken word rest) (ends : EndsText rest)
      (after : LeftOpen rest shapes) :
      LeftOpen (word ++ rest) (.text (String.ofList word) :: shapes)

/-- Texts as they are written after a line: each after a space, in quotes. -/
def quoteAll : List String → List Char
  | [] => []
  | text :: rest => ' ' :: '"' :: (escape text.toList ++ '"' :: quoteAll rest)

theorem EndsText.append {chars : List Char} (ends : EndsText chars) (present : chars ≠ [])
    (suffix : List Char) : EndsText (chars ++ suffix) := by
  cases ends with
  | line => exact absurd rfl present
  | blank rest white => exact .blank _ white
  | closing rest => exact .closing _
  | opening rest => exact .opening _

/-- A text ends before some characters whatever is written after them, but for a parenthesis that
could become the opening of a call. -/
theorem EndsText.of_append {chars suffix : List Char} (ends : EndsText (chars ++ suffix))
    (present : chars ≠ []) (settled : 2 ≤ chars.length ∨ suffix.head? ≠ some '!') :
    EndsText chars := by
  obtain ⟨c, tail, rfl⟩ := List.exists_cons_of_ne_nil present
  rw [List.cons_append] at ends
  generalize after : tail ++ suffix = following at ends
  cases ends with
  | blank _ white => exact .blank tail white
  | closing _ => exact .closing tail
  | opening rest =>
    cases tail with
    | nil =>
      rw [List.nil_append] at after
      subst after
      simp at settled
    | cons d tail =>
      obtain ⟨rfl, -⟩ := List.cons.inj after
      exact .opening tail

theorem Unbroken.append {word rest suffix : List Char} (unbroken : Unbroken word rest)
    (settled : rest ≠ [] ∨ suffix.head? ≠ some '!') : Unbroken word (rest ++ suffix) := by
  intro last present ending stops
  rw [← List.append_assoc] at stops
  refine unbroken last present ending (stops.of_append (by simp [present]) ?_)
  refine settled.imp_left fun longer => ?_
  have some_last := List.length_pos_iff.2 present
  have some_rest := List.length_pos_iff.2 longer
  rw [List.length_append]
  omega

/-- A call that is closed is read the same, whatever is written after it. -/
theorem Parameters.append {chars : List Char} {shapes : List Shape} {left : Option (List Char)}
    (reads : Parameters chars shapes left) (suffix : List Char) :
    ∀ rest, left = some rest → Parameters (chars ++ suffix) shapes (some (rest ++ suffix)) := by
  induction reads with
  | ended => exact fun rest same => nomatch same
  | closed rest =>
    intro other same
    cases same
    exact .closed _
  | blank white after ih => exact fun rest same => .blank white (ih rest same)
  | quoted escaped closes after ih =>
    intro rest same
    simpa using Parameters.quoted escaped closes (ih rest same)
  | quotedToEnd escaped => exact fun rest same => nomatch same
  | call within after within_ih ih => exact fun rest same => .call (within_ih _ rfl) (ih rest same)
  | callToEnd within => exact fun rest same => nomatch same
  | free present unquoted unbroken ends after ih =>
    intro rest same
    have longer := List.ne_nil_of_length_pos (Nat.zero_lt_of_lt (after.left_length rest same))
    rw [List.append_assoc]
    exact .free present unquoted (unbroken.append (.inl longer)) (ends.append longer _)
      (ih rest same)

/-- What is written after white space at the end of an open line is read as further parameters. -/
theorem LeftOpen.append {chars : List Char} {shapes : List Shape} (unfinished : LeftOpen chars shapes)
    {c : Char} (white : Text.isBlank c) {rest : List Char} {more : List Shape}
    {left : Option (List Char)} (after : Parameters (c :: rest) more left) :
    Parameters (chars ++ c :: rest) (shapes ++ more) left := by
  induction unfinished with
  | ended => exact after
  | blank white _ ih => exact .blank white ih
  | quoted escaped closes _ ih => simpa using Parameters.quoted escaped closes ih
  | call within _ ih => exact .call (within.append _ _ rfl) ih
  | @free word others _ present unquoted unbroken ends _ ih =>
    have apart : (c :: rest).head? ≠ some '!' := by
      rintro same
      cases same
      exact absurd white (by decide)
    have ends_still : EndsText (others ++ c :: rest) := by
      by_cases last : others = []
      · rw [last]
        exact .blank rest white
      · exact ends.append last _
    rw [List.append_assoc]
    exact .free present unquoted (unbroken.append (.inr apart)) ends_still ih

theorem parameters_quoteAll {texts : List String}
    (closes : ∀ text ∈ texts, text.toList.getLast? ≠ some '\\') :
    Parameters (quoteAll texts) (texts.map .text) none := by
  induction texts with
  | nil => exact .ended
  | cons text rest ih =>
    obtain ⟨first, others⟩ := List.forall_mem_cons.1 closes
    have said :=
      Parameters.quoted (quotesEscaped_escape text.toList) (getLast?_escape first) (ih others)
    rw [unescape_escape, String.ofList_toList] at said
    exact .blank rfl said

/-- Texts written after an open line are read as its further parameters. -/
theorem LeftOpen.parameters_append {chars : List Char} {shapes : List Shape}
    (unfinished : LeftOpen chars shapes) (reads : Parameters chars shapes none) {texts : List String}
    (closes : ∀ text ∈ texts, text.toList.getLast? ≠ some '\\') :
    Parameters (chars ++ quoteAll texts) (shapes ++ texts.map .text) none := by
  have written := parameters_quoteAll closes
  cases texts with
  | nil => simpa [quoteAll] using reads
  | cons text rest => exact unfinished.append rfl written

end Grammar

namespace Reader

open Grammar

variable (source : String)

/-- The reader is at the quote that opens a text, and no quote closes it. -/
def opensQuote (reader : Reader) : Bool :=
  reader.stage = .quoted && (Scan.scanQuoted [] 0 false (reader.rest.drop 1)).rest.isEmpty

/-- The reading ends inside of a quoted text. -/
def EndsQuoted (reader : Reader) : Prop :=
  ∃ steps, ((step source)^[steps] reader).opensQuote = true

/-- At the end of the reading so many calls are open, and no quoted text is. -/
structure EndsOpen (reader : Reader) (calls : Nat) : Prop where
  opened : (reader.run source).opened.length = calls
  unquoted : ¬ EndsQuoted source reader

variable {source}

theorem EndsOpen.of_follows {reader later : Reader} {calls : Nat}
    (ends : EndsOpen source reader calls) (follows : Follows source reader later)
    (selects : later.stage = .select) : EndsOpen source later calls where
  opened := by
    rw [← follows.run_eq]
    exact ends.opened
  unquoted := by
    rintro ⟨steps, opens⟩
    cases steps with
    | zero =>
      rw [Function.iterate_zero, id_eq, opensQuote, selects] at opens
      cases opens
    | succ steps =>
      obtain ⟨before, comes⟩ := follows
      refine ends.unquoted ⟨steps + before + 1, ?_⟩
      rwa [Function.iterate_succ_apply, Function.iterate_add_apply, comes,
        ← Function.iterate_succ_apply]

theorem endsQuoted_of_quotesEscaped {raw : List Char} (escaped : QuotesEscaped raw) (position : Nat)
    (opened : List OpenCall) : EndsQuoted source (selecting position ('"' :: raw) opened) := by
  refine ⟨1, ?_⟩
  rw [Function.iterate_one, step_quote]
  simp [opensQuote, Scan.scanQuoted_open escaped]

/-- A call that the grammar leaves open is open at the end of the line. -/
theorem lt_length_opened {chars : List Char} {shapes : List Shape} {left : Option (List Char)}
    (reads : Parameters chars shapes left) :
    left = none → ∀ position call others,
      others.length < ((selecting position chars (call :: others)).run source).opened.length := by
  induction reads with
  | ended =>
    intro _ position call others
    rw [run_end]
    exact Nat.lt_succ_self _
  | closed rest => exact fun same => nomatch same
  | blank white after ih =>
    intro same position call others
    rw [(follows_blank source white _ _ _).run_eq]
    exact ih same _ _ _
  | quoted escaped closes after ih =>
    intro same position call others
    rw [(follows_quoted source _ escaped closes position call others).run_eq]
    exact ih same _ _ _
  | quotedToEnd escaped =>
    intro _ position call others
    rw [(follows_quotedToEnd source escaped position call others).run_eq, run_end]
    exact Nat.lt_succ_self _
  | call within after within_ih ih =>
    intro same position call others
    obtain ⟨inner, closing, -, comes⟩ := comesTo_of_parameters source within (position + 2)
      ⟨position + 1, []⟩ (call :: others)
    rw [(follows_opening source _ _ _).run_eq, comes.run_eq, (follows_closing source _ _ _ _ _).run_eq]
    exact ih same _ _ _
  | callToEnd within ih =>
    intro _ position call others
    rw [(follows_opening source _ _ _).run_eq]
    exact Nat.lt_of_succ_lt (ih rfl _ _ (call :: others))
  | free present unquoted unbroken ends after ih =>
    intro same position call others
    rw [(follows_free source present unquoted unbroken ends position call others).run_eq]
    exact ih same _ _ _

/-- Where the reader ends inside of a call, and in nothing further inside, the grammar leaves just this
call open. -/
theorem EndsOpen.leftOpen {chars : List Char} {shapes : List Shape} {left : Option (List Char)}
    (reads : Parameters chars shapes left) :
    left = none → ∀ position call others,
      EndsOpen source (selecting position chars (call :: others)) (others.length + 1) →
        LeftOpen chars shapes := by
  induction reads with
  | ended => exact fun _ _ _ _ _ => .ended
  | closed rest => exact fun same => nomatch same
  | blank white after ih =>
    intro same position call others ends
    exact .blank white (ih same _ _ _ (ends.of_follows (follows_blank source white _ _ _) rfl))
  | @quoted raw rest shapes left escaped closes after ih =>
    intro same position call others ends
    have follows := follows_quoted source rest escaped closes position call others
    exact .quoted escaped closes (ih same _ _ _ (ends.of_follows follows rfl))
  | quotedToEnd escaped =>
    intro _ position call others ends
    exact absurd (endsQuoted_of_quotesEscaped escaped position _) ends.unquoted
  | call within after _ ih =>
    intro same position call others ends
    obtain ⟨inner, closing, -, comes⟩ := comesTo_of_parameters source within (position + 2)
      ⟨position + 1, []⟩ (call :: others)
    have follows := ((follows_opening source position _ _).trans comes).trans
      (follows_closing source _ _ _ _ _)
    exact .call within (ih same _ _ _ (ends.of_follows follows rfl))
  | callToEnd within _ =>
    intro _ position call others ends
    have opened := (ends.of_follows (follows_opening source position _ _) rfl).opened
    have deeper : (call :: others).length <
        ((selecting (position + 2) _ (⟨position + 1, []⟩ :: call :: others)).run source).opened.length :=
      lt_length_opened within rfl _ _ _
    rw [opened, List.length_cons] at deeper
    exact absurd deeper (Nat.lt_irrefl _)
  | free present unquoted unbroken endsText after ih =>
    intro same position call others ends
    have follows := follows_free source present unquoted unbroken endsText position call others
    exact .free present unquoted unbroken endsText (ih same _ _ _ (ends.of_follows follows rfl))

/-- A reading that ends inside of a call has not read the parenthesis that closes it. -/
theorem EndsOpen.unclosed {chars : List Char} {shapes : List Shape} {left : Option (List Char)}
    {position : Nat} {call : OpenCall} (ends : EndsOpen source (selecting position chars [call]) 1)
    (reads : Parameters chars shapes left) : left = none := by
  cases left with
  | none => rfl
  | some rest =>
    obtain ⟨exprs, stop, -, comes⟩ := comesTo_of_parameters source reads position call []
    have opened := ends.opened
    rw [comes.run_eq, run_closing_last] at opened
    cases opened

theorem endsOpen_of_steps {reader : Reader} {calls : Nat} (steps : Nat)
    (finished : ((step source)^[steps] reader).stage = .finish)
    (opened : ((step source)^[steps] reader).opened.length = calls)
    (unquoted : ∀ before < steps, ((step source)^[before] reader).opensQuote = false) :
    EndsOpen source reader calls where
  opened := by rwa [← run_iterate source steps, run_finished source finished]
  unquoted := by
    rintro ⟨later, opens⟩
    by_cases before : later < steps
    · rw [unquoted later before] at opens
      cases opens
    · have stays : ∀ further, (step source)^[further] ((step source)^[steps] reader) =
          (step source)^[steps] reader := by
        intro further
        refine Function.iterate_fixed ?_ further
        simp only [step, finished]
      obtain ⟨further, rfl⟩ := Nat.exists_eq_add_of_le (Nat.le_of_not_lt before)
      rw [Nat.add_comm, Function.iterate_add_apply, stays, opensQuote, finished] at opens
      cases opens

end Reader

namespace Expr

open Grammar

/-- A reader that begins stands before the parameters of the outermost call, behind the mark if there
is one. -/
theorem exists_follows_start (source : String) (chars : List Char) :
    ∃ position rest,
      Reader.Follows source (Reader.start chars) (Reader.selecting position rest [⟨0, []⟩]) ∧
        (chars = '!' :: rest ∨ chars = rest ∧ chars.head? ≠ some '!') := by
  by_cases mark : chars.head? = some '!'
  · obtain ⟨rest, rfl⟩ := List.head?_eq_some_iff.1 mark
    exact ⟨1, rest, Reader.follows_marked source rest, .inl rfl⟩
  · exact ⟨0, chars, Reader.follows_unmarked source mark, .inr ⟨rfl, mark⟩⟩

/-- Texts written after a line that ends open are further arguments of what the line means. -/
theorem exists_bound_of_endsOpen {line : String}
    (ends : Reader.EndsOpen line (Reader.start line.toList) 1) {texts : List String}
    (closes : ∀ text ∈ texts, text.toList.getLast? ≠ some '\\') :
    ∃ bound, (Expr.read line).toCommand = .ok (.applied .root bound) ∧
      (Expr.read (line ++ String.ofList (quoteAll texts))).toCommand =
        .ok (.applied .root (bound ++ texts.map .literal)) := by
  obtain ⟨position, rest, follows, begins⟩ := exists_follows_start line line.toList
  have ends := ends.of_follows follows rfl
  obtain ⟨shapes, left, reads⟩ := exists_parameters rest
  obtain rfl := ends.unclosed reads
  have unfinished := Reader.EndsOpen.leftOpen reads rfl position ⟨0, []⟩ [] ends
  have longer := unfinished.parameters_append reads closes
  obtain ⟨bound, meant⟩ := reads.meant
  have lines : Line line.toList (.call shapes) ∧
      Line (line ++ String.ofList (quoteAll texts)).toList (.call (shapes ++ texts.map .text)) := by
    rw [String.toList_append, String.toList_ofList]
    rcases begins with marked | ⟨bare, unmarked⟩
    · rw [marked]
      exact ⟨.marked reads, .marked longer⟩
    · rw [bare] at unmarked ⊢
      refine ⟨.unmarked unmarked reads, .unmarked ?_ longer⟩
      cases rest with
      | nil => cases texts <;> simp [quoteAll]
      | cons c rest => exact unmarked
  refine ⟨bound, ?_, ?_⟩
  · rw [Expr.toCommand_eq, Expr.shape_read_of_line lines.1]
    simp only [Shape.toCommand, meant]
    rfl
  · rw [Expr.toCommand_eq, Expr.shape_read_of_line lines.2]
    simp only [Shape.toCommand, Shape.toCommands_append meant (Shape.toCommands_texts texts)]
    rfl

end Expr

/-- Arguments that a command has already are as good as those that it is called on. -/
theorem Evaluate.run_applied_append {σ : Type} (host : Host σ) (depth : Nat) (callee : Command)
    (bound arguments : List Command) (kinds : List Kind) :
    run host depth (.applied callee bound) arguments kinds =
      run host depth (.applied callee (bound ++ arguments)) [] kinds := by
  cases depth with
  | zero => rfl
  | succ depth => simp only [run, step, List.append_nil]

namespace World

/-- To run a line on texts is to run the line with the texts written after it, if the line ends inside
of its outermost call, outside of all inner calls and of quotes: the same happens to the world, and the
outcome is the same. No text may end with a backslash, which would escape the quote after it. -/
theorem callExpr_eq_callLine_quoteAll {σ : Type} {line : String}
    (ends : Reader.EndsOpen line (Reader.start line.toList) 1) {texts : List String}
    (closes : ∀ text ∈ texts, text.toList.getLast? ≠ some '\\') (host : Host σ)
    (kinds : List Kind) :
    callExpr host (Expr.read line) (texts.map .literal) kinds =
      callLine host (line ++ String.ofList (Grammar.quoteAll texts)) kinds := by
  obtain ⟨bound, alone, extended⟩ := Expr.exists_bound_of_endsOpen ends closes
  have apply_ok (command : Command) (arguments : List Command) :
      (Eval.ofExcept (.ok command) >>= fun command => call host command arguments kinds) =
        call host command arguments kinds := rfl
  unfold callLine callExpr
  rw [alone, extended, apply_ok, apply_ok]
  exact Evaluate.run_applied_append host depthLimit .root bound (texts.map .literal) kinds

/-- A line that ends with a parenthesis that opens nothing, behind a closed call with a quoted
parenthesis in it; a text with a quote and an empty one are written after it. -/
theorem callExpr_eq_callLine_quoteAll_parenthesis :
    Reader.EndsOpen "!say (!b \"q\\\" )\" c)(" (Reader.start "!say (!b \"q\\\" )\" c)(".toList) 1 ∧
      (∀ text ∈ ["a\"b", ""], text.toList.getLast? ≠ some '\\') ∧
        callExpr Host.none (Expr.read "!say (!b \"q\\\" )\" c)(") (["a\"b", ""].map .literal)
            [.string] =
          callLine Host.none
            ("!say (!b \"q\\\" )\" c)(" ++ String.ofList (Grammar.quoteAll ["a\"b", ""]))
            [.string] := by
  have ends : Reader.EndsOpen "!say (!b \"q\\\" )\" c)("
      (Reader.start "!say (!b \"q\\\" )\" c)(".toList) 1 :=
    Reader.endsOpen_of_steps 15 (by decide) (by decide) (by decide)
  have closes : ∀ text ∈ ["a\"b", ""], text.toList.getLast? ≠ some '\\' := by decide
  exact ⟨ends, closes, callExpr_eq_callLine_quoteAll ends closes Host.none [.string]⟩

end World

end ChatLine
