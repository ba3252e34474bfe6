import ChatLine.Proofs.Functions.OnTexts
import ChatLine.Proofs.Functions.Transparent
import ChatLine.Proofs.Text.Lines

set_option autoImplicit false

namespace ChatLine

open Command

namespace Text

theorem cutAtDelimiter_ne_nil (delimiter chars : List Char) :
    cutAtDelimiter delimiter chars ≠ [] := by
  fun_cases cutAtDelimiter delimiter chars <;> exact List.cons_ne_nil _ _

theorem intercalate_cutAtDelimiter {delimiter : List Char} (present : delimiter ≠ [])
    (chars : List Char) : delimiter.intercalate (cutAtDelimiter delimiter chars) = chars := by
  fun_induction cutAtDelimiter delimiter chars with
  | case1 => rfl
  | case2 c rest starts ih =>
    obtain ⟨after, whole⟩ := List.isPrefixOf_iff_prefix.1 starts
    have behind : rest.drop (delimiter.length - 1) = after := by
      cases delimiter with
      | nil => exact absurd rfl present
      | cons d others =>
        obtain ⟨rfl, rfl⟩ := List.cons.inj whole
        exact List.drop_left
    rw [List.intercalate_cons_of_ne_nil (cutAtDelimiter_ne_nil _ _), ih, behind, List.nil_append,
      whole]
  | case3 c rest other nothing => exact absurd nothing (cutAtDelimiter_ne_nil _ _)
  | case4 c rest other piece others cut ih =>
    rw [cut] at ih
    cases others with
    | nil =>
      rw [List.intercalate_singleton] at ih ⊢
      rw [ih]
    | cons next more =>
      rw [List.intercalate_cons_cons] at ih ⊢
      rw [← ih]
      rfl

/-- The pieces of a text with the delimiter between them are the text. -/
theorem intercalate_pieces {delimiter : String} (present : delimiter ≠ "") (text : String) :
    delimiter.intercalate (pieces delimiter text) = text := by
  have chars : delimiter.toList ≠ [] := fun nothing => present (String.toList_eq_nil_iff.1 nothing)
  have back : String.toList ∘ String.ofList = id := funext fun _ => String.toList_ofList
  apply String.toList_inj.1
  rw [String.toList_intercalate, pieces_eq, List.map_map, back, List.map_id,
    intercalate_cutAtDelimiter chars]

end Text

namespace Decimal

theorem digit?_digitChar : ∀ digit < 10, digit? (Nat.digitChar digit) = some digit := by decide

theorem visible_of_isDigit {c : Char} (digit : c.isDigit) : Text.isBlank c = false := by
  obtain ⟨least, greatest⟩ : 48 ≤ c.toNat ∧ c.toNat ≤ 57 := Char.isDigit_iff_toNat.1 digit
  simp only [Text.isBlank, Bool.or_eq_false_iff, Bool.and_eq_false_iff, decide_eq_false_iff_not]
  omega

theorem readDigits_append (fits : Nat → Bool) {first : List Char} {start value : Nat}
    (read : readDigits fits start first = .ok value) (rest : List Char) :
    readDigits fits start (first ++ rest) = readDigits fits value rest := by
  induction first generalizing start with
  | nil =>
    cases read
    rfl
  | cons c first ih =>
    rw [readDigits] at read
    rw [List.cons_append, readDigits]
    split at read
    · cases read
    · dsimp only at read ⊢
      split at read
      · rename_i next
        rw [if_pos next]
        exact ih read
      · cases read

/-- The digits of a number that fits are read as that number. -/
theorem readDigits_toDigits {limit number : Nat} (fits : number < limit) :
    readDigits (· < limit) 0 (Nat.toDigits 10 number) = .ok number := by
  induction number using Nat.strongRecOn with
  | _ number ih =>
    rw [Nat.toDigits_eq_if (by decide)]
    split
    · rename_i small
      simp [readDigits, digit?_digitChar number small, fits]
    · rename_i large
      have front := ih (number / 10) (by omega) (by omega)
      have last := digit?_digitChar (number % 10) (Nat.mod_lt _ (by decide))
      have whole : number / 10 * 10 + number % 10 = number := Nat.div_add_mod' number 10
      rw [readDigits_append _ front]
      simp [readDigits, last, whole, fits]

/-- The digits of a number that fits are the number as an argument. -/
theorem readNatural?_trim_toString {number : Nat} (fits : number < 2 * integerLimit) :
    readNatural? (Text.trim (toString number)) = some number := by
  have digits : ∀ c ∈ Nat.toDigits 10 number, c.isDigit :=
    fun c inside => Nat.isDigit_of_mem_toDigits (by decide) (by decide) inside
  have nothing : Text.trimChars (Nat.toDigits 10 number) = Nat.toDigits 10 number :=
    Text.trimChars_eq_self
      (fun c first => visible_of_isDigit (digits c (List.mem_of_mem_head? first)))
      fun c last => visible_of_isDigit (digits c (List.mem_of_getLast? last))
  obtain ⟨c, rest, same⟩ :=
    List.exists_cons_of_ne_nil (Nat.toDigits_ne_nil : Nat.toDigits 10 number ≠ [])
  have read := readDigits_toDigits fits
  rw [readNatural?, Text.toList_trim, Nat.toString_eq_repr, Nat.toList_repr, nothing]
  rw [same] at digits read ⊢
  split
  · rename_i sign
    obtain ⟨rfl, -⟩ := List.cons.inj sign
    exact absurd (digits '+' List.mem_cons_self) (by decide)
  · rw [readUnsigned, read]
    rfl

theorem lt_of_readNatural? {text : String} {value : Nat} (read : readNatural? text = some value) :
    value < 2 * integerLimit := by
  have fits : ∀ chars, (readUnsigned (· < 2 * integerLimit) chars).toOption = some value →
      value < 2 * integerLimit := by
    intro chars read
    cases chars with
    | nil => cases read
    | cons c rest =>
      rw [readUnsigned] at read
      cases digits : readDigits (· < 2 * integerLimit) 0 (c :: rest) with
      | error cause =>
        rw [digits] at read
        cases read
      | ok number =>
        rw [digits] at read
        cases read
        exact of_decide_eq_true (fits_of_readDigits (by decide) digits)
  unfold readNatural? at read
  split at read <;> exact fits _ read

end Decimal

namespace Builtin.Take

variable {σ : Type}

def Reads (word : String) (value : Nat) : Prop :=
  Decimal.readNatural? (Text.trim word) = some value

/-- What the words of the arguments, of which no more than four count, ask for: so many parts, from
this one on, between these delimiters, of a text. -/
inductive Asks : List String → Nat → Nat → Option String → String → Prop where
  | first {word : String} {count : Nat} (reads : Reads word count) (text : String) :
      Asks [word, text] count 0 none text
  | started {word place : String} {count start : Nat} (reads : Reads word count)
      (starts : Reads place start) (text : String) : Asks [word, place, text] count start none text
  | delimited {word place : String} {count start : Nat} (reads : Reads word count)
      (starts : Reads place start) (delimiter text : String) :
      Asks [word, place, delimiter, text] count start (some delimiter) text

def outcome (kinds : List Kind) (delimiter : Option String) (text : String) (count start : Nat) :
    Outcome :=
  match select? count start (parts delimiter text) with
  | none => .error (.native "not enough parts to take")
  | some taken =>
    match answer? delimiter taken kinds with
    | some reply => .ok reply
    | none => .error (.noMatchingKind ("take (wanted " ++ Kind.list kinds ++ ")"))

section Code

variable {call : Caller σ} {line : LineCaller σ} {world middle after : World σ} {kinds : List Kind}
  {count start : Nat} {delimiter : Option String} {text : String}

theorem run_natural {argument : Command} {word : String} {value : Nat}
    (evaluates : (Eval.text call argument).run.run world = some (.ok word, middle))
    (reads : Reads word value) (what : String) :
    ((natural argument what : Native σ Nat).runWith call line).run.run world =
      some (.ok (.ok value), middle) := by
  rw [natural, Native.runWith_bind, Eval.run_bind, Native.run_text evaluates]
  dsimp only
  rw [reads]
  rfl

theorem repeats_deliver {argument : Command}
    (evaluates : (Eval.text call argument).run.run world = some (.ok text, after)) :
    (deliver count start delimiter argument kinds).Repeats call line world
      (Eval.ofExcept (outcome kinds delimiter text count start)) after id := by
  refine Native.repeats_after (Native.run_text evaluates) ?_
  unfold Native.Repeats outcome
  cases select? count start (parts delimiter text) with
  | none => rfl
  | some taken =>
    dsimp only
    cases answer? delimiter taken kinds <;> rfl

theorem exists_of_run_texts_eq_cons {commands : List Command} {word : String} {words : List String}
    (runs : (Eval.texts call commands).run.run world = some (.ok (word :: words), after)) :
    ∃ command rest middle, commands = command :: rest ∧
      (Eval.text call command).run.run world = some (.ok word, middle) ∧
      (Eval.texts call rest).run.run middle = some (.ok words, after) := by
  cases commands with
  | nil => cases runs
  | cons command rest =>
    obtain ⟨_, _, middle, same, first, others⟩ := Eval.exists_of_run_texts_cons runs
    cases same
    exact ⟨command, rest, middle, rfl, first, others⟩

theorem eq_nil_of_run_texts {commands : List Command}
    (runs : (Eval.texts call commands).run.run world = some (.ok [], after)) :
    commands = [] ∧ world = after := by
  cases commands with
  | nil =>
    cases runs
    exact ⟨rfl, rfl⟩
  | cons command rest =>
    obtain ⟨_, _, _, same, _⟩ := Eval.exists_of_run_texts_cons runs
    cases same

/-- Arguments of which fewer than four count are no more than those. -/
theorem eq_of_take {arguments counted : List Command} (same : arguments.take 4 = counted)
    (few : counted.length < 4) : arguments = counted := by
  rw [← same, List.length_take] at few
  rw [← same, List.take_of_length_le (by omega)]

/-- The code evaluates the arguments that count, in order, and nothing else happens. -/
theorem repeats_run {arguments : List Command} {words : List String}
    (evaluates : (Eval.texts call (arguments.take 4)).run.run world = some (.ok words, after))
    (asks : Asks words count start delimiter text) :
    (run arguments kinds).Repeats call line world
      (Eval.ofExcept (outcome kinds delimiter text count start)) after id := by
  cases asks with
  | first reads =>
    obtain ⟨first, _, _, parts, counted, others⟩ := exists_of_run_texts_eq_cons evaluates
    obtain ⟨last, _, _, rfl, asked, none⟩ := exists_of_run_texts_eq_cons others
    obtain ⟨rfl, rfl⟩ := eq_nil_of_run_texts none
    rw [eq_of_take parts (by simp)]
    exact Native.repeats_after (run_natural counted reads "count") (repeats_deliver asked)
  | started reads starts =>
    obtain ⟨first, _, _, parts, counted, others⟩ := exists_of_run_texts_eq_cons evaluates
    obtain ⟨second, _, _, rfl, started, others⟩ := exists_of_run_texts_eq_cons others
    obtain ⟨last, _, _, rfl, asked, none⟩ := exists_of_run_texts_eq_cons others
    obtain ⟨rfl, rfl⟩ := eq_nil_of_run_texts none
    rw [eq_of_take parts (by simp)]
    refine Native.repeats_after (run_natural counted reads "count") ?_
    exact Native.repeats_after (run_natural started starts "start") (repeats_deliver asked)
  | delimited reads starts =>
    obtain ⟨first, _, _, parts, counted, others⟩ := exists_of_run_texts_eq_cons evaluates
    obtain ⟨second, _, _, rfl, started, others⟩ := exists_of_run_texts_eq_cons others
    obtain ⟨third, _, _, rfl, delimited, others⟩ := exists_of_run_texts_eq_cons others
    obtain ⟨last, _, _, rfl, asked, none⟩ := exists_of_run_texts_eq_cons others
    obtain ⟨rfl, rfl⟩ := eq_nil_of_run_texts none
    rw [← List.take_append_drop 4 arguments, parts]
    refine Native.repeats_after (run_natural counted reads "count") ?_
    refine Native.repeats_after (run_natural started starts "start") ?_
    exact Native.repeats_after (Native.run_text delimited) (repeats_deliver asked)

end Code

/-- The kind in which parts are answered: the first that is wanted of a text and a list. -/
def shownAs? (kinds : List Kind) : Option Kind :=
  kinds.find? fun kind => kind = .string ∨ kind = .enumerable

/-- Parts as they are answered: one text with delimiters between them, or a list. -/
def shown (kind : Kind) (delimiter : Option String) (taken : List String) : Reply :=
  if kind = .string then .text ((delimiter.getD " ").intercalate taken) else .items taken

/-- What it is to take exactly what is asked for, for every count and every start. -/
structure IsExact (kind : Kind) (delimiter : Option String) (text : String)
    (taking : Nat → Nat → Outcome) : Prop where
  /-- Nothing is taken where there are not enough parts, and only there. -/
  fails_iff : ∀ count start error, taking count start = .error error ↔
    (parts delimiter text).length < start + count ∧ error = .native "not enough parts to take"
  /-- Where there are enough, the answer is those that are asked for, in their order. -/
  answers : ∀ count start, start + count ≤ (parts delimiter text).length →
    ∃ before taken after, parts delimiter text = before ++ taken ++ after ∧
      before.length = start ∧ taken.length = count ∧
      taking count start = .ok (shown kind delimiter taken)
  /-- Two texts that are taken in a row are one, with a delimiter between them. -/
  joins : kind = .string → ∀ start first second, 0 < first → 0 < second → ∀ whole,
    taking (first + second) start = .ok (.text whole) ↔
      ∃ one other, taking first start = .ok (.text one) ∧
        taking second (start + first) = .ok (.text other) ∧
        whole = one ++ delimiter.getD " " ++ other
  /-- Two lists that are taken in a row are one. -/
  appends : kind = .enumerable → ∀ start first second whole,
    taking (first + second) start = .ok (.items whole) ↔
      ∃ one other, taking first start = .ok (.items one) ∧
        taking second (start + first) = .ok (.items other) ∧ whole = one ++ other
  /-- All that is between delimiters is the text. -/
  restores : ∀ between, delimiter = some between →
    ∃ all, taking (parts delimiter text).length 0 = .ok (shown kind delimiter all) ∧
      between.intercalate all = text

section Outcome

variable {kind : Kind} {kinds : List Kind} {count start : Nat} {taken : List String}

theorem select?_eq_some_iff {all : List String} :
    select? count start all = some taken ↔
      start + count ≤ all.length ∧ (all.drop start).take count = taken := by
  simp [select?]

theorem length_of_select? {all : List String} (found : select? count start all = some taken) :
    taken.length = count := by
  obtain ⟨enough, rfl⟩ := select?_eq_some_iff.1 found
  rw [List.length_take, List.length_drop]
  omega

/-- What is selected in two steps is what is selected in one. -/
theorem select?_add {all : List String} (first second start : Nat) :
    select? (first + second) start all = some taken ↔
      ∃ one other, select? first start all = some one ∧
        select? second (start + first) all = some other ∧ taken = one ++ other := by
  simp only [select?_eq_some_iff]
  constructor
  · rintro ⟨enough, rfl⟩
    refine ⟨_, _, ⟨by omega, rfl⟩, ⟨by omega, rfl⟩, ?_⟩
    rw [List.take_add, List.drop_drop]
  · rintro ⟨_, _, ⟨_, rfl⟩, ⟨enough, rfl⟩, rfl⟩
    refine ⟨by omega, ?_⟩
    rw [List.take_add, List.drop_drop]

theorem exists_shownAs? (wanted : .string ∈ kinds ∨ .enumerable ∈ kinds) :
    ∃ kind, shownAs? kinds = some kind := by
  rw [← Option.isSome_iff_exists, shownAs?, List.find?_isSome]
  rcases wanted with inside | inside
  · exact ⟨_, inside, by decide⟩
  · exact ⟨_, inside, by decide⟩

theorem fits_of_shownAs? (first : shownAs? kinds = some kind) :
    kind = .string ∨ kind = .enumerable := by
  simpa using List.find?_some first

theorem answer?_eq (delimiter : Option String) (taken : List String) (kinds : List Kind) :
    answer? delimiter taken kinds = (shownAs? kinds).map fun kind => shown kind delimiter taken := by
  unfold answer? shownAs?
  induction kinds with
  | nil => rfl
  | cons kind others ih =>
    cases kind with
    | string => rfl
    | enumerable => rfl
    | empty | command | extension name =>
      rw [List.findSome?_cons, List.find?_cons]
      exact ih

theorem kind_shown (first : shownAs? kinds = some kind) (delimiter : Option String)
    (taken : List String) : (shown kind delimiter taken).kind = kind := by
  obtain rfl | rfl := fits_of_shownAs? first <;> rfl

variable (first : shownAs? kinds = some kind) {delimiter : Option String} {text : String}
include first

theorem outcome_eq (count start : Nat) :
    outcome kinds delimiter text count start =
      match select? count start (parts delimiter text) with
      | none => .error (.native "not enough parts to take")
      | some taken => .ok (shown kind delimiter taken) := by
  unfold outcome
  simp only [answer?_eq, first, Option.map_some]

theorem outcome_eq_ok_iff {reply : Reply} :
    outcome kinds delimiter text count start = .ok reply ↔
      ∃ taken, select? count start (parts delimiter text) = some taken ∧
        shown kind delimiter taken = reply := by
  rw [outcome_eq first]
  cases select? count start (parts delimiter text) with
  | none => simp
  | some taken => simp

omit first in
theorem outcome_eq_text_iff (first : shownAs? kinds = some .string) {whole : String} :
    outcome kinds delimiter text count start = .ok (.text whole) ↔
      ∃ taken, select? count start (parts delimiter text) = some taken ∧
        (delimiter.getD " ").intercalate taken = whole := by
  simp [outcome_eq_ok_iff first, shown]

omit first in
theorem outcome_eq_items_iff (first : shownAs? kinds = some .enumerable) {whole : List String} :
    outcome kinds delimiter text count start = .ok (.items whole) ↔
      select? count start (parts delimiter text) = some whole := by
  simp [outcome_eq_ok_iff first, shown]

end Outcome

/-- A text between delimiters is its parts, also where it is one part because they are empty. -/
theorem intercalate_parts (between text : String) :
    between.intercalate (parts (some between) text) = text := by
  unfold parts
  dsimp only
  split
  · rw [String.intercalate_singleton]
  · rename_i present
    exact Text.intercalate_pieces (fun none => present (by rw [none]; rfl)) text

/-- What is taken is exactly what is asked for. -/
theorem isExact_outcome {kind : Kind} {kinds : List Kind} (first : shownAs? kinds = some kind)
    (delimiter : Option String) (text : String) :
    IsExact kind delimiter text (outcome kinds delimiter text) where
  fails_iff count start error := by
    rw [outcome_eq first, select?]
    by_cases enough : start + count ≤ (parts delimiter text).length
    · rw [if_pos enough]
      exact ⟨nofun, fun both => absurd enough (Nat.not_le.2 both.1)⟩
    · rw [if_neg enough]
      exact ⟨fun same => ⟨Nat.not_le.1 enough, (Except.error.inj same).symm⟩,
        fun both => congrArg _ both.2.symm⟩
  answers count start enough := by
    refine ⟨(parts delimiter text).take start, _, ((parts delimiter text).drop start).drop count, ?_,
      ?_, length_of_select? (select?_eq_some_iff.2 ⟨enough, rfl⟩),
      (outcome_eq_ok_iff first).2 ⟨_, select?_eq_some_iff.2 ⟨enough, rfl⟩, rfl⟩⟩
    · rw [List.append_assoc, List.take_append_drop, List.take_append_drop]
    · rw [List.length_take]
      omega
  joins same start few more some_first some_second whole := by
    subst same
    have present {taken : List String} {count start : Nat} (some_taken : 0 < count)
        (found : select? count start (parts delimiter text) = some taken) : taken ≠ [] :=
      List.ne_nil_of_length_pos (length_of_select? found ▸ some_taken)
    simp only [outcome_eq_text_iff first, select?_add]
    constructor
    · rintro ⟨_, ⟨one, other, found, next, rfl⟩, rfl⟩
      exact ⟨_, _, ⟨one, found, rfl⟩, ⟨other, next, rfl⟩,
        String.intercalate_append_of_ne_nil (present some_first found) (present some_second next)⟩
    · rintro ⟨_, _, ⟨one, found, rfl⟩, ⟨other, next, rfl⟩, rfl⟩
      exact ⟨_, ⟨one, other, found, next, rfl⟩,
        String.intercalate_append_of_ne_nil (present some_first found) (present some_second next)⟩
  appends same start few more whole := by
    subst same
    simp only [outcome_eq_items_iff first]
    exact select?_add few more start
  restores between same := by
    subst same
    refine ⟨_, (outcome_eq_ok_iff first).2 ⟨_, select?_eq_some_iff.2 ⟨?_, rfl⟩, rfl⟩, ?_⟩
    · rw [Nat.zero_add]
    · rw [List.drop_zero, List.take_length, intercalate_parts]

end Builtin.Take

namespace Evaluate

open Builtin.Take

variable {σ : Type}

theorem take_sharedFrom (cell count : Nat) (commands : List Command) :
    (sharedFrom cell commands).take count = sharedFrom cell (commands.take count) := by
  induction commands generalizing cell count with
  | nil => simp [sharedFrom]
  | cons command rest ih =>
    cases count with
    | zero => rfl
    | succ count => exact congrArg _ (ih (cell + 1) count)

/-- The command `take` is exact, for every count and every start of 64 bits, every text, every
delimiter or none, and any list of kinds that has a text or a list in it. When the arguments that
count have been evaluated, it fails if the count and the start, added as whole numbers without a
limit, come to more than there are parts, and else answers the parts that are asked for. Taking does
nothing else to the world. -/
theorem taking_is_exact {host : Host σ} {depth : Nat} {command : Command}
    {arguments : List Command} {kinds : List Kind} {world asked : World σ} {words : List String}
    {count start : Nat} {delimiter : Option String} {text : String}
    (isFunction : command.function? = some Builtin.take.function)
    (wanted : .string ∈ kinds ∨ .enumerable ∈ kinds)
    (evaluates : (Eval.texts (run host depth)
      (sharedFrom world.cells.size (arguments.take 4))).run.run (world.grow arguments.length) =
        some (.ok words, asked))
    (asks : Asks words count start delimiter text) :
    (∀ number, (∃ word, Reads word number) ↔ number < 2 * Decimal.integerLimit) ∧
      (run host (depth + 1) command arguments kinds).run.run world =
        (Eval.recorded (Eval.ofExcept (outcome kinds delimiter text count start))).run.run asked ∧
      ∃ kind, shownAs? kinds = some kind ∧
        IsExact kind delimiter text (outcome kinds delimiter text) := by
  obtain ⟨kind, first⟩ := exists_shownAs? wanted
  refine ⟨fun number => ⟨fun ⟨_, reads⟩ => Decimal.lt_of_readNatural? reads,
    fun fits => ⟨_, Decimal.readNatural?_trim_toString fits⟩⟩, ?_, kind, first,
    isExact_outcome first delimiter text⟩
  have mixed : ∃ kind ∈ kinds, kind ≠ .command := by
    rcases wanted with inside | inside
    · exact ⟨_, inside, nofun⟩
    · exact ⟨_, inside, nofun⟩
  rw [← take_sharedFrom] at evaluates
  refine run_of_repeats mixed isFunction rfl rfl (repeats_run evaluates asks) ?_
  intro reply after runs
  rw [Eval.run_ofExcept] at runs
  obtain ⟨answers, -⟩ := Prod.mk.inj (Option.some.inj runs)
  obtain ⟨taken, -, rfl⟩ := (outcome_eq_ok_iff first).1 answers
  rw [kind_shown first]
  exact List.mem_of_find?_eq_some first

/-- Two of four parts between commas, from the second one on. -/
theorem taking_is_exact_commas :
    let world := World.start (.empty .standard) (.fresh .unlimited none) () 0
    ∃ after, (run Host.none 4 (.documented Builtin.take.documented)
      [.literal "2", .literal " 1", .literal ",", .literal "a,b,,c", .literal "more"]
        [.empty, .string]).run.run world = some (.ok (.text "b,"), after) := by
  intro world
  let arguments : List Command :=
    [.literal "2", .literal " 1", .literal ",", .literal "a,b,,c", .literal "more"]
  have isFunction : (Command.documented Builtin.take.documented).function? =
      some Builtin.take.function := rfl
  have wanted : Kind.string ∈ [Kind.empty, .string] ∨ .enumerable ∈ [Kind.empty, .string] :=
    .inl (by decide)
  have fresh : ∀ later, world.cells.size ≤ later →
      (world.grow arguments.length).kept? later = none := by
    intro later outside
    rw [World.kept?_grow]
    exact World.kept?_eq_none outside
  obtain ⟨asked, evaluates, -⟩ : ∃ asked, (Eval.texts (run Host.none 3)
      (sharedFrom world.cells.size (arguments.take 4))).run.run (world.grow arguments.length) =
        some (.ok ["2", " 1", ",", "a,b,,c"], asked) ∧
          asked.bot = (world.grow arguments.length).bot :=
    exists_run_texts_names 1 ["2", " 1", ",", "a,b,,c"] fresh
  have reads : Decimal.readNatural? (Text.trim "2") = some 2 := by decide +kernel
  have starts : Decimal.readNatural? (Text.trim " 1") = some 1 := by decide +kernel
  obtain ⟨_, runs, _⟩ :=
    taking_is_exact isFunction wanted evaluates (.delimited reads starts "," "a,b,,c")
  have cut : parts (some ",") "a,b,,c" = ["a", "b", "", "c"] := by decide +kernel
  have taken : outcome [.empty, .string] (some ",") "a,b,,c" 2 1 = .ok (.text "b,") := by
    rw [outcome, cut]
    rfl
  rw [taken] at runs
  exact ⟨asked, runs⟩

end Evaluate

end ChatLine
