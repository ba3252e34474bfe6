import ChatLine.CaseFile.Basic
import ChatLine.Proofs.Text.Lines

set_option autoImplicit false

namespace ChatLine.CaseFile

def titled (mark title : String) : String := mark ++ (" " ++ title)

/-- A line that names no case. -/
def IsFiller (line : String) : Prop :=
  ¬ nameMark.toList <+: (Text.trim line).toList

/-- Lines that spell a text and go on to a mark. The empty text is spelled by an empty line, or by
none. -/
structure Spells (mark : String) (lines : List String) (text : String) : Prop where
  joined : "\n".intercalate lines = text
  unreturned : ∀ line ∈ lines, '\r' ∉ line.toList
  unmarked : ∀ line ∈ lines, Text.trim line ≠ mark

/-- A text that lines can spell which go on to a mark: it has no carriage return, and none of its
lines is the mark. -/
def Spellable (mark text : String) : Prop :=
  '\r' ∉ text.toList ∧ ∀ line ∈ Text.cutAt (· == '\n') text.toList,
    Text.trimChars line ≠ mark.toList

/-- A text that can stand behind a mark: a single line without white space at its ends. -/
def IsTitle (text : String) : Prop :=
  '\n' ∉ text.toList ∧ Text.trim text = text

/-- A case that can be written. -/
structure Writable (case : Case) : Prop where
  name : IsTitle case.name
  skip : ∀ reason ∈ case.skip, IsTitle reason
  input : Spellable ruler case.input
  expected : Spellable closer case.expected
  trimmed : Text.trim case.expected = case.expected

/-- The lines of a case, with those of its input and of the expected tree. -/
def caseLines (case : Case) (input expected : List String) : List String :=
  titled nameMark case.name ::
    ((case.skip.map (titled skipMark)).toList ++
      ruler :: (input ++ ruler :: (expected ++ [closer])))

/-- The lines are a file of the cases, or the end of one, behind so many lines. -/
inductive Writes : Nat → List Case → List String → Prop where
  | done {number : Nat} {lines : List String} (fillers : ∀ line ∈ lines, IsFiller line) :
      Writes number [] lines
  | case {number : Nat} {before input expected rest : List String} {case : Case}
      {cases : List Case} (fillers : ∀ line ∈ before, IsFiller line)
      (here : case.line = number + before.length + 1)
      (name : Text.trim case.name = case.name)
      (skip : ∀ reason ∈ case.skip, Text.trim reason = reason)
      (spellsInput : Spells ruler input case.input)
      (spellsExpected : Spells closer expected case.expected)
      (trimmed : Text.trim case.expected = case.expected)
      (more : Writes (number + before.length + (caseLines case input expected).length) cases rest) :
      Writes number (case :: cases) (before ++ caseLines case input expected ++ rest)

/-- A mark that can stand before a title: something visible stands at both its ends. -/
structure Heads (mark : String) : Prop where
  first : ∃ c, mark.toList.head? = some c ∧ Text.isBlank c = false
  last : ∃ c, mark.toList.getLast? = some c ∧ Text.isBlank c = false

theorem heads_nameMark : Heads nameMark := ⟨⟨'#', rfl, rfl⟩, ⟨':', rfl, rfl⟩⟩

theorem heads_skipMark : Heads skipMark := ⟨⟨'#', rfl, rfl⟩, ⟨':', rfl, rfl⟩⟩

section Titles

variable {mark title : String}

theorem toList_titled (mark title : String) :
    (titled mark title).toList = mark.toList ++ ' ' :: title.toList := by
  rw [titled, String.toList_append, String.toList_append]
  rfl

/-- A line with a title ends where the title does, or after the mark if the title is empty. -/
theorem trim_titled (heads : Heads mark) (trimmed : Text.trim title = title) :
    Text.trim (titled mark title) = if title = "" then mark else titled mark title := by
  obtain ⟨⟨c, first, visible⟩, ⟨d, last, visibleLast⟩⟩ := heads
  apply String.toList_injective
  rw [Text.toList_trim, toList_titled]
  split
  · rename_i empty
    subst empty
    rw [Text.trimChars_append_blanks (by simp [Text.isBlank])]
    exact Text.trimChars_eq_self (by simp [first, visible]) (by simp [last, visibleLast])
  · rename_i present
    obtain ⟨e, ends⟩ := Option.ne_none_iff_exists'.1 fun nothing =>
      present (String.toList_eq_nil_iff.1 (List.getLast?_eq_none_iff.1 nothing))
    rw [toList_titled]
    refine Text.trimChars_eq_self (by simp [first, visible]) ?_
    simp [List.getLast?_append, List.getLast?_cons, ends, Text.visible_of_trim trimmed ends]

theorem marked?_titled (heads : Heads mark) (trimmed : Text.trim title = title) :
    marked? mark (titled mark title) = some title := by
  rw [marked?, trim_titled heads trimmed]
  split
  · rename_i empty
    subst empty
    have nothing : mark.toList.drop mark.length = [] := by
      rw [← String.length_toList, List.drop_length]
    simp [Text.afterStart?, nothing, Text.trim, Text.trimChars]
  · have behind : Text.afterStart? mark (titled mark title) = some (" " ++ title) := by
      rw [Text.afterStart?, toList_titled,
        if_pos (List.isPrefixOf_iff_prefix.2 (List.prefix_append _ _)), ← String.length_toList,
        List.drop_left, Option.some.injEq, ← String.toList_inj, String.toList_ofList,
        String.toList_append]
      rfl
    rw [behind, Option.map_some, Option.some.injEq]
    apply String.toList_injective
    rw [Text.toList_trim, String.toList_append,
      Text.trimChars_blanks_append (by simp [Text.isBlank]), ← Text.toList_trim, trimmed]

end Titles

theorem marked?_filler {line : String} (filler : IsFiller line) : marked? nameMark line = none := by
  rw [marked?, Text.afterStart?, if_neg (mt List.isPrefixOf_iff_prefix.1 filler)]
  rfl

/-- The line with the reason to skip a case is not taken for a ruler. -/
theorem isMark_ruler_titled {reason : String} (trimmed : Text.trim reason = reason) :
    isMark ruler (titled skipMark reason) = false := by
  rw [isMark, trim_titled heads_skipMark trimmed, beq_eq_false_iff_ne]
  split
  · decide
  · intro same
    have first := congrArg (fun text => text.toList.head?) same
    rw [toList_titled] at first
    revert first
    simp [skipMark, ruler]

theorem cutAtMark_append {mark line : String} {before : List String}
    (unmarked : ∀ line ∈ before, Text.trim line ≠ mark) (here : isMark mark line = true)
    (after : List String) : cutAtMark mark (before ++ line :: after) = (before, after) := by
  have goes : ∀ line ∈ before, (!isMark mark line) = true := by
    intro line inside
    simpa [isMark] using unmarked line inside
  have found : (before ++ line :: after).takeWhile (fun line => !isMark mark line) = before := by
    rw [List.takeWhile_append_of_pos goes, List.takeWhile_cons_of_neg (by simp [here]),
      List.append_nil]
  rw [cutAtMark, found]
  simp

theorem casesOf_fillers {before : List String} (fillers : ∀ line ∈ before, IsFiller line)
    (total : Nat) (rest : List String) :
    casesOf (marked? nameMark) total (before ++ rest) = casesOf (marked? nameMark) total rest := by
  induction before with
  | nil => rfl
  | cons line before ih =>
    rw [List.forall_mem_cons] at fillers
    rw [List.cons_append, casesOf, marked?_filler fillers.1]
    exact ih fillers.2

/-- The lines of a case behind its name give the case, and what comes after it is left. -/
theorem readCase_append {case : Case} {input expected : List String}
    (skip : ∀ reason ∈ case.skip, Text.trim reason = reason)
    (spellsInput : Spells ruler input case.input)
    (spellsExpected : Spells closer expected case.expected)
    (trimmed : Text.trim case.expected = case.expected) (rest : List String) :
    readCase case.name case.line ((case.skip.map (titled skipMark)).toList ++
        ruler :: (input ++ ruler :: (expected ++ closer :: rest))) = (case, rest) := by
  obtain ⟨name, line, content, tree, reason⟩ := case
  have header : ∀ line ∈ (reason.map (titled skipMark)).toList, Text.trim line ≠ ruler := by
    intro line inside
    obtain ⟨title, given, rfl⟩ := Option.map_eq_some_iff.1 (Option.mem_toList.1 inside)
    simpa [isMark] using isMark_ruler_titled (skip title given)
  have skips : skipReason? (reason.map (titled skipMark)).toList = reason := by
    cases reason with
    | none => rfl
    | some title => simp [skipReason?, marked?_titled heads_skipMark (skip title rfl)]
  have rules : isMark ruler ruler = true := by decide
  have closes : isMark closer closer = true := by decide
  simp only [readCase, cutAtMark_append header rules, cutAtMark_append spellsInput.unmarked rules,
    cutAtMark_append spellsExpected.unmarked closes, skips, spellsInput.joined,
    spellsExpected.joined, trimmed]

/-- The cases of a file are read again from its lines. -/
theorem casesOf_of_writes {number : Nat} {cases : List Case} {lines : List String}
    (writes : Writes number cases lines) :
    casesOf (marked? nameMark) (number + lines.length) lines = cases := by
  induction writes with
  | @done number lines fillers =>
    have passed := casesOf_fillers fillers (number + lines.length) []
    rwa [List.append_nil, casesOf] at passed
  | @case number before input expected rest case cases fillers here name skip spellsInput
      spellsExpected trimmed more ih =>
    have total : number + (before ++ caseLines case input expected ++ rest).length =
        number + before.length + (caseLines case input expected).length + rest.length := by
      simp only [List.length_append]
      omega
    have counted : number + before.length + (caseLines case input expected).length + rest.length -
        ((case.skip.map (titled skipMark)).toList ++
          ruler :: (input ++ ruler :: (expected ++ closer :: rest))).length = case.line := by
      simp only [here, caseLines, List.length_append, List.length_cons, List.length_nil]
      omega
    rw [total, List.append_assoc, casesOf_fillers fillers]
    simp only [caseLines, List.cons_append, List.append_assoc, List.nil_append] at counted ih ⊢
    rw [casesOf, marked?_titled heads_nameMark name]
    dsimp only
    rw [counted, readCase_append skip spellsInput spellsExpected trimmed]
    exact congrArg (List.cons case) ih

/-- No line of a case has a carriage return at its end, so all are read as they are. -/
theorem getLast?_caseLines {case : Case} {input expected : List String}
    (name : Text.trim case.name = case.name)
    (skip : ∀ reason ∈ case.skip, Text.trim reason = reason)
    (spellsInput : Spells ruler input case.input)
    (spellsExpected : Spells closer expected case.expected) :
    ∀ line ∈ caseLines case input expected, line.toList.getLast? ≠ some '\r' := by
  have title {mark title : String} (trimmed : Text.trim title = title) :
      (titled mark title).toList.getLast? ≠ some '\r' := by
    intro returns
    rw [toList_titled, List.getLast?_append, List.getLast?_cons] at returns
    cases ends : title.toList.getLast? with
    | none => simp [ends] at returns
    | some c =>
      have visible := Text.visible_of_trim trimmed ends
      simp only [ends, Option.getD_some, Option.some_or, Option.some.injEq] at returns
      subst returns
      revert visible
      decide
  have body {line : String} (unreturned : '\r' ∉ line.toList) :
      line.toList.getLast? ≠ some '\r' :=
    fun returns => unreturned (List.mem_of_getLast? returns)
  intro line inside
  simp only [caseLines, List.mem_cons, List.mem_append, Option.mem_toList, Option.map_eq_some_iff,
    List.not_mem_nil, or_false] at inside
  rcases inside with rfl | ⟨reason, given, rfl⟩ | rfl | given | rfl | given | rfl
  · exact title name
  · exact title (skip reason given)
  · decide
  · exact body (spellsInput.unreturned line given)
  · decide
  · exact body (spellsExpected.unreturned line given)
  · decide

theorem IsFiller.of_keptAs {line read : String} (filler : IsFiller line)
    (kept : Text.KeptAs line read) : IsFiller read := by
  rw [IsFiller, kept.1]
  exact filler

/-- The lines of a file of cases are read as the lines of such a file. -/
theorem Writes.of_readAs {number : Nat} {cases : List Case} {lines read : List String}
    (writes : Writes number cases lines) (reads : Text.ReadAs lines read) :
    Writes number cases read := by
  induction writes generalizing read with
  | done fillers =>
    refine .done fun line inside => ?_
    obtain ⟨written, among, kept⟩ := reads.exists_keptAs inside
    exact (fillers written among).of_keptAs kept
  | @case number before input expected rest case cases fillers here name skip spellsInput
      spellsExpected trimmed more ih =>
    rw [List.append_assoc] at reads
    obtain ⟨first, others, rfl, keptBefore, reads⟩ := reads.exists_append (by simp [caseLines])
    have closes : (caseLines case input expected).getLast? ≠ some "" := by
      simp [caseLines, closer, List.getLast?_cons, List.getLast?_append]
    obtain ⟨same, last, rfl, kept, after⟩ := reads.exists_append fun _ => closes
    obtain rfl := Text.eq_of_keptAs kept (getLast?_caseLines name skip spellsInput spellsExpected)
    have long := keptBefore.length_eq
    rw [← List.append_assoc]
    rw [long] at here
    refine .case ?_ here name skip spellsInput spellsExpected trimmed (long ▸ ih after)
    intro line inside
    obtain ⟨written, among, kept⟩ := (Text.readAs_of_keptAs keptBefore).exists_keptAs inside
    exact (fillers written among).of_keptAs kept

theorem exists_spells {mark text : String} (spellable : Spellable mark text) :
    ∃ lines, Spells mark lines text ∧ ∀ line ∈ lines, '\n' ∉ line.toList := by
  have joined :
      "\n".intercalate ((Text.cutAt (· == '\n') text.toList).map String.ofList) = text := by
    rw [← String.toList_inj, String.toList_intercalate, List.map_map, Text.cutAt_eq_splitOnP]
    simp only [Function.comp_def, String.toList_ofList, List.map_id']
    exact List.intercalate_splitOn '\n'
  refine ⟨_, ⟨joined, ?_, ?_⟩, ?_⟩
  · intro line inside returns
    obtain ⟨piece, among, rfl⟩ := List.mem_map.1 inside
    rw [String.toList_ofList] at returns
    exact spellable.1 (Text.mem_of_mem_cutAt among returns)
  · intro line inside same
    obtain ⟨piece, among, rfl⟩ := List.mem_map.1 inside
    refine spellable.2 piece among ?_
    rw [← same, Text.toList_trim, String.toList_ofList]
  · intro line inside feeds
    obtain ⟨piece, among, rfl⟩ := List.mem_map.1 inside
    rw [String.toList_ofList] at feeds
    simpa using Text.cut_eq_false_of_mem_cutAt among feeds

/-- Cases that can be written are written, each with the number of its line. -/
theorem exists_writes (number : Nat) {cases : List Case}
    (writable : ∀ case ∈ cases, Writable case) :
    ∃ numbered lines, Writes number numbered lines ∧ (∀ line ∈ lines, '\n' ∉ line.toList) ∧
      List.Forall₂ (fun case given : Case => given = { case with line := given.line }) cases
        numbered := by
  induction cases generalizing number with
  | nil => exact ⟨[], [], .done (List.forall_mem_nil _), List.forall_mem_nil _, .nil⟩
  | cons case cases ih =>
    obtain ⟨⟨name, skip, spellsInput, spellsExpected, trimmed⟩, others⟩ :=
      List.forall_mem_cons.1 writable
    obtain ⟨input, inputSpelled, inputSingle⟩ := exists_spells spellsInput
    obtain ⟨expected, expectedSpelled, expectedSingle⟩ := exists_spells spellsExpected
    let given : Case := { case with line := number + 1 }
    obtain ⟨numbered, lines, writes, single, same⟩ :=
      ih (number + (caseLines given input expected).length) others
    refine ⟨given :: numbered, [] ++ caseLines given input expected ++ lines, ?_, ?_,
      .cons rfl same⟩
    · exact .case (List.forall_mem_nil _) rfl name.2 (fun reason inside => (skip reason inside).2)
        inputSpelled expectedSpelled trimmed writes
    · have title {mark title : String} (mark_single : '\n' ∉ mark.toList)
          (isTitle : IsTitle title) : '\n' ∉ (titled mark title).toList := by
        rw [toList_titled]
        simp [mark_single, isTitle.1]
      intro line inside
      simp only [caseLines, List.nil_append, List.cons_append, List.append_assoc, List.mem_cons,
        List.mem_append, Option.mem_toList, Option.map_eq_some_iff] at inside
      rcases inside with rfl | ⟨reason, there, rfl⟩ | rfl | there | rfl | there | rfl | there
      · exact title (by decide) name
      · exact title (by decide) (skip reason there)
      · decide
      · exact inputSingle line there
      · decide
      · exact expectedSingle line there
      · decide
      · exact single line there

/-- Reading undoes writing: of a file of cases the cases are read that it was written for, in order,
each with the number of the line of its name. A file may end with a line feed: then its last line is
empty. All cases that can be written are written so. -/
theorem cases_of_writes :
    (∀ cases lines, (∀ line ∈ lines, '\n' ∉ line.toList) → Writes 0 cases lines →
      CaseFile.cases ("\n".intercalate lines) = cases) ∧
    ∀ cases, (∀ case ∈ cases, Writable case) →
      ∃ numbered lines, Writes 0 numbered lines ∧ (∀ line ∈ lines, '\n' ∉ line.toList) ∧
        List.Forall₂ (fun case given : Case => given = { case with line := given.line }) cases
          numbered := by
  refine ⟨fun cases lines single writes => ?_, fun cases writable => exists_writes 0 writable⟩
  have again := casesOf_of_writes (writes.of_readAs (Text.readAs_lines single))
  rwa [Nat.zero_add] at again

/-- A case that is skipped, and whose input and expected tree look like the marks around them. -/
def lookalike : Case where
  name := "first"
  line := 2
  input := "# test: second\n==="
  expected := "(cmd\n---\n\"a\")"
  skip := some "not yet"

def nameless : Case where
  name := ""
  line := 13
  input := ""
  expected := "(cmd)"
  skip := none

/-- A file with the two cases, a carriage return before them and a line feed at its end. -/
def someLines : List String :=
  ["notes\r"] ++ caseLines lookalike ["# test: second", "==="] ["(cmd", "---", "\"a\")"] ++
    ([""] ++ caseLines nameless [] ["(cmd)"] ++ [""])

theorem cases_of_writes_lookalike :
    (∀ line ∈ someLines, '\n' ∉ line.toList) ∧ Writes 0 [lookalike, nameless] someLines ∧
      CaseFile.cases ("\n".intercalate someLines) = [lookalike, nameless] := by
  have single : ∀ line ∈ someLines, '\n' ∉ line.toList := by decide
  have filler (line : String) (other : line = "notes\r" ∨ line = "") : IsFiller line := by
    rcases other with rfl | rfl
    · unfold IsFiller
      decide
    · unfold IsFiller
      decide
  have last : Writes 17 [] [""] := .done (by simpa using filler "" (.inr rfl))
  have second : Writes 11 [nameless] ([""] ++ caseLines nameless [] ["(cmd)"] ++ [""]) :=
    .case (by simpa using filler "" (.inr rfl)) rfl (by decide) (by decide)
      ⟨rfl, by decide, by decide⟩ ⟨rfl, by decide, by decide⟩ (by decide) last
  have writes : Writes 0 [lookalike, nameless] someLines :=
    .case (by simpa using filler "notes\r" (.inl rfl)) rfl (by decide) (by decide)
      ⟨by decide, by decide, by decide⟩ ⟨by decide, by decide, by decide⟩ (by decide) second
  exact ⟨single, writes, cases_of_writes.1 _ _ single writes⟩

end ChatLine.CaseFile
