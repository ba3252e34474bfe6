import ChatLine.Tree
import Mathlib.Data.List.Infix
import Mathlib.Data.List.TakeWhile

set_option autoImplicit false

namespace ChatLine

/-- The length of the shortest beginning of a text that contains characters in order, if the text
does. -/
def span (chars text : List Char) : Nat :=
  text.inits.findIdx fun beginning => decide (chars.Sublist beginning)

/-- The characters that count with one more, if some name contains that behind the others. -/
def heed (names : List String) (kept : List Char) (c : Char) : List Char :=
  if ∃ name ∈ names, (kept ++ [c]).Sublist (Text.lower name) then kept ++ [c] else kept

/-- The characters that count of a filter: from left to right, each that some name contains behind
those that count before it. -/
def heeded (names : List String) (chars : List Char) : List Char :=
  chars.foldl (heed names) []

/-- A name is among the best of some names for characters that count. -/
structure IsBest (names : List String) (chars : List Char) (name : String) : Prop where
  /-- It contains the characters in order. -/
  contains : chars.Sublist (Text.lower name)
  /-- No other that does contains them in a shorter beginning. -/
  nearest : ∀ other ∈ names, chars.Sublist (Text.lower other) →
    span chars (Text.lower name) ≤ span chars (Text.lower other)
  /-- No other that contains them in as short a beginning is shorter. -/
  shortest : ∀ other ∈ names, chars.Sublist (Text.lower other) →
    span chars (Text.lower other) = span chars (Text.lower name) →
      (Text.lower name).length ≤ (Text.lower other).length

theorem isBest_iff {names : List String} {chars : List Char} {name : String} :
    IsBest names chars name ↔ chars.Sublist (Text.lower name) ∧
      (∀ other ∈ names, chars.Sublist (Text.lower other) →
        span chars (Text.lower name) ≤ span chars (Text.lower other)) ∧
      ∀ other ∈ names, chars.Sublist (Text.lower other) →
        span chars (Text.lower other) = span chars (Text.lower name) →
          (Text.lower name).length ≤ (Text.lower other).length :=
  ⟨fun best => ⟨best.contains, best.nearest, best.shortest⟩,
    fun ⟨contains, nearest, shortest⟩ => ⟨contains, nearest, shortest⟩⟩

instance (names : List String) (chars : List Char) (name : String) :
    Decidable (IsBest names chars name) :=
  decidable_of_iff _ isBest_iff.symm

theorem span_eq {chars text : List Char} {size : Nat} (within : size ≤ text.length)
    (reached : ∀ count, chars.Sublist (text.take count) ↔ size ≤ count) : span chars text = size := by
  have inside : size < text.inits.length := by
    rw [List.length_inits]
    omega
  rw [span, List.findIdx_eq inside]
  constructor
  · rw [List.getElem_inits, decide_eq_true_eq, reached]
  · intro count before
    rw [List.getElem_inits, decide_eq_false_iff_not, reached]
    omega

theorem span_self (chars : List Char) : span chars chars = chars.length := by
  apply span_eq (Nat.le_refl _)
  intro count
  constructor
  · intro contained
    have size := contained.length_le
    rw [List.length_take] at size
    omega
  · intro whole
    rw [List.take_of_length_le whole]

/-- Where a character is found first, the characters after it have to be found behind that place. -/
theorem cons_sublist_take_iff {c : Char} {chars passed more : List Char} (absent : c ∉ passed)
    (count : Nat) :
    (c :: chars).Sublist ((passed ++ c :: more).take count) ↔
      passed.length + 1 ≤ count ∧ chars.Sublist (more.take (count - (passed.length + 1))) := by
  induction passed generalizing count with
  | nil =>
    cases count with
    | zero => simp
    | succ count => simp
  | cons d passed ih =>
    obtain ⟨different, absent⟩ := not_or.1 (mt List.mem_cons.2 absent)
    cases count with
    | zero => simp
    | succ count =>
      rw [List.cons_append, List.take_succ_cons, List.sublist_cons_iff, ih absent]
      simp only [List.cons.injEq, different, false_and, exists_false, or_false, List.length_cons]
      rw [Nat.add_sub_add_right, Nat.add_le_add_iff_right]

namespace Candidate

/-- The candidate after some further characters, if it offers them all. -/
def follow? (candidate : Candidate) : List Char → Option Candidate
  | [] => some candidate
  | c :: rest => (candidate.advance? c).bind fun further => further.follow? rest

theorem follow?_append (candidate : Candidate) (first second : List Char) :
    candidate.follow? (first ++ second) =
      (candidate.follow? first).bind fun further => further.follow? second := by
  induction first generalizing candidate with
  | nil => rfl
  | cons c first ih =>
    simp only [List.cons_append, follow?, ih, Option.bind_assoc]

theorem follow?_singleton (candidate : Candidate) (c : Char) :
    candidate.follow? [c] = candidate.advance? c := by
  simp only [follow?, Option.bind_fun_some]

theorem advance?_eq_none_iff {candidate : Candidate} {c : Char} :
    candidate.advance? c = none ↔ c ∉ candidate.rest := by
  have nothing_left : candidate.rest.dropWhile (· != c) = [] ↔ c ∉ candidate.rest := by
    rw [List.dropWhile_eq_nil_iff]
    simp only [bne_iff_ne]
    exact ⟨fun other inside => other c inside rfl,
      fun absent d inside same => absent (same ▸ inside)⟩
  rw [← nothing_left]
  unfold advance?
  cases candidate.rest.dropWhile (· != c) <;> simp

/-- A candidate advances to behind the first place at which it has the character. -/
theorem advance?_spec {candidate further : Candidate} {c : Char}
    (advances : candidate.advance? c = some further) :
    ∃ passed more, c ∉ passed ∧ candidate.rest = passed ++ c :: more ∧
      further = { candidate with
        reach := candidate.reach + (passed.length + 1), rest := more } := by
  unfold advance? at advances
  have parts := List.takeWhile_append_dropWhile (p := (· != c)) (l := candidate.rest)
  cases found : candidate.rest.dropWhile (· != c) with
  | nil =>
    rw [found] at advances
    cases advances
  | cons d more =>
    rw [found] at advances parts
    cases advances
    have same : d = c := by
      have stops := List.head_dropWhile_not (· != c) (l := candidate.rest) (by simp [found])
      simpa [found] using stops
    subst same
    refine ⟨candidate.rest.takeWhile (· != d), more, ?_, parts.symm, ?_⟩
    · intro inside
      have passedOver := List.mem_takeWhile_imp inside
      simp at passedOver
    · have size := congrArg List.length parts
      rw [List.length_append, List.length_cons] at size
      simp only [mk.injEq, and_true, true_and]
      omega

/-- A candidate offers some characters if what is left of it contains them in order. Then it reaches
to the end of the shortest beginning that does. -/
theorem follow?_spec (candidate : Candidate) (chars : List Char) :
    match candidate.follow? chars with
    | none => ¬ chars.Sublist candidate.rest
    | some further => ∃ size, further = { candidate with
          reach := candidate.reach + size, rest := candidate.rest.drop size } ∧
        size ≤ candidate.rest.length ∧
          ∀ count, chars.Sublist (candidate.rest.take count) ↔ size ≤ count := by
  induction chars generalizing candidate with
  | nil => exact ⟨0, rfl, Nat.zero_le _, fun count => by simp⟩
  | cons c chars ih =>
    cases advances : candidate.advance? c with
    | none =>
      simp only [follow?, advances, Option.bind_none]
      intro inside
      exact advance?_eq_none_iff.1 advances (inside.subset List.mem_cons_self)
    | some middle =>
      obtain ⟨passed, more, absent, here, rfl⟩ := advance?_spec advances
      have later := ih { candidate with
        reach := candidate.reach + (passed.length + 1), rest := more }
      simp only [follow?, advances, Option.bind_some]
      generalize follow? _ chars = found at later ⊢
      cases found with
      | none =>
        intro inside
        rw [← List.take_length (l := candidate.rest), here, cons_sublist_take_iff absent] at inside
        exact later (inside.2.trans (List.take_sublist _ _))
      | some further =>
        obtain ⟨size, rfl, within, reached⟩ := later
        have behind : candidate.rest.drop (passed.length + 1 + size) = more.drop size := by
          rw [here, ← List.drop_drop, List.append_cons, List.drop_left' (by simp)]
        refine ⟨passed.length + 1 + size, ?_, ?_, ?_⟩
        · rw [behind, Nat.add_assoc]
        · rw [here, List.length_append, List.length_cons]
          dsimp only at within
          omega
        · intro count
          rw [here, cons_sublist_take_iff absent, reached]
          omega

theorem follow?_eq_none_iff {candidate : Candidate} {chars : List Char} :
    candidate.follow? chars = none ↔ ¬ chars.Sublist candidate.rest := by
  have follows := follow?_spec candidate chars
  cases found : candidate.follow? chars with
  | none =>
    rw [found] at follows
    exact iff_of_true rfl follows
  | some further =>
    rw [found] at follows
    obtain ⟨size, -, -, reached⟩ := follows
    have contained := (reached size).2 (Nat.le_refl size)
    exact iff_of_false (fun none => nomatch none)
      fun absent => absent (contained.trans (List.take_sublist _ _))

/-- A name as a candidate that has offered some characters. -/
def reaching (chars : List Char) (name : String) : Candidate :=
  let size := span chars (Text.lower name)
  ⟨name, (Text.lower name).length, size, (Text.lower name).drop size⟩

theorem follow?_ofName (name : String) (chars : List Char) :
    (ofName name).follow? chars =
      if chars.Sublist (Text.lower name) then some (reaching chars name) else none := by
  split
  · rename_i contained
    have follows := follow?_spec (ofName name) chars
    cases found : (ofName name).follow? chars with
    | none =>
      rw [found] at follows
      exact absurd contained follows
    | some further =>
      rw [found] at follows
      obtain ⟨size, rfl, within, reached⟩ := follows
      have same : span chars (Text.lower name) = size := span_eq within reached
      simp only [reaching, same, ofName, Nat.zero_add]
  · rename_i absent
    exact follow?_eq_none_iff.2 absent

/-- Among the candidates that offer some characters, those are left that offer one more, or all when
none does. -/
theorem narrow_follow? (names : List String) (kept : List Char) (c : Char) :
    narrow (names.filterMap fun name => (ofName name).follow? kept) c =
      names.filterMap fun name => (ofName name).follow? (heed names kept c) := by
  have further : ((names.filterMap fun name => (ofName name).follow? kept).filterMap
      fun candidate => candidate.advance? c) =
        names.filterMap fun name => (ofName name).follow? (kept ++ [c]) := by
    simp only [List.filterMap_filterMap, follow?_append, follow?_singleton]
  have nobody : (names.filterMap fun name => (ofName name).follow? (kept ++ [c])).isEmpty = true ↔
      ¬ ∃ name ∈ names, (kept ++ [c]).Sublist (Text.lower name) := by
    rw [List.isEmpty_iff, List.filterMap_eq_nil_iff]
    simp only [follow?_eq_none_iff, not_exists, not_and]
    rfl
  simp only [narrow, further, nobody, ite_not, heed]
  split <;> rfl

/-- Those names are left in the end that contain all characters that count. -/
theorem foldl_narrow (names : List String) (chars : List Char) :
    chars.foldl narrow (names.map ofName) =
      (names.filter fun name => (heeded names chars).Sublist (Text.lower name)).map
        (reaching (heeded names chars)) := by
  have all : ∀ kept, chars.foldl narrow (names.filterMap fun name => (ofName name).follow? kept) =
      names.filterMap fun name => (ofName name).follow? (chars.foldl (heed names) kept) := by
    induction chars with
    | nil => exact fun kept => rfl
    | cons c chars ih =>
      intro kept
      rw [List.foldl_cons, narrow_follow?, ih, List.foldl_cons]
  rw [← List.filterMap_eq_map, ← List.filterMap_eq_filter, List.map_filterMap]
  refine (all []).trans ?_
  apply List.filterMap_congr
  intro name inside
  rw [← heeded, follow?_ofName]
  simp only [Option.guard, decide_eq_true_eq]
  split <;> rfl

end Candidate

theorem length_le_span {chars text : List Char} (contained : chars.Sublist text) :
    chars.length ≤ span chars text := by
  have follows := Candidate.follow?_spec ⟨"", 0, 0, text⟩ chars
  split at follows
  · exact absurd contained follows
  · obtain ⟨size, -, within, reached⟩ := follows
    have enough := ((reached size).2 (Nat.le_refl size)).length_le
    rw [List.length_take] at enough
    rw [span_eq within reached]
    omega

section Least

variable {α β : Type} {measure : α → Nat}

/-- The elements with the least measure are those that no element undercuts. -/
theorem leastBy_eq_filter (measure : α → Nat) (values : List α) :
    leastBy measure values =
      values.filter fun value => ∀ other ∈ values, measure value ≤ measure other := by
  unfold leastBy
  cases found : (values.map measure).min? with
  | none =>
    rw [List.min?_eq_none_iff, List.map_eq_nil_iff] at found
    subst found
    rfl
  | some least =>
    obtain ⟨inside, below⟩ := List.min?_eq_some_iff.1 found
    obtain ⟨best, listed, rfl⟩ := List.mem_map.1 inside
    apply List.filter_congr
    intro value valueListed
    rw [decide_eq_decide]
    constructor
    · intro same other otherListed
      rw [same]
      exact below _ (List.mem_map_of_mem otherListed)
    · intro undercut
      exact Nat.le_antisymm (undercut best listed) (below _ (List.mem_map_of_mem valueListed))

theorem leastBy_map (measure : β → Nat) (make : α → β) (values : List α) :
    leastBy measure (values.map make) = (leastBy (fun value => measure (make value)) values).map make := by
  rw [leastBy_eq_filter, leastBy_eq_filter, List.filter_map]
  simp only [Function.comp_def, List.forall_mem_map]

theorem leastBy_eq_nil_iff {values : List α} : leastBy measure values = [] ↔ values = [] := by
  unfold leastBy
  cases found : (values.map measure).min? with
  | none =>
    rw [List.min?_eq_none_iff, List.map_eq_nil_iff] at found
    exact iff_of_true rfl found
  | some least =>
    obtain ⟨inside, -⟩ := List.min?_eq_some_iff.1 found
    obtain ⟨best, listed, same⟩ := List.mem_map.1 inside
    have there : best ∈ values.filter fun value => measure value = least :=
      List.mem_filter.2 ⟨listed, decide_eq_true same⟩
    exact iff_of_false (List.ne_nil_of_mem there) (List.ne_nil_of_mem listed)

end Least

theorem exists_contains_heeded {names : List String} (nonempty : names ≠ []) (chars : List Char) :
    ∃ name ∈ names, (heeded names chars).Sublist (Text.lower name) := by
  have stays : ∀ kept : List Char, (∃ name ∈ names, kept.Sublist (Text.lower name)) →
      ∃ name ∈ names, (chars.foldl (heed names) kept).Sublist (Text.lower name) := by
    induction chars with
    | nil => exact fun kept contained => contained
    | cons c chars ih =>
      intro kept contained
      apply ih
      unfold heed
      split
      · assumption
      · exact contained
  obtain ⟨first, inside⟩ := List.exists_mem_of_ne_nil names nonempty
  exact stays [] ⟨first, inside, List.nil_sublist _⟩

/-- The characters that count with further ones begin with those that counted before. -/
theorem prefix_foldl_heed (names : List String) (chars kept : List Char) :
    kept <+: chars.foldl (heed names) kept := by
  induction chars generalizing kept with
  | nil => exact List.prefix_rfl
  | cons c chars ih =>
    refine List.IsPrefix.trans ?_ (ih (heed names kept c))
    unfold heed
    split
    · exact List.prefix_append kept [c]
    · exact List.prefix_rfl

theorem heeded_of_contains {names : List String} {name : String} (listed : name ∈ names)
    {chars : List Char} (contained : chars.Sublist (Text.lower name)) :
    heeded names chars = chars := by
  have all : ∀ kept : List Char, (kept ++ chars).Sublist (Text.lower name) →
      chars.foldl (heed names) kept = kept ++ chars := by
    clear contained
    induction chars with
    | nil => exact fun kept _ => (List.append_nil kept).symm
    | cons c chars ih =>
      intro kept contained
      rw [List.append_cons] at contained ⊢
      have offered : (kept ++ [c]).Sublist (Text.lower name) :=
        (List.sublist_append_left _ _).trans contained
      rw [List.foldl_cons, heed, if_pos ⟨name, listed, offered⟩]
      exact ih _ contained
  exact all [] contained

theorem heeded_eq_nil_iff {names : List String} {chars : List Char} :
    heeded names chars = [] ↔ ∀ c ∈ chars, ∀ name ∈ names, c ∉ Text.lower name := by
  unfold heeded
  induction chars with
  | nil => simp
  | cons c chars ih =>
    rw [List.foldl_cons, List.forall_mem_cons, ← ih, heed, List.nil_append]
    simp only [List.singleton_sublist]
    split
    · rename_i offered
      obtain ⟨name, listed, offers⟩ := offered
      refine iff_of_false (fun nothing => ?_) fun absent => absent.1 name listed offers
      have begins := prefix_foldl_heed names chars [c]
      rw [nothing, List.prefix_nil] at begins
      cases begins
    · rename_i absent
      exact (and_iff_right fun name listed offers => absent ⟨name, listed, offers⟩).symm

section BestMatches

variable {names : List String} {filter : String}

/-- The best matches are found by looking for the least twice: first for the shortest beginning with
all characters that count, then for the shortest name. -/
theorem bestMatches_eq_leastBy (names : List String) (filter : String) :
    bestMatches names filter =
      leastBy (fun name => (Text.lower name).length)
        (leastBy (fun name => span (heeded names (Text.lower filter)) (Text.lower name))
          (names.filter fun name =>
            (heeded names (Text.lower filter)).Sublist (Text.lower name))) := by
  simp only [bestMatches, Candidate.foldl_narrow, leastBy_map, List.map_map]
  exact List.map_id _

/-- The best matches are the best of the names for the characters that count, in their order. -/
theorem bestMatches_eq_filter (names : List String) (filter : String) :
    bestMatches names filter =
      names.filter fun name => IsBest names (heeded names (Text.lower filter)) name := by
  rw [bestMatches_eq_leastBy, leastBy_eq_filter, leastBy_eq_filter, List.filter_filter,
    List.filter_filter]
  apply List.filter_congr
  intro name inside
  rw [← Bool.decide_and, ← Bool.decide_and, decide_eq_decide, isBest_iff]
  simp only [List.mem_filter, decide_eq_true_eq, and_imp]
  constructor
  · rintro ⟨⟨shortest, nearest⟩, contains⟩
    refine ⟨contains, nearest, fun other listed contained same => ?_⟩
    exact shortest other listed contained fun third => same ▸ nearest third
  · rintro ⟨contains, nearest, shortest⟩
    refine ⟨⟨fun other listed contained least => ?_, nearest⟩, contains⟩
    exact shortest other listed contained
      (Nat.le_antisymm (least name inside contains) (nearest other listed contained))

theorem bestMatches_eq_nil_iff : bestMatches names filter = [] ↔ names = [] := by
  rw [bestMatches_eq_leastBy, leastBy_eq_nil_iff, leastBy_eq_nil_iff, List.filter_eq_nil_iff]
  constructor
  · intro none_contains
    by_contra nonempty
    obtain ⟨name, inside, contained⟩ := exists_contains_heeded nonempty (Text.lower filter)
    exact none_contains name inside (decide_eq_true contained)
  · rintro rfl name inside
    cases inside

theorem bestMatches_sublist (names : List String) (filter : String) :
    (bestMatches names filter).Sublist names := by
  rw [bestMatches_eq_filter]
  exact List.filter_sublist

theorem mem_bestMatches_iff {name : String} :
    name ∈ bestMatches names filter ↔
      name ∈ names ∧ IsBest names (heeded names (Text.lower filter)) name := by
  rw [bestMatches_eq_filter, List.mem_filter, decide_eq_true_eq]

theorem foldl_heed_of_subset {fewer : List String} {winner : String} (subset : fewer ⊆ names)
    (inside : winner ∈ fewer) {chars kept : List Char}
    (contained : (chars.foldl (heed names) kept).Sublist (Text.lower winner)) :
    chars.foldl (heed fewer) kept = chars.foldl (heed names) kept := by
  induction chars generalizing kept with
  | nil => rfl
  | cons c chars ih =>
    rw [List.foldl_cons] at contained
    have same : heed fewer kept c = heed names kept c := by
      -- The winner contains all that counts among the names, and so with it this character.
      have sofar := ((prefix_foldl_heed names chars (heed names kept c)).sublist).trans contained
      unfold heed at sofar ⊢
      by_cases offered : ∃ name ∈ names, (kept ++ [c]).Sublist (Text.lower name)
      · rw [if_pos offered] at sofar
        rw [if_pos offered, if_pos ⟨winner, inside, sofar⟩]
      · rw [if_neg offered, if_neg]
        rintro ⟨name, listed, offers⟩
        exact offered ⟨name, subset listed, offers⟩
    rw [List.foldl_cons, List.foldl_cons, same]
    exact ih contained

/-- Names that lose do not matter to which characters count, if one is left that contains them all. -/
theorem heeded_of_subset {fewer : List String} {winner : String} {chars : List Char}
    (subset : fewer ⊆ names) (inside : winner ∈ fewer)
    (contained : (heeded names chars).Sublist (Text.lower winner)) :
    heeded fewer chars = heeded names chars :=
  foldl_heed_of_subset subset inside contained

/-- Names that lose do not matter to who is best, if one of the best is left. -/
theorem isBest_of_subset {fewer : List String} {winner name : String} {chars : List Char}
    (subset : fewer ⊆ names) (inside : winner ∈ fewer) (best : IsBest names chars winner)
    (listed : name ∈ fewer) : IsBest fewer chars name ↔ IsBest names chars name := by
  constructor
  · intro rival
    have near := rival.nearest winner inside best.contains
    have same := Nat.le_antisymm near (best.nearest name (subset listed) rival.contains)
    refine ⟨rival.contains, ?_, ?_⟩
    · intro other among contained
      exact Nat.le_trans near (best.nearest other among contained)
    · intro other among contained equal
      have short := rival.shortest winner inside best.contains same.symm
      exact Nat.le_trans short (best.shortest other among contained (equal.trans same))
  · intro first
    exact ⟨first.contains, fun other among => first.nearest other (subset among),
      fun other among => first.shortest other (subset among)⟩

/-- Taking names away that are no best matches does not change the best matches. -/
theorem bestMatches_of_sublist {fewer : List String} (part : fewer.Sublist names)
    (kept : (bestMatches names filter).Sublist fewer) :
    bestMatches fewer filter = bestMatches names filter := by
  by_cases nothing : names = []
  · subst nothing
    rw [List.sublist_nil.1 part]
  · obtain ⟨winner, won⟩ := List.exists_mem_of_ne_nil _ (mt bestMatches_eq_nil_iff.1 nothing)
    have inside := kept.subset won
    obtain ⟨-, best⟩ := mem_bestMatches_iff.1 won
    rw [bestMatches_eq_filter fewer, heeded_of_subset part.subset inside best.contains]
    have same : (fewer.filter fun name =>
        IsBest fewer (heeded names (Text.lower filter)) name) =
          fewer.filter fun name => IsBest names (heeded names (Text.lower filter)) name := by
      apply List.filter_congr
      intro name listed
      rw [decide_eq_decide]
      exact isBest_of_subset part.subset inside best listed
    rw [same]
    rw [bestMatches_eq_filter] at kept ⊢
    apply List.Sublist.antisymm
    · exact part.filter _
    · have again := kept.filter fun name =>
        decide (IsBest names (heeded names (Text.lower filter)) name)
      simpa only [List.filter_filter, Bool.and_self] using again

end BestMatches

namespace Children

variable {children : Children} {name : String}

theorem resolve_eq_nameNotFound_iff {missing : String} :
    children.resolve name = .error (.nameNotFound missing) ↔ children = [] ∧ missing = name := by
  constructor
  · intro refused
    unfold resolve at refused
    split at refused
    · rename_i nothing
      cases refused
      exact ⟨List.map_eq_nil_iff.1 (bestMatches_eq_nil_iff.1 nothing), rfl⟩
    · split at refused <;> cases refused
    · cases refused
  · rintro ⟨rfl, rfl⟩
    have nothing : bestMatches (NameMap.names ([] : Children)) missing = [] :=
      bestMatches_eq_nil_iff.2 rfl
    rw [resolve, nothing]

theorem names_erase (lost : String) :
    NameMap.names (children.erase lost) = (NameMap.names children).filter (· != lost) := by
  rw [NameMap.names, NameMap.names, NameMap.erase, List.filter_map]
  rfl

/-- Without a name that is no best match, a name has the same best matches. -/
theorem bestMatches_erase {lost : String} (loses : lost ∉ bestMatches children.names name) :
    bestMatches (NameMap.names (children.erase lost)) name = bestMatches children.names name := by
  rw [names_erase]
  apply bestMatches_of_sublist List.filter_sublist
  have kept : (bestMatches children.names name).filter (· != lost) =
      bestMatches children.names name := by
    rw [List.filter_eq_self]
    intro full best
    rw [bne_iff_ne]
    rintro rfl
    exact loses best
  rw [← kept]
  exact (bestMatches_sublist _ _).filter _

/-- Without a child that is no best match, a name stands for the same child. -/
theorem resolve_erase {lost : String} (loses : lost ∉ bestMatches children.names name) :
    resolve (children.erase lost) name = children.resolve name := by
  unfold resolve
  rw [bestMatches_erase loses]
  split
  · rfl
  · rename_i single best
    have other : single ≠ lost := by
      rintro rfl
      exact loses (best ▸ List.mem_singleton_self single)
    rw [NameMap.get?_erase, if_neg other]
  · rfl

theorem resolve_foldl_erase {removed : List String}
    (apart : ∀ full ∈ bestMatches children.names name, full ∉ removed) :
    resolve (removed.foldl NameMap.erase children) name = children.resolve name := by
  induction removed generalizing children with
  | nil => rfl
  | cons lost removed ih =>
    have loses : lost ∉ bestMatches children.names name :=
      fun best => apart lost best List.mem_cons_self
    rw [List.foldl_cons, ih, resolve_erase loses]
    intro full best
    rw [bestMatches_erase loses] at best
    exact fun later => apart full best (List.mem_cons_of_mem lost later)

end Children

/-- The best matches for a filter are, in the order of the names, those that contain the characters
that count of it in order, of these the ones that contain them in the shortest beginning, and of these
the shortest. There are none only if there are no names, and so only an empty group has no child for
a name. -/
theorem bestMatches_are_best :
    (∀ names filter, bestMatches names filter =
      names.filter fun name => IsBest names (heeded names (Text.lower filter)) name) ∧
    (∀ names filter, bestMatches names filter = [] ↔ names = []) ∧
    ∀ (children : Children) name missing,
      children.resolve name = .error (.nameNotFound missing) ↔ children = [] ∧ missing = name := by
  refine ⟨bestMatches_eq_filter, fun _ _ => bestMatches_eq_nil_iff, ?_⟩
  intro children name missing
  exact Children.resolve_eq_nameNotFound_iff

/-- Names that lose make no difference: without them a filter has the same best matches, so that the
best matches of the best matches are all of them; and a name stands for the same child of a group, or
is refused in the same words, when children are taken away that were not among its best matches. -/
theorem losers_make_no_difference :
    (∀ (names fewer : List String) filter, fewer.Sublist names →
      (bestMatches names filter).Sublist fewer →
        bestMatches fewer filter = bestMatches names filter) ∧
    (∀ names filter, bestMatches (bestMatches names filter) filter = bestMatches names filter) ∧
    ∀ (children : Children) name (removed : List String),
      (∀ full ∈ bestMatches children.names name, full ∉ removed) →
        Children.resolve (removed.foldl NameMap.erase children) name = children.resolve name := by
  refine ⟨?_, ?_, ?_⟩
  · exact fun names fewer filter part kept => bestMatches_of_sublist part kept
  · exact fun names filter =>
      bestMatches_of_sublist (bestMatches_sublist names filter) (List.Sublist.refl _)
  · exact fun children name removed apart => Children.resolve_foldl_erase apart

/-- A character that no name has is passed over, with all names and with the two that are left. -/
theorem losers_make_no_difference_add :
    let names := ["list", "add", "alias add", "adder"]
    let fewer := ["list", "add"]
    fewer.Sublist names ∧ (bestMatches names "a?d").Sublist fewer ∧
      bestMatches fewer "a?d" = bestMatches names "a?d" := by
  intro names fewer
  have part : fewer.Sublist names := by decide
  have kept : (bestMatches names "a?d").Sublist fewer := by decide +kernel
  exact ⟨part, kept, losers_make_no_difference.1 names fewer "a?d" part kept⟩

end ChatLine
