import ChatLine.Overloads
import Mathlib.Data.List.Forall2

set_option autoImplicit false

namespace ChatLine.Overloads

theorem compare_cons_ne_gt (a b : ParamType) (first second : List ParamType) :
    compareSignatures (a :: first) (b :: second) ≠ .gt ↔
      a.rank < b.rank ∨ a.rank = b.rank ∧ compareSignatures first second ≠ .gt := by
  simp only [compareSignatures]
  cases ranks : compare a.rank b.rank with
  | lt => simp [Nat.compare_eq_lt.1 ranks]
  | eq => simp [Nat.compare_eq_eq.1 ranks]
  | gt =>
    have more := Nat.compare_eq_gt.1 ranks
    simp only [ne_eq, not_true_eq_false, false_iff, not_or, not_and]
    exact ⟨Nat.lt_asymm more, fun same => absurd same (Nat.ne_of_gt more)⟩

theorem compareSignatures_trans {first second third : List ParamType}
    (earlier : compareSignatures first second ≠ .gt) (later : compareSignatures second third ≠ .gt) :
    compareSignatures first third ≠ .gt := by
  induction first generalizing second third with
  | nil =>
    cases second with
    | nil => exact later
    | cons b second => exact absurd rfl earlier
  | cons a first ih =>
    cases third with
    | nil => exact fun wrong => nomatch wrong
    | cons c third =>
      cases second with
      | nil => exact absurd rfl later
      | cons b second =>
        rw [compare_cons_ne_gt] at earlier later ⊢
        rcases earlier with less | ⟨same, restEarlier⟩
        · rcases later with lessToo | ⟨sameToo, -⟩
          · exact .inl (Nat.lt_trans less lessToo)
          · exact .inl (sameToo ▸ less)
        · rcases later with lessToo | ⟨sameToo, restLater⟩
          · exact .inl (same ▸ lessToo)
          · exact .inr ⟨same.trans sameToo, ih restEarlier restLater⟩

theorem compareSignatures_total (first second : List ParamType) :
    compareSignatures first second ≠ .gt ∨ compareSignatures second first ≠ .gt := by
  rw [← compareSignatures_swap first second]
  cases compareSignatures first second <;> decide

/-- Signatures that come no later than each other are equal. -/
theorem compareSignatures_antisymm {first second : List ParamType}
    (earlier : compareSignatures first second ≠ .gt) (later : compareSignatures second first ≠ .gt) :
    compareSignatures first second = .eq := by
  rw [← compareSignatures_swap first second] at later
  cases order : compareSignatures first second with
  | lt => exact absurd (by rw [order]; rfl) later
  | eq => rfl
  | gt => exact absurd order earlier

/-- Signatures are equal if they have the same ranks at the same places. -/
theorem compareSignatures_eq_iff {first second : List ParamType} :
    compareSignatures first second = .eq ↔
      List.Forall₂ (fun a b => a.rank = b.rank) first second := by
  induction first generalizing second with
  | nil => cases second <;> simp [compareSignatures]
  | cons a first ih =>
    cases second with
    | nil => simp [compareSignatures]
    | cons b second =>
      rw [List.forall₂_cons, ← ih, compareSignatures, ← Nat.compare_eq_eq]
      cases compare a.rank b.rank <;> simp

def ties (f g : Function) : Bool :=
  compareSignatures f.types g.types == .eq

theorem ties_self (f : Function) : ties f f = true := by
  rw [ties, compareSignatures_self]
  rfl

theorem tryBefore_trans (f g h : Function) (earlier : tryBefore f g = true)
    (later : tryBefore g h = true) : tryBefore f h = true := by
  simp only [tryBefore, bne_iff_ne] at earlier later ⊢
  exact compareSignatures_trans earlier later

theorem tryBefore_total (f g : Function) : (tryBefore f g || tryBefore g f) = true := by
  simp only [tryBefore, Bool.or_eq_true, bne_iff_ne]
  exact compareSignatures_total f.types g.types

theorem ties_of_tryBefore {f g : Function} (earlier : tryBefore f g = true)
    (later : tryBefore g f = true) : ties f g = true := by
  simp only [tryBefore, bne_iff_ne] at earlier later
  exact beq_iff_eq.2 (compareSignatures_antisymm earlier later)

/-- Functions with equal signatures may be tried in either order. -/
theorem tryBefore_of_ties {f g h : Function} (first : ties f g = true) (second : ties f h = true) :
    tryBefore g h = true := by
  simp only [ties, tryBefore, beq_iff_eq, bne_iff_ne] at first second ⊢
  have back : compareSignatures g.types f.types ≠ .gt := by
    rw [← compareSignatures_swap, first]
    decide
  exact compareSignatures_trans back (by rw [second]; decide)

/-- The same functions in the order of their signatures, and functions with equal signatures in the
order in which they were given. -/
structure Arranges (given arranged : List Function) : Prop where
  perm : arranged.Perm given
  sorted : arranged.Pairwise fun f g => tryBefore f g = true
  stable : ∀ f, arranged.filter (ties f) = given.filter (ties f)

theorem pairwise_functions (functions : List Function) :
    (ofList functions).functions.Pairwise fun f g => tryBefore f g = true :=
  List.pairwise_mergeSort tryBefore_trans tryBefore_total functions

/-- Sorting does not move functions with equal signatures past each other. -/
theorem filter_ties_functions (functions : List Function) (f : Function) :
    (ofList functions).functions.filter (ties f) = functions.filter (ties f) := by
  have equal : (functions.filter (ties f)).Pairwise fun g h => tryBefore g h = true := by
    apply List.pairwise_of_forall_mem_list
    intro g first h second
    exact tryBefore_of_ties (List.mem_filter.1 first).2 (List.mem_filter.1 second).2
  have kept : (functions.filter (ties f)).Sublist (ofList functions).functions :=
    List.sublist_mergeSort tryBefore_trans tryBefore_total equal List.filter_sublist
  have count : (functions.filter (ties f)).length =
      ((ofList functions).functions.filter (ties f)).length :=
    ((List.mergeSort_perm functions tryBefore).filter (ties f)).length_eq.symm
  have inside := kept.filter (ties f)
  rw [List.filter_filter] at inside
  simp only [Bool.and_self] at inside
  exact (inside.eq_of_length count).symm

theorem arranges_functions (functions : List Function) :
    Arranges functions (ofList functions).functions where
  perm := List.mergeSort_perm functions tryBefore
  sorted := pairwise_functions functions
  stable := filter_ties_functions functions

/-- The first function of a sorted list may be tried before all of them. -/
theorem tryBefore_of_mem_cons {f g : Function} {rest : List Function}
    (sorted : (f :: rest).Pairwise fun f g => tryBefore f g = true) (inside : g ∈ f :: rest) :
    tryBefore f g = true := by
  rcases List.mem_cons.1 inside with rfl | later
  · exact tryBefore_of_ties (ties_self g) (ties_self g)
  · exact List.rel_of_pairwise_cons sorted later

theorem mem_of_filter_ties {first second : List Function} {f : Function}
    (same : first.filter (ties f) = second.filter (ties f)) (inside : f ∈ first) : f ∈ second := by
  have listed : f ∈ first.filter (ties f) := List.mem_filter.2 ⟨inside, ties_self f⟩
  rw [same] at listed
  exact List.mem_of_mem_filter listed

/-- Two sorted lists are the same if they have the same functions of each signature, in one order. -/
theorem eq_of_sorted {first second : List Function}
    (sorted : first.Pairwise fun f g => tryBefore f g = true)
    (sortedToo : second.Pairwise fun f g => tryBefore f g = true)
    (same : ∀ f, first.filter (ties f) = second.filter (ties f)) : first = second := by
  induction first generalizing second with
  | nil =>
    rw [eq_comm, List.eq_nil_iff_forall_not_mem]
    intro g inside
    cases mem_of_filter_ties (same g).symm inside
  | cons f first ih =>
    have there := mem_of_filter_ties (same f) List.mem_cons_self
    cases second with
    | nil => cases there
    | cons g second =>
      have here := mem_of_filter_ties (same g).symm List.mem_cons_self
      -- Each head comes before all of its list, so that the two have equal signatures.
      have equal : ties f g = true :=
        ties_of_tryBefore (tryBefore_of_mem_cons sorted here) (tryBefore_of_mem_cons sortedToo there)
      have heads := same f
      rw [List.filter_cons_of_pos (ties_self f), List.filter_cons_of_pos equal] at heads
      obtain ⟨rfl, -⟩ := List.cons.inj heads
      refine congrArg (f :: ·) (ih sorted.tail sortedToo.tail ?_)
      intro h
      have tails := same h
      simp only [List.filter_cons] at tails
      split at tails
      · exact (List.cons.inj tails).2
      · exact tails

/-- There is one way to arrange some functions. -/
theorem Arranges.unique {given first second : List Function} (arranges : Arranges given first)
    (arrangesToo : Arranges given second) : first = second :=
  eq_of_sorted arranges.sorted arrangesToo.sorted
    fun f => (arranges.stable f).trans (arrangesToo.stable f).symm

/-- Adding a function to overloads arranges it with the functions that were given before. -/
theorem functions_insert {set : Overloads} {functions : List Function}
    (arranged : set.functions = (ofList functions).functions) (f : Function) :
    (set.insert f).functions = (ofList (functions ++ [f])).functions := by
  have again := arranges_functions (set.functions ++ [f])
  have before := arranges_functions functions
  rw [← arranged] at before
  apply Arranges.unique _ (arranges_functions (functions ++ [f]))
  refine ⟨again.perm.trans (before.perm.append_right [f]), again.sorted, ?_⟩
  intro g
  calc
    _ = (set.functions ++ [f]).filter (ties g) := again.stable g
    _ = (functions ++ [f]).filter (ties g) := by
      rw [List.filter_append, List.filter_append, before.stable]

/-- Functions that are added one by one are arranged as all of them at once. -/
theorem functions_foldl_insert {set : Overloads} {functions : List Function}
    (arranged : set.functions = (ofList functions).functions) (more : List Function) :
    (more.foldl insert set).functions = (ofList (functions ++ more)).functions := by
  induction more generalizing set functions with
  | nil => rw [List.append_nil, ← arranged, List.foldl_nil]
  | cons f more ih =>
    rw [List.foldl_cons, ih (functions_insert arranged f), List.append_assoc, List.singleton_append]

/-- Comparing signatures is a total preorder, in which signatures of the same length with equal ranks
at all places are equal, and no others. Overloads try their functions in the order of their
signatures, functions with equal signatures in the order in which they were given, and there is no
other such order; and adding functions one by one comes to the same as giving all of them at once. -/
theorem tried_in_order :
    ((∀ first second, (compareSignatures first second).swap = compareSignatures second first) ∧
      (∀ first second,
        compareSignatures first second ≠ .gt ∨ compareSignatures second first ≠ .gt) ∧
      (∀ first second third, compareSignatures first second ≠ .gt →
        compareSignatures second third ≠ .gt → compareSignatures first third ≠ .gt) ∧
      ∀ first second, compareSignatures first second = .eq ↔
        List.Forall₂ (fun a b => a.rank = b.rank) first second) ∧
    (∀ functions arranged,
      Arranges functions arranged ↔ arranged = (ofList functions).functions) ∧
    (∀ functions f,
      ((ofList functions).insert f).functions = (ofList (functions ++ [f])).functions) ∧
    ∀ functions more,
      (more.foldl insert (ofList functions)).functions =
        (ofList (functions ++ more)).functions := by
  refine ⟨⟨compareSignatures_swap, compareSignatures_total, ?_, ?_⟩, ?_,
    fun _ => functions_insert rfl, fun _ => functions_foldl_insert rfl⟩
  · exact fun first second third => compareSignatures_trans
  · exact fun first second => compareSignatures_eq_iff
  · intro functions arranged
    constructor
    · exact fun arranges => arranges.unique (arranges_functions functions)
    · rintro rfl
      exact arranges_functions functions

end ChatLine.Overloads
