import ChatLine.NameMap

set_option autoImplicit false

namespace ChatLine.NameMap

variable {α : Type}

/-- The names are in order, and no name is there twice. -/
def Sorted (map : NameMap α) : Prop :=
  map.Pairwise fun first second => first.1 < second.1

theorem sorted_nil : Sorted ([] : NameMap α) := List.Pairwise.nil

theorem has_iff {map : NameMap α} {name : String} :
    map.has name = true ↔ map.get? name ≠ none := by
  unfold has
  cases map.get? name <;> simp

theorem mem_of_get? {map : NameMap α} {name : String} {value : α}
    (found : map.get? name = some value) : (name, value) ∈ map := by
  induction map with
  | nil => cases found
  | cons entry rest ih =>
    obtain ⟨key, old⟩ := entry
    by_cases same : key = name
    · simp only [get?, same, ↓reduceIte, Option.some.injEq] at found
      rw [same, found]
      exact List.mem_cons_self
    · simp only [get?, same, ↓reduceIte] at found
      exact List.mem_cons_of_mem _ (ih found)

theorem get?_eq_none_of_lt {map : NameMap α} {name : String}
    (before : ∀ entry ∈ map, name < entry.1) : map.get? name = none := by
  cases found : map.get? name with
  | none => rfl
  | some value => exact absurd (before _ (mem_of_get? found)) (String.lt_irrefl name)

theorem get?_eq_some_iff {map : NameMap α} (sorted : map.Sorted) (name : String) (value : α) :
    map.get? name = some value ↔ (name, value) ∈ map := by
  refine ⟨mem_of_get?, ?_⟩
  induction map with
  | nil => exact fun inside => nomatch inside
  | cons entry rest ih =>
    obtain ⟨key, old⟩ := entry
    obtain ⟨first, others⟩ := List.pairwise_cons.1 sorted
    intro inside
    rcases List.mem_cons.1 inside with same | later
    · cases same
      simp only [get?, ↓reduceIte]
    · have different : key ≠ name := by
        rintro rfl
        exact String.lt_irrefl key (first _ later)
      simp only [get?, different, ↓reduceIte]
      exact ih others later

theorem mem_set {map : NameMap α} {name : String} {value : α} {entry : String × α}
    (inside : entry ∈ map.set name value) : entry = (name, value) ∨ entry ∈ map := by
  induction map with
  | nil => exact .inl (List.mem_singleton.1 inside)
  | cons head rest ih =>
    obtain ⟨key, old⟩ := head
    unfold set at inside
    split at inside
    · rcases List.mem_cons.1 inside with same | later
      · exact .inl same
      · exact .inr (List.mem_cons_of_mem _ later)
    · split at inside
      · rcases List.mem_cons.1 inside with same | later
        · exact .inl same
        · exact .inr later
      · rcases List.mem_cons.1 inside with same | later
        · exact .inr (same ▸ List.mem_cons_self)
        · rcases ih later with same | old_entry
          · exact .inl same
          · exact .inr (List.mem_cons_of_mem _ old_entry)

theorem Sorted.set {map : NameMap α} (sorted : map.Sorted) (name : String) (value : α) :
    (map.set name value).Sorted := by
  induction map with
  | nil => exact List.pairwise_singleton _ _
  | cons head rest ih =>
    obtain ⟨key, old⟩ := head
    obtain ⟨first, others⟩ := List.pairwise_cons.1 sorted
    unfold NameMap.set
    split
    · rename_i same
      subst same
      exact List.pairwise_cons.2 ⟨first, others⟩
    · rename_i different
      split
      · rename_i before
        refine List.pairwise_cons.2 ⟨?_, sorted⟩
        intro entry inside
        rcases List.mem_cons.1 inside with rfl | later
        · exact before
        · exact String.lt_trans before (first entry later)
      · rename_i after
        refine List.pairwise_cons.2 ⟨?_, ih others⟩
        intro entry inside
        rcases mem_set inside with rfl | later
        · refine Decidable.byContradiction fun not_before => different ?_
          exact String.le_antisymm (String.not_lt.1 after) (String.not_lt.1 not_before)
        · exact first entry later

theorem Sorted.erase {map : NameMap α} (sorted : map.Sorted) (name : String) :
    (map.erase name).Sorted :=
  sorted.sublist List.filter_sublist

theorem erase_eq_self {map : NameMap α} {name : String} (absent : map.get? name = none) :
    map.erase name = map := by
  apply List.filter_eq_self.2
  intro entry inside
  have listed : entry.1 ∈ map.names := List.mem_map_of_mem inside
  simp only [bne_iff_ne, ne_eq]
  rintro rfl
  obtain ⟨value, found⟩ := (mem_names_iff map entry.1).1 listed
  rw [absent] at found
  cases found

theorem Sorted.perm_cons_erase {map : NameMap α} (sorted : map.Sorted) {name : String} {value : α}
    (found : map.get? name = some value) : map.Perm ((name, value) :: map.erase name) := by
  induction map with
  | nil => cases found
  | cons head rest ih =>
    obtain ⟨key, old⟩ := head
    obtain ⟨first, others⟩ := List.pairwise_cons.1 sorted
    by_cases same : key = name
    · subst same
      simp only [get?, ↓reduceIte, Option.some.injEq] at found
      subst found
      have kept : NameMap.erase ((key, old) :: rest) key = rest := by
        have untouched := erase_eq_self (get?_eq_none_of_lt first)
        simpa [NameMap.erase] using untouched
      rw [kept]
    · simp only [get?, same, ↓reduceIte] at found
      have kept :
          NameMap.erase ((key, old) :: rest) name = (key, old) :: NameMap.erase rest name := by
        simp [NameMap.erase, same]
      rw [kept]
      exact ((ih others found).cons _).trans (.swap _ _ _)

theorem erase_set (map : NameMap α) (name : String) (value : α) :
    (map.set name value).erase name = map.erase name := by
  induction map with
  | nil => simp [NameMap.erase, NameMap.set]
  | cons head rest ih =>
    obtain ⟨key, old⟩ := head
    unfold NameMap.set
    split
    · rename_i same
      simp [NameMap.erase, same]
    · split
      · simp [NameMap.erase]
      · simp only [NameMap.erase, List.filter_cons] at ih ⊢
        rw [ih]

/-- A map with a pair set is that pair and the map without its name. -/
theorem Sorted.set_perm {map : NameMap α} (sorted : map.Sorted) (name : String) (value : α) :
    (map.set name value).Perm ((name, value) :: map.erase name) := by
  have set_found : (map.set name value).get? name = some value := by
    rw [get?_set, if_pos rfl]
  have parts := (sorted.set name value).perm_cons_erase set_found
  rwa [erase_set] at parts

theorem Sorted.set_eq_self {map : NameMap α} (sorted : map.Sorted) {name : String} {value : α}
    (found : map.get? name = some value) : map.set name value = map := by
  induction map with
  | nil => cases found
  | cons head rest ih =>
    obtain ⟨key, old⟩ := head
    obtain ⟨first, others⟩ := List.pairwise_cons.1 sorted
    by_cases same : key = name
    · simp only [get?, same, ↓reduceIte, Option.some.injEq] at found
      simp only [NameMap.set, same, found, ↓reduceIte]
    · simp only [get?, same, ↓reduceIte] at found
      have later : key < name := first _ (mem_of_get? found)
      simp only [NameMap.set, same, String.lt_asymm later, ih others found, ↓reduceIte]

theorem set_ne_nil (map : NameMap α) (name : String) (value : α) : map.set name value ≠ [] := by
  cases map with
  | nil => exact List.cons_ne_nil _ _
  | cons head rest =>
    unfold set
    split
    · exact List.cons_ne_nil _ _
    · split <;> exact List.cons_ne_nil _ _

theorem set_set (map : NameMap α) (name : String) (first second : α) :
    (map.set name first).set name second = map.set name second := by
  induction map with
  | nil => simp only [set, ↓reduceIte]
  | cons head rest ih =>
    obtain ⟨key, old⟩ := head
    by_cases same : key = name
    · simp only [set, same, ↓reduceIte]
    · by_cases before : name < key
      · simp only [set, same, before, ↓reduceIte]
      · simp only [set, same, before, ↓reduceIte, ih]

end ChatLine.NameMap
