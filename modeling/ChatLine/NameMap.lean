set_option autoImplicit false

namespace ChatLine

/-- Names with what they are mapped to, in the order of the names. -/
abbrev NameMap (α : Type) := List (String × α)

namespace NameMap

variable {α : Type}

def get? (map : NameMap α) (name : String) : Option α :=
  match map with
  | [] => none
  | (key, value) :: rest => if key = name then some value else get? rest name

def has (map : NameMap α) (name : String) : Bool :=
  (map.get? name).isSome

/-- The map with a name mapped to a value, whatever it was mapped to. -/
def set (map : NameMap α) (name : String) (value : α) : NameMap α :=
  match map with
  | [] => [(name, value)]
  | (key, old) :: rest =>
    if key = name then (name, value) :: rest
    else if name < key then (name, value) :: (key, old) :: rest
    else (key, old) :: set rest name value

def erase (map : NameMap α) (name : String) : NameMap α :=
  map.filter fun entry => entry.1 != name

def names (map : NameMap α) : List String :=
  map.map Prod.fst

/-- The map of some pairs; of two with one name the later one counts. -/
def ofPairs (pairs : List (String × α)) : NameMap α :=
  pairs.foldl (fun map pair => map.set pair.1 pair.2) []

@[simp] theorem get?_nil (name : String) : get? ([] : NameMap α) name = none := rfl

theorem get?_set (map : NameMap α) (name other : String) (value : α) :
    (map.set name value).get? other = if other = name then some value else map.get? other := by
  induction map with
  | nil => simp only [set, get?, eq_comm]
  | cons entry rest ih =>
    obtain ⟨key, old⟩ := entry
    grind [set, get?]

theorem get?_erase (map : NameMap α) (name other : String) :
    (map.erase name).get? other = if other = name then none else map.get? other := by
  induction map with
  | nil => simp [erase]
  | cons entry rest ih =>
    obtain ⟨key, old⟩ := entry
    simp only [erase] at ih ⊢
    grind [get?]

/-- A name is one of the names of a map when it is mapped to something. -/
theorem mem_names_iff (map : NameMap α) (name : String) :
    name ∈ map.names ↔ ∃ value, map.get? name = some value := by
  induction map with
  | nil => simp [names]
  | cons entry rest ih =>
    obtain ⟨key, old⟩ := entry
    simp only [names, List.map_cons, List.mem_cons] at ih ⊢
    rw [ih]
    by_cases same : name = key
    · simp [get?, same]
    · simp [get?, same, Ne.symm same]

end NameMap

end ChatLine
