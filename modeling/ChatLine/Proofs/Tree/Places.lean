import ChatLine.Tree
import ChatLine.Proofs.Tree.SortedMap
import Mathlib.Logic.Function.Basic

set_option autoImplicit false

namespace ChatLine

mutual

/-- A node in good order: a group in good order is not empty. -/
inductive Node.Sound : Node → Prop
  | leaf (command : Command) : Node.Sound (.leaf command)
  | group (id : Nat) {children : List (String × Node)} (present : children ≠ [])
      (sound : Children.Sound children) : Node.Sound (.group id children)

/-- Children in good order: the names are, the nodes are, and the empty name is no group. -/
inductive Children.Sound : List (String × Node) → Prop
  | intro {children : List (String × Node)} (sorted : NameMap.Sorted children)
      (plain : ∀ id below, NameMap.get? children "" ≠ some (.group id below))
      (below : ∀ name node, NameMap.get? children name = some node → Node.Sound node) :
      Children.Sound children

end

mutual

def Node.leaves : Node → List (List String × Command)
  | .leaf command => [([], command)]
  | .group _ children => leavesBelow children

/-- The commands of a group and of the groups below it, with their paths. -/
def leavesBelow : List (String × Node) → List (List String × Command)
  | [] => []
  | (name, node) :: rest =>
    (node.leaves.map fun leaf => (name :: leaf.1, leaf.2)) ++ leavesBelow rest

end

mutual

def Node.groups : Node → List (List (String × Node))
  | .leaf _ => []
  | .group _ children => children :: groupsBelow children

def groupsBelow : List (String × Node) → List (List (String × Node))
  | [] => []
  | (_, node) :: rest => node.groups ++ groupsBelow rest

end

namespace Children

/-- The command that sits at some names. -/
def sits? (children : Children) : List String → Option Command
  | [] =>
    match children.get? "" with
    | some (.leaf command) => some command
    | _ => none
  | name :: rest =>
    if name = "" then none
    else
      match children.get? name with
      | some (.leaf command) => if rest = [] then some command else none
      | some (.group _ below) => sits? below rest
      | none => none

/-- The path of what sits at some names: it goes on to the empty name of a group. -/
def slot (children : Children) : List String → List String
  | [] => [""]
  | name :: rest =>
    name ::
      match children.get? name with
      | some (.group _ below) => slot below rest
      | _ => rest

variable {children : Children}

theorem Sound.sorted (sound : Sound children) : NameMap.Sorted children := by
  cases sound with
  | intro sorted plain below => exact sorted

theorem Sound.plain (sound : Sound children) (id : Nat) (below : List (String × Node)) :
    children.get? "" ≠ some (.group id below) := by
  cases sound with
  | intro sorted plain others => exact plain id below

theorem Sound.node (sound : Sound children) {name : String} {node : Node}
    (found : children.get? name = some node) : node.Sound := by
  cases sound with
  | intro sorted plain below => exact below name node found

theorem Sound.nodes (sound : Sound children) : ∀ entry ∈ children, entry.2.Sound :=
  fun entry inside => sound.node ((NameMap.get?_eq_some_iff sound.sorted entry.1 entry.2).2 inside)

theorem Sound.inner (sound : Sound children) {name : String} {id : Nat} {below : Children}
    (found : children.get? name = some (.group id below)) : below ≠ [] ∧ Sound below := by
  have node := sound.node found
  cases node with
  | group _ present inner => exact ⟨present, inner⟩

theorem sound_nil : Sound [] := by
  refine .intro .nil ?_ ?_
  · exact fun id below found => nomatch found
  · exact fun name node found => nomatch found

theorem sound_singleton (command : Command) : Sound [("", .leaf command)] := by
  refine .intro (List.pairwise_singleton _ _) ?_ ?_
  · exact fun id below found => nomatch found
  · intro name node found
    simp only [NameMap.get?] at found
    split at found
    · cases found
      exact .leaf command
    · cases found

theorem Sound.set (sound : Sound children) {name : String} {node : Node} (node_sound : node.Sound)
    (plain : name = "" → node.isGroup = false) : Sound (children.set name node) := by
  refine .intro (sound.sorted.set name node) ?_ ?_
  · intro id below found
    rw [NameMap.get?_set] at found
    split at found
    · rename_i same
      cases found
      cases plain same.symm
    · exact sound.plain id below found
  · intro other inner found
    rw [NameMap.get?_set] at found
    split at found
    · cases found
      exact node_sound
    · exact sound.node found

theorem Sound.erase (sound : Sound children) (name : String) : Sound (children.erase name) := by
  refine .intro (sound.sorted.erase name) ?_ ?_
  · intro id below found
    rw [NameMap.get?_erase] at found
    split at found
    · cases found
    · exact sound.plain id below found
  · intro other inner found
    rw [NameMap.get?_erase] at found
    split at found
    · cases found
    · exact sound.node found

theorem sits?_empty_name (name : String) (rest : List String) (empty : name = "") :
    children.sits? (name :: rest) = none := by
  simp only [sits?, empty, ↓reduceIte]

theorem sits?_leaf {name : String} {command : Command} (named : name ≠ "")
    (found : children.get? name = some (.leaf command)) (rest : List String) :
    children.sits? (name :: rest) = if rest = [] then some command else none := by
  simp only [sits?, named, ↓reduceIte, found]

theorem sits?_group {name : String} {id : Nat} {below : Children} (named : name ≠ "")
    (found : children.get? name = some (.group id below)) (rest : List String) :
    children.sits? (name :: rest) = below.sits? rest := by
  simp only [sits?, named, ↓reduceIte, found]

theorem sits?_absent {name : String} (found : children.get? name = none) (rest : List String) :
    children.sits? (name :: rest) = none := by
  simp only [sits?, found, ite_self]

theorem sits?_nil (names : List String) : sits? [] names = none := by
  cases names with
  | nil => rfl
  | cons name rest => exact sits?_absent rfl rest

theorem sits?_singleton (command : Command) (names : List String) :
    sits? [("", .leaf command)] names = if names = [] then some command else none := by
  cases names with
  | nil => rfl
  | cons name rest =>
    rw [if_neg (List.cons_ne_nil _ _)]
    by_cases named : name = ""
    · exact sits?_empty_name name rest named
    · exact sits?_absent (by simp [NameMap.get?, Ne.symm named]) rest

theorem ne_nil_of_sits? {names : List String} {command : Command}
    (sits : children.sits? names = some command) : children ≠ [] := by
  rintro rfl
  rw [sits?_nil] at sits
  cases sits

/-- What sits where depends on what the names of the group are mapped to. -/
theorem sits?_congr {other : Children} {names : List String}
    (same : children.get? (names.headD "") = other.get? (names.headD "")) :
    children.sits? names = other.sits? names := by
  cases names with
  | nil =>
    simp only [List.headD_nil] at same
    simp only [sits?, same]
  | cons name rest =>
    simp only [List.headD_cons] at same
    simp only [sits?, same]

theorem sits?_set_empty (command : Command) :
    sits? (children.set "" (.leaf command)) = Function.update children.sits? [] (some command) := by
  funext names
  rw [Function.update_apply]
  cases names with
  | nil => simp only [sits?, NameMap.get?_set, ↓reduceIte]
  | cons name rest =>
    rw [if_neg (List.cons_ne_nil _ _)]
    by_cases named : name = ""
    · rw [sits?_empty_name name rest named, sits?_empty_name name rest named]
    · refine sits?_congr ?_
      rw [List.headD_cons, NameMap.get?_set, if_neg named]

/-- A command set under a name that is no group sits at the name. -/
theorem sits?_set_leaf {name : String} (command : Command) (named : name ≠ "")
    (free : ∀ id below, children.get? name ≠ some (.group id below)) :
    sits? (children.set name (.leaf command)) =
      Function.update children.sits? [name] (some command) := by
  funext names
  rw [Function.update_apply]
  by_cases inside : names.headD "" = name
  · cases names with
    | nil => exact absurd inside.symm named
    | cons first rest =>
      rw [List.headD_cons] at inside
      subst inside
      rw [sits?_leaf named (by rw [NameMap.get?_set, if_pos rfl])]
      simp only [List.cons.injEq, true_and]
      split
      · rfl
      · rename_i longer
        cases found : children.get? first with
        | none => rw [sits?_absent found]
        | some node =>
          cases node with
          | leaf old => rw [sits?_leaf named found, if_neg longer]
          | group id below => exact absurd found (free id below)
  · have different : names ≠ [name] := by
      rintro rfl
      exact inside rfl
    rw [if_neg different]
    refine sits?_congr ?_
    rw [NameMap.get?_set, if_neg inside]

/-- In a group set under a name sits what sits in it; nothing else moves. -/
theorem sits?_set_group {name : String} {id : Nat} {before below : Children} {rest : List String}
    {command : Option Command} (named : name ≠ "")
    (from_below : ∀ names, children.sits? (name :: names) = before.sits? names)
    (changed : below.sits? = Function.update before.sits? rest command) :
    sits? (children.set name (.group id below)) =
      Function.update children.sits? (name :: rest) command := by
  funext names
  rw [Function.update_apply]
  by_cases inside : names.headD "" = name
  · cases names with
    | nil => exact absurd inside.symm named
    | cons first others =>
      rw [List.headD_cons] at inside
      subst inside
      rw [sits?_group named (by rw [NameMap.get?_set, if_pos rfl]), changed, Function.update_apply,
        from_below]
      simp only [List.cons.injEq, true_and]
  · have different : names ≠ name :: rest := by
      rintro rfl
      exact inside rfl
    rw [if_neg different]
    refine sits?_congr ?_
    rw [NameMap.get?_set, if_neg inside]

/-- Without a name, nothing sits at the names that begin with it. -/
theorem sits?_erase {name : String} {rest : List String} (named : name ≠ "")
    (alone : ∀ names, names ≠ rest → children.sits? (name :: names) = none) :
    sits? (children.erase name) = Function.update children.sits? (name :: rest) none := by
  funext names
  rw [Function.update_apply]
  by_cases inside : names.headD "" = name
  · cases names with
    | nil => exact absurd inside.symm named
    | cons first others =>
      rw [List.headD_cons] at inside
      subst inside
      rw [sits?_absent (by rw [NameMap.get?_erase, if_pos rfl])]
      split
      · rfl
      · rename_i different
        rw [alone others fun same => different (by rw [same])]
  · have different : names ≠ name :: rest := by
      rintro rfl
      exact inside rfl
    rw [if_neg different]
    refine sits?_congr ?_
    rw [NameMap.get?_erase, if_neg inside]

theorem sits?_erase_empty :
    sits? (children.erase "") = Function.update children.sits? [] none := by
  funext names
  rw [Function.update_apply]
  cases names with
  | nil => simp only [sits?, NameMap.get?_erase, ↓reduceIte]
  | cons name rest =>
    rw [if_neg (List.cons_ne_nil _ _)]
    by_cases named : name = ""
    · rw [sits?_empty_name name rest named, sits?_empty_name name rest named]
    · refine sits?_congr ?_
      rw [List.headD_cons, NameMap.get?_erase, if_neg named]

end Children

end ChatLine
