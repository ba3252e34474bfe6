import ChatLine.Proofs.Tree.Changes
import ChatLine.Proofs.Tree.Listing

set_option autoImplicit false

namespace ChatLine

namespace Children

/-- What a group begins with when it is made at a name, by what stood there. -/
def moved : Option Node → Children
  | none => []
  | some node => [("", node)]

def Plain (children : Children) (name : String) : Prop :=
  ∀ id below, children.get? name ≠ some (.group id below)

/-- The children with a command put at some names. New groups take the numbers from `next` on. -/
def put (command : Command) (next : Nat) (children : Children) : List String → Children
  | [] => children.set "" (.leaf command)
  | name :: rest =>
    match children.get? name with
    | some (.group id below) => children.set name (.group id (put command next below rest))
    | found =>
      if rest = [] then children.set name (.leaf command)
      else children.set name (.group next (put command (next + 1) (moved found) rest))

/-- How many groups are made when a command is put at some names. -/
def made (children : Children) : List String → Nat
  | [] => 0
  | name :: rest =>
    match children.get? name with
    | some (.group _ below) => made below rest
    | _ => rest.length

/-- The names lead to a group. -/
def Leads (children : Children) : List String → Prop
  | [] => True
  | name :: rest =>
    match children.get? name with
    | some (.group _ below) => Leads below rest
    | _ => False

section Equations

variable {children : Children} {command : Command} {next : Nat} {name : String}

theorem plain_of_absent (absent : children.get? name = none) : children.Plain name := by
  intro id below found
  rw [absent] at found
  cases found

theorem plain_of_leaf {old : Command} (leaf : children.get? name = some (.leaf old)) :
    children.Plain name := by
  intro id below found
  rw [leaf] at found
  cases found

theorem group_or_plain (children : Children) (name : String) :
    (∃ id below, children.get? name = some (.group id below)) ∨ children.Plain name := by
  cases found : children.get? name with
  | none => exact .inr (plain_of_absent found)
  | some node =>
    cases node with
    | leaf old => exact .inr (plain_of_leaf found)
    | group id below => exact .inl ⟨id, below, rfl⟩

theorem Plain.absent_or_leaf (plain : children.Plain name) :
    children.get? name = none ∨ ∃ old, children.get? name = some (.leaf old) := by
  cases found : children.get? name with
  | none => exact .inl rfl
  | some node =>
    cases node with
    | leaf old => exact .inr ⟨old, rfl⟩
    | group id below => exact absurd found (plain id below)

theorem put_group {id : Nat} {below : Children} (found : children.get? name = some (.group id below))
    (rest : List String) :
    children.put command next (name :: rest) =
      children.set name (.group id (below.put command next rest)) := by
  simp only [put, found]

theorem put_last (plain : children.Plain name) :
    children.put command next [name] = children.set name (.leaf command) := by
  unfold put
  split
  · rename_i id below found
    exact absurd found (plain id below)
  · rfl

theorem put_plain (plain : children.Plain name) {rest : List String} (longer : rest ≠ []) :
    children.put command next (name :: rest) =
      children.set name
        (.group next ((moved (children.get? name)).put command (next + 1) rest)) := by
  rw [put.eq_2]
  split
  · rename_i id below found
    exact absurd found (plain id below)
  · rw [if_neg longer]

theorem made_group {id : Nat} {below : Children}
    (found : children.get? name = some (.group id below)) (rest : List String) :
    children.made (name :: rest) = below.made rest := by
  simp only [made, found]

theorem made_plain (plain : children.Plain name) (rest : List String) :
    children.made (name :: rest) = rest.length := by
  unfold made
  split
  · rename_i id below found
    exact absurd found (plain id below)
  · rfl

theorem leads_group {id : Nat} {below : Children}
    (found : children.get? name = some (.group id below)) (rest : List String) :
    children.Leads (name :: rest) ↔ below.Leads rest := by
  simp only [Leads, found]

theorem not_leads_plain (plain : children.Plain name) (rest : List String) :
    ¬ children.Leads (name :: rest) := by
  unfold Leads
  split
  · rename_i id below found
    exact absurd found (plain id below)
  · exact id

theorem leads_congr {other : Children} {names : List String}
    (same : names ≠ [] → children.get? (names.headD "") = other.get? (names.headD "")) :
    children.Leads names ↔ other.Leads names := by
  cases names with
  | nil => exact Iff.rfl
  | cons name rest =>
    have found := same (List.cons_ne_nil _ _)
    rw [List.headD_cons] at found
    simp only [Leads, found]

theorem moved_sound (plain : children.Plain name) : Sound (moved (children.get? name)) := by
  rcases plain.absent_or_leaf with absent | ⟨old, leaf⟩
  · rw [absent]
    exact sound_nil
  · rw [leaf]
    exact sound_singleton old

theorem get?_moved (found : Option Node) {other : String} (named : other ≠ "") :
    (moved found).get? other = none := by
  cases found with
  | none => rfl
  | some node => exact if_neg (Ne.symm named)

theorem sits?_plain (named : name ≠ "") (plain : children.Plain name) {rest : List String}
    (longer : rest ≠ []) : children.sits? (name :: rest) = none := by
  rcases plain.absent_or_leaf with absent | ⟨old, leaf⟩
  · exact sits?_absent absent rest
  · rw [sits?_leaf named leaf, if_neg longer]

end Equations

end Children

/-- The growth in which a command is put at some names; the command that it replaces is dropped. -/
def Growth.put (growth : Growth) (command : Command) (names : List String) : Growth where
  children := growth.children.put command growth.next names
  next := growth.next + growth.children.made names
  dropped := ((growth.children.sits? names).map Node.leaf).toList ++ growth.dropped

/-- The groups of a bot when a command is put at some names of the tree. -/
def Groups.put (groups : Groups) (command : Command) (names : List String) : Groups where
  top := groups.top.put command groups.next names
  next := groups.next + groups.top.made names
  dropped := ((groups.top.sits? names).map Node.leaf).toList ++ groups.dropped

def Groups.without (groups : Groups) (path : List String) : Groups where
  top := (groups.top.removeAt path).2
  next := groups.next
  dropped := (groups.top.removeAt path).1.toList ++ groups.dropped

namespace Change

open Effects Children

section Within

variable {α : Type} {name : String} {absorb : Bool} {growth : Growth}

theorem run_within_group (change : Change α) {id : Nat} {below : Children}
    (found : growth.children.get? name = some (.group id below)) :
    (within name absorb change).run.run growth =
      let (result, inner) := change.run.run { growth with children := below }
      (result,
        { inner with children := growth.children.set name (.group id inner.children) }) := by
  rewrite [run_within, run_childGroup, found]
  rfl

theorem run_within_plain (change : Change α) (plain : growth.children.Plain name)
    (allowed : absorb = true ∨ growth.children.get? name = none) :
    (within name absorb change).run.run growth =
      let (result, inner) := change.run.run
        { growth with children := moved (growth.children.get? name), next := growth.next + 1 }
      (result, { inner with
        children := growth.children.set name (.group growth.next inner.children) }) := by
  have opened : (childGroup name absorb).run.run growth =
      (newGroup name (moved (growth.children.get? name))).run.run growth := by
    rw [run_childGroup]
    rcases plain.absent_or_leaf with absent | ⟨old, leaf⟩
    · rw [absent]
      rfl
    · rw [leaf] at allowed ⊢
      rw [allowed.resolve_right (Option.some_ne_none _)]
      rfl
  have grown : (newGroup name (moved (growth.children.get? name))).run.run growth =
      (.ok (growth.next, moved (growth.children.get? name)), { growth with
        children := growth.children.set name
          (.group growth.next (moved (growth.children.get? name)))
        next := growth.next + 1 }) := rfl
  rw [run_within, opened, grown]
  dsimp only
  rcases change.run.run _ with ⟨result, inner⟩
  exact congrArg (fun children => (result, { inner with children := children }))
    (NameMap.set_set _ _ _ _)

end Within

theorem put_group {growth : Growth} {name : String} {id : Nat} {below : Children} (named : name ≠ "")
    (found : growth.children.get? name = some (.group id below)) (command : Command)
    (rest : List String) :
    growth.put command (name :: rest) =
      { Growth.put { growth with children := below } command rest with
        children := growth.children.set name
          (.group id (Growth.put { growth with children := below } command rest).children) } := by
  simp only [Growth.put, Children.put_group found, made_group found, sits?_group named found]

/-- The growth with a command put below a name at which a group is made. -/
theorem put_plain {growth : Growth} {name : String} (named : name ≠ "")
    (plain : growth.children.Plain name) (command : Command) {next : String} (next_named : next ≠ "")
    (rest : List String) :
    let inner : Growth :=
      { growth with children := moved (growth.children.get? name), next := growth.next + 1 }
    growth.put command (name :: next :: rest) =
      { inner.put command (next :: rest) with
        children := growth.children.set name
          (.group growth.next (inner.put command (next :: rest)).children) } := by
  intro inner
  have absent : inner.children.get? next = none := get?_moved _ next_named
  have free : growth.children.sits? (name :: next :: rest) = none :=
    sits?_plain named plain (List.cons_ne_nil _ _)
  have free_inside : inner.children.sits? (next :: rest) = none := sits?_absent absent rest
  have count := made_plain (plain_of_absent absent) rest
  simp only [Growth.put, Children.put_plain plain (List.cons_ne_nil next rest), made_plain plain,
    free, free_inside, count, List.length_cons]
  simp only [inner, Growth.mk.injEq, and_true, true_and]
  omega

/-- What puts a command at the end of a path is blocked, if the command is fresh, by a command that
sits there; or else it puts its command there. -/
theorem run_settle_put (path last : String) (named : last ≠ "") (command : Command) (fresh : Bool)
    (growth : Growth) (sound : Sound growth.children) :
    (settle path last command fresh).run.run growth =
      if fresh && (growth.children.sits? [last]).isSome then (.error (.duplicateCommand path), growth)
      else (.ok (), growth.put command [last]) := by
  rw [run_settle]
  cases found : growth.children.get? last with
  | none =>
    dsimp only
    rw [run_settleAt, NameMap.has, found, sits?_absent found]
    simp only [Growth.put, put_last (plain_of_absent found), made_plain (plain_of_absent found),
      sits?_absent found, Option.isSome_none, Bool.and_false, Option.map_none, List.length_nil,
      Nat.add_zero]
  | some node =>
    cases node with
    | leaf old =>
      dsimp only
      have sits : growth.children.sits? [last] = some old := by
        rw [sits?_leaf named found, if_pos rfl]
      rw [run_settleAt, NameMap.has, found, sits]
      simp only [Growth.put, put_last (plain_of_leaf found), made_plain (plain_of_leaf found), sits,
        Option.isSome_some, Option.map_some, List.length_nil, Nat.add_zero]
    | group id below =>
      dsimp only
      rw [run_within_group _ found, run_settleAt]
      have sits := sits?_group named found []
      have slot_same : NameMap.has below "" = (sits? below []).isSome ∧
          NameMap.get? below "" = (sits? below []).map Node.leaf := by
        unfold NameMap.has sits?
        cases inside : NameMap.get? below "" with
        | none => exact ⟨rfl, rfl⟩
        | some node =>
          cases node with
          | leaf old => exact ⟨rfl, rfl⟩
          | group inner others => exact absurd inside ((sound.inner found).2.plain inner others)
      rw [sits, put_group named found]
      dsimp only
      rw [slot_same.1, slot_same.2]
      split
      · rw [NameMap.Sorted.set_eq_self sound.sorted found]
      · rfl

/-- Going down a path to put a command at its end: nothing happens where a fresh command finds the
names taken, and else the command is put. -/
theorem run_descend_settle (path last : String) (last_named : last ≠ "") (command : Command)
    (fresh : Bool) (front : List String) (named : ∀ name ∈ front, name ≠ "") (growth : Growth)
    (sound : Sound growth.children) :
    (descend true (settle path last command fresh) front).run.run growth =
      if fresh && (growth.children.sits? (front ++ [last])).isSome then
        (.error (.duplicateCommand path), growth)
      else (.ok (), growth.put command (front ++ [last])) := by
  induction front generalizing growth with
  | nil => exact run_settle_put path last last_named command fresh growth sound
  | cons name front ih =>
    have name_named := named name List.mem_cons_self
    have others := ih fun other inside => named other (List.mem_cons_of_mem _ inside)
    unfold descend
    rcases group_or_plain growth.children name with ⟨id, below, found⟩ | plain
    · have below_sound : Sound below := (sound.inner found).2
      rw [run_within_group _ found, others { growth with children := below } below_sound,
        List.cons_append, sits?_group name_named found, put_group name_named found]
      dsimp only
      split
      · rw [NameMap.Sorted.set_eq_self sound.sorted found]
      · rfl
    · obtain ⟨next, rest, longer⟩ : ∃ next rest, front ++ [last] = next :: rest :=
        List.exists_cons_of_ne_nil (by simp)
      have next_named : next ≠ "" := by
        have listed : next ∈ front ++ [last] := by simp [longer]
        rcases List.mem_append.1 listed with inside | ends
        · exact named next (List.mem_cons_of_mem _ inside)
        · rw [List.mem_singleton.1 ends]
          exact last_named
      rw [longer] at others
      rw [run_within_plain _ plain (.inl rfl),
        others { growth with
          children := moved (growth.children.get? name), next := growth.next + 1 }
          (moved_sound plain), List.cons_append, longer,
        put_plain name_named plain command next_named]
      dsimp only
      have free_inside : (moved (growth.children.get? name)).sits? (next :: rest) = none :=
        sits?_absent (get?_moved _ next_named) rest
      have free : growth.children.sits? (name :: next :: rest) = none :=
        sits?_plain name_named plain (List.cons_ne_nil _ _)
      rw [free, free_inside]
      simp only [Option.isSome_none, Bool.and_false, Bool.false_eq_true, ↓reduceIte]

/-- To place a command is to put it at its path. A fresh command is not placed where one sits. -/
theorem run_place {path : String} (named : ∀ name ∈ Text.spaced path, name ≠ "")
    (present : Text.spaced path ≠ []) (command : Command) (fresh : Bool) (growth : Growth)
    (sound : Sound growth.children) :
    (place path command fresh).run.run growth =
      if fresh && (growth.children.sits? (Text.spaced path)).isSome then
        (.error (.duplicateCommand path), growth)
      else (.ok (), growth.put command (Text.spaced path)) := by
  unfold place
  generalize Text.spaced path = names at named present
  rcases List.eq_nil_or_concat names with empty | ⟨front, last, same⟩
  · exact absurd empty present
  · rw [List.concat_eq_append] at same
    subst same
    simp only [List.getLast?_concat, List.dropLast_concat]
    exact run_descend_settle path last (named last (by simp)) command fresh front
      (fun name inside => named name (by simp [inside])) growth sound

/-- Going down a path to insert a command at its end: the command is put, or something is in the way
from the first name on, and nothing happens. -/
theorem run_descend_insert (last : String) (last_named : last ≠ "") (command : Command)
    (taken : CommandError) (front : List String) (named : ∀ name ∈ front, name ≠ "")
    (growth : Growth) (sound : Sound growth.children) :
    let insertion := descend false (tryCatch (insert last (.leaf command)) fun _ => throw taken) front
    insertion.run.run growth = (.ok (), growth.put command (front ++ [last])) ∨
      (∃ error, insertion.run.run growth = (.error error, growth)) ∧
        growth.children.get? ((front ++ [last]).headD "") ≠ none := by
  induction front generalizing growth with
  | nil =>
    intro insertion
    have runs : insertion.run.run growth = _ :=
      run_tryCatch (insert last (.leaf command)) (fun _ => throw taken) growth
    rw [run_insert] at runs
    cases found : growth.children.get? last with
    | none =>
      refine .inl ?_
      rw [runs, NameMap.has, found]
      simp only [Growth.put, List.nil_append, put_last (plain_of_absent found),
        made_plain (plain_of_absent found), sits?_absent found, Option.map_none, List.length_nil,
        Nat.add_zero]
      rfl
    | some node =>
      refine .inr ⟨⟨taken, ?_⟩, ?_⟩
      · rw [runs, NameMap.has, found]
        rfl
      · rw [List.nil_append, List.headD_cons, found]
        exact Option.some_ne_none node
  | cons name front ih =>
    intro insertion
    have name_named := named name List.mem_cons_self
    have others := ih fun other inside => named other (List.mem_cons_of_mem _ inside)
    cases found : growth.children.get? name with
    | none =>
      obtain ⟨next, rest, longer⟩ : ∃ next rest, front ++ [last] = next :: rest :=
        List.exists_cons_of_ne_nil (by simp)
      have next_named : next ≠ "" := by
        have listed : next ∈ front ++ [last] := by simp [longer]
        rcases List.mem_append.1 listed with inside | ends
        · exact named next (List.mem_cons_of_mem _ inside)
        · rw [List.mem_singleton.1 ends]
          exact last_named
      rw [longer] at others
      refine .inl ?_
      have plain := plain_of_absent found
      -- nothing is in the way in a group that was just made
      have inner := (others { growth with
        children := moved (growth.children.get? name), next := growth.next + 1 }
        (moved_sound plain)).resolve_right fun blocked => blocked.2 (get?_moved _ next_named)
      rw [List.cons_append, longer, put_plain name_named plain command next_named]
      show (within name false _).run.run growth = _
      rw [run_within_plain _ plain (.inr found), inner]
    | some node =>
      cases node with
      | leaf old =>
        refine .inr ⟨⟨.invalidPath name "a command already exists at this name", ?_⟩, by simp [found]⟩
        show (within name false _).run.run growth = _
        rw [run_within, run_childGroup, found]
        rfl
      | group id below =>
        have runs : insertion.run.run growth = _ := run_within_group _ found
        rw [runs, List.cons_append, put_group name_named found]
        rcases others { growth with children := below } (sound.inner found).2 with
          put | ⟨⟨error, blocked⟩, -⟩
        · rw [put]
          exact .inl rfl
        · rw [blocked]
          refine .inr ⟨⟨error, ?_⟩, by simp [found]⟩
          dsimp only
          rw [NameMap.Sorted.set_eq_self sound.sorted found]

/-- To add a command is to put it at its path, unless something is in the way. -/
theorem run_addAt {path : List String} (present : path ≠ []) (named : ∀ name ∈ path, name ≠ "")
    (command : Command) (growth : Growth) (sound : Sound growth.children) :
    (addAt path command).run.run growth = (.ok (), growth.put command path) ∨
      ∃ error, (addAt path command).run.run growth = (.error error, growth) := by
  rcases List.eq_nil_or_concat path with empty | ⟨front, last, same⟩
  · exact absurd empty present
  · rw [List.concat_eq_append] at same
    subst same
    simp only [addAt, List.getLast?_concat, List.dropLast_concat]
    have runs := run_descend_insert last (named last (by simp)) command
      (.duplicateCommand (" ".intercalate (front ++ [last]))) front
      (fun name inside => named name (by simp [inside])) growth sound
    exact runs.imp_right And.left

end Change

namespace Children

section Put

variable {children : Children} {names : List String}

/-- A command that is put leaves a tree in good order, sits at its names and moves no other. -/
theorem put_spec (sound : Sound children) (present : names ≠ []) (named : ∀ name ∈ names, name ≠ "")
    (command : Command) (next : Nat) :
    Sound (children.put command next names) ∧
      sits? (children.put command next names) =
        Function.update (sits? children) names (some command) := by
  rcases List.eq_nil_or_concat names with empty | ⟨front, last, same⟩
  · exact absurd empty present
  · rw [List.concat_eq_append] at same
    subst same
    have front_named : ∀ name ∈ front, name ≠ "" := fun name inside => named name (by simp [inside])
    have last_named := named last (by simp)
    have absorbs : true = false → false = true := Eq.symm
    have puts := Change.puts_descend (Change.puts_settle "" last_named command false) absorbs front
      front_named ⟨children, next, []⟩ sound
    have runs := Change.run_descend_settle "" last last_named command false front front_named
      ⟨children, next, []⟩ sound
    rw [Bool.false_and, if_neg Bool.false_ne_true] at runs
    unfold Change.PutsIn at puts
    rw [runs] at puts
    exact ⟨puts.1, puts.2.1⟩

theorem leads_set_of_ne {name other : String} (different : other ≠ name) (node : Node)
    (rest : List String) :
    Leads (children.set name node) (other :: rest) ↔ Leads children (other :: rest) := by
  refine leads_congr fun _ => ?_
  rw [List.headD_cons, NameMap.get?_set, if_neg different]

theorem leads_set_group (name : String) (id : Nat) (below : Children) (rest : List String) :
    Leads (children.set name (.group id below)) (name :: rest) ↔ Leads below rest :=
  leads_group (by rw [NameMap.get?_set, if_pos rfl]) rest

theorem not_leads_set_leaf (name : String) (command : Command) (rest : List String) :
    ¬ Leads (children.set name (.leaf command)) (name :: rest) :=
  not_leads_plain (plain_of_leaf (by rw [NameMap.get?_set, if_pos rfl])) rest

theorem leads_moved {name : String} (plain : children.Plain name) (path : List String) :
    Leads (moved (children.get? name)) path ↔ path = [] := by
  cases path with
  | nil => exact ⟨fun _ => rfl, fun _ => trivial⟩
  | cons first rest =>
    refine ⟨fun leads => ?_, fun empty => nomatch empty⟩
    refine absurd leads (not_leads_plain ?_ rest)
    intro id below found
    have inside := NameMap.mem_of_get? found
    cases stood : children.get? name with
    | none =>
      rw [stood] at inside
      cases inside
    | some node =>
      rw [stood] at inside
      cases List.mem_singleton.1 inside
      exact plain id below stood

/-- The groups of a tree into which a command is put are those from before and those on its way. -/
theorem leads_put (sound : Sound children) (named : ∀ name ∈ names, name ≠ "") (command : Command)
    (next : Nat) (path : List String) :
    Leads (children.put command next names) path ↔
      Leads children path ∨ path <+: names.dropLast := by
  induction names generalizing children next path with
  | nil =>
    cases path with
    | nil => simp [Leads]
    | cons other rest =>
      rw [put, List.dropLast_nil, List.prefix_nil]
      by_cases same : other = ""
      · subst same
        simp [not_leads_set_leaf, not_leads_plain sound.plain rest]
      · rw [leads_set_of_ne same, or_iff_left (List.cons_ne_nil _ _)]
  | cons name rest ih =>
    have others := fun other inside => named other (List.mem_cons_of_mem name inside)
    cases path with
    | nil => simp [Leads]
    | cons other path =>
      by_cases same : other = name
      · subst same
        have inside (longer : rest ≠ []) :
            other :: path <+: (other :: rest).dropLast ↔ path <+: rest.dropLast := by
          rw [List.dropLast_cons_of_ne_nil longer, List.cons_prefix_cons]
          exact and_iff_right rfl
        rcases group_or_plain children other with ⟨id, below, found⟩ | plain
        · rw [put_group found, leads_set_group, ih (sound.inner found).2 others, leads_group found]
          by_cases ends : rest = []
          · subst ends
            have here : path = [] → Leads below path := by
              rintro rfl
              trivial
            simpa using here
          · rw [inside ends]
        · by_cases ends : rest = []
          · subst ends
            rw [put_last plain]
            simp [not_leads_set_leaf, not_leads_plain plain path]
          · rw [put_plain plain ends, leads_set_group, ih (moved_sound plain) others,
              leads_moved plain, inside ends, or_iff_right (not_leads_plain plain path)]
            exact or_iff_right_of_imp fun empty => empty ▸ List.nil_prefix
      · have outside : ¬ other :: path <+: (name :: rest).dropLast := by
          intro begins
          cases rest with
          | nil => simp at begins
          | cons next more =>
            rw [List.dropLast_cons_of_ne_nil (List.cons_ne_nil _ _), List.cons_prefix_cons]
              at begins
            exact same begins.1
        rw [or_iff_left outside]
        rcases group_or_plain children name with ⟨id, below, found⟩ | plain
        · rw [put_group found, leads_set_of_ne same]
        · by_cases ends : rest = []
          · subst ends
            rw [put_last plain, leads_set_of_ne same]
          · rw [put_plain plain ends, leads_set_of_ne same]

end Put

end Children

end ChatLine
