import ChatLine.Proofs.Functions.OnTexts
import ChatLine.Proofs.Tree.Leaves

set_option autoImplicit false

namespace ChatLine

variable {σ : Type}

def World.withLeaves (world : World σ) (leaves : Command → Command) : World σ :=
  { world with bot := { world.bot with groups := world.bot.groups.withLeaves leaves } }

theorem World.withLeaves_id (world : World σ) : world.withLeaves id = world := by
  rw [withLeaves, Groups.withLeaves, withLeavesBelow_id]

/-- The errors for a name that stands for nothing or for more than one thing. -/
inductive CommandError.IsNaming : CommandError → Prop
  | ambiguous (candidates : List String) : IsNaming (.ambiguousName candidates)
  | notFound (name : String) : IsNaming (.nameNotFound name)

theorem Eval.resultIn_iterate_recorded {α : Type} (count : Nat) (action : Eval σ α)
    (world : World σ) : (recorded^[count] action).resultIn world = action.resultIn world := by
  induction count with
  | zero => rfl
  | succ count ih => rw [Function.iterate_succ_apply', resultIn_recorded, ih]

namespace Evaluate

open Builtin.Help

variable {host : Host σ} {world : World σ} {id calls : Nat} {children : Children}
  {names walked : List String}

def FoundByNumber (world : World σ) (node : Node) : Prop :=
  ∀ group ∈ node.numbered, world.bot.groups.children group.1 = group.2

theorem foundByNumber_top (numbered : world.bot.groups.Numbered) :
    FoundByNumber world (.group Groups.topId world.bot.groups.top) := by
  intro group inside
  rcases List.mem_cons.1 inside with rfl | below
  · exact if_pos rfl
  · exact numbered.children_eq below

theorem FoundByNumber.children_eq (numbers : FoundByNumber world (.group id children)) :
    world.bot.groups.children id = children :=
  numbers _ List.mem_cons_self

theorem FoundByNumber.resolve (numbers : FoundByNumber world (.group id children))
    {name full : String} {node : Node} (stands : children.resolve name = .ok (full, node)) :
    FoundByNumber world node := by
  intro group inside
  refine numbers group (List.mem_cons_of_mem _ ?_)
  rw [Children.numberedBelow_eq]
  exact List.mem_flatMap.2 ⟨_, NameMap.mem_of_get? (Children.of_resolve stands).2, inside⟩

theorem FoundByNumber.follow {node : Node} (numbers : FoundByNumber world node)
    {reached : List String × Node} (follows : follow walked node names = .ok reached) :
    FoundByNumber world reached.2 := by
  induction names generalizing node walked with
  | nil =>
    cases follows
    exact numbers
  | cons part rest ih =>
    cases node with
    | leaf command => cases follows
    | group id children =>
      cases resolved : Children.resolve children part with
      | error cause =>
        simp only [Builtin.Help.follow, resolved] at follows
        cases follows
      | ok found =>
        simp only [Builtin.Help.follow, resolved] at follows
        exact ih (numbers.resolve resolved) follows

/-- Names that can be followed are gone through, group by group, before what they lead to is called. -/
theorem run_follow (numbers : FoundByNumber world (.group id children)) {reached : List String × Node}
    (follows : follow walked (.group id children) names = .ok reached) (deep : names.length < calls)
    (arguments : List Command) (kinds : List Kind) :
    (run host calls (.group id) (names.map .literal ++ arguments) kinds).run.run world =
      (Eval.recorded^[names.length]
        (run host (calls - names.length) reached.2.command arguments kinds)).run.run world := by
  induction names generalizing id calls children walked with
  | nil =>
    cases follows
    rfl
  | cons part rest ih =>
    rw [List.length_cons] at deep
    obtain ⟨calls, rfl⟩ : ∃ fewer, calls = fewer + 1 := ⟨calls - 1, by omega⟩
    obtain ⟨left, rfl⟩ : ∃ fewer, calls = fewer + 1 := ⟨calls - 1, by omega⟩
    rw [List.length_cons, Function.iterate_succ_apply', run_group, List.map_cons, List.cons_append,
      Nat.add_sub_add_right]
    refine Eval.run_recorded_congr ?_
    rw [run_callGroup_literal]
    cases resolved : children.resolve part with
    | error cause =>
      simp only [follow, resolved] at follows
      cases follows
    | ok found =>
      obtain ⟨full, node⟩ := found
      simp only [follow, resolved] at follows
      have here : (world.bot.groups.children id).resolve part = .ok (full, node) := by
        rw [numbers.children_eq]
        exact resolved
      rw [run_dispatch_of_resolve here]
      cases node with
      | leaf command =>
        cases rest with
        | nil =>
          cases follows
          rfl
        | cons next more => cases follows
      | group own below => exact ih (numbers.resolve resolved) follows (by omega)

/-- A group that is given names does not do what is left to it if the first stands for nothing. -/
theorem resultIn_group_of_resolve {part : String} {error : CommandError}
    (numbers : FoundByNumber world (.group id children)) (lost : children.resolve part = .error error)
    (arguments : List Command) (kinds : List Kind) :
    (run host (calls + 2) (.group id) (.literal part :: arguments) kinds).resultIn world =
      some (.error error) := by
  rw [run_group, Eval.resultIn_recorded, Eval.resultIn, run_callGroup_literal, dispatch,
    Eval.run_bind, Eval.run_get]
  dsimp only
  rw [numbers.children_eq, lost]
  rfl

/-- The entry of the tree does with names what the group at the top does. -/
theorem run_root_names (names : List String) (kinds : List Kind) :
    (run host (calls + 2) .root (names.map .literal) kinds).run.run world =
      (run host (calls + 2) (.group Groups.topId) (names.map .literal) kinds).run.run world := by
  cases names with
  | nil => rfl
  | cons part rest =>
    rw [run_root, run_group]
    refine Eval.run_recorded_congr ?_
    rw [List.map_cons, run_callGroup_literal, callRoot, Eval.run_bind,
      run_literal host calls part rfl]

/-- A command fails on names at the part at a position: it answers for the parts before, but fails as
soon as this part is there, and in the same way for all parts. -/
structure FailsAt (host : Host σ) (calls : Nat) (world : World σ) (command : Command)
    (wanted kinds : List Kind) (names : List String) (position : Nat) (error : CommandError) :
    Prop where
  inside : position < names.length
  naming : error.IsNaming
  before : ∃ reply,
    (onNames host calls command (names.take position) wanted).resultIn world = some (.ok reply)
  there : (onNames host calls command (names.take (position + 1)) wanted).resultIn world =
    some (.error error)
  fails : (onNames host calls command names kinds).resultIn world = some (.error error)

section Positions

variable {position : Nat} {error : CommandError} {node : Node}

/-- Whether names are lost on the way does not depend on what is after them. -/
theorem losesAt_take (loses : LosesAt node names position error) :
    position < names.length ∧ LosesAt node (names.take (position + 1)) position error ∧
      ∃ walked id below, follow [] node (names.take position) = .ok (walked, .group id below) := by
  obtain ⟨before, part, after, walked, id, below, rfl, rfl, follows, lost⟩ := loses
  refine ⟨by simp, ⟨before, part, [], walked, id, below, ?_, rfl, follows, lost⟩, walked, id, below,
    ?_⟩
  · rw [List.take_length_add_append]
    rfl
  · rw [List.take_left]
    exact follows

theorem losesAt_of_take {other : Nat} (loses : LosesAt node (names.take (position + 1)) other error)
    (fine : ∀ earlier, ¬ LosesAt node (names.take position) earlier error) :
    LosesAt node names position error := by
  obtain ⟨before, part, after, walked, id, below, whole, rfl, follows, lost⟩ := loses
  have length : before.length + (after.length + 1) ≤ position + 1 := by
    rw [← List.length_cons (a := part), ← List.length_append, ← whole]
    exact List.length_take_le _ _
  rcases Nat.lt_or_ge before.length position with early | late
  · obtain ⟨more, rfl⟩ := Nat.exists_eq_add_of_lt early
    refine absurd ⟨before, part, after.take more, walked, id, below, ?_, rfl, follows, lost⟩
      (fine before.length)
    rw [← Nat.min_eq_left (Nat.le_succ (before.length + more + 1)), ← List.take_take, whole,
      Nat.add_assoc, List.take_length_add_append, List.take_succ_cons]
  · refine ⟨before, part, after ++ names.drop (position + 1), walked, id, below, ?_, by omega,
      follows, lost⟩
    rw [← List.cons_append, ← List.append_assoc, ← whole, List.take_append_drop]

end Positions

section Dispatching

variable {position : Nat} {error : CommandError}

/-- A line of names of which the first can be followed calls what those lead to on the others. -/
theorem run_root_of_follow (numbered : world.bot.groups.Numbered) {reached : List String × Node}
    (follows : follow [] (.group Groups.topId world.bot.groups.top) names = .ok reached)
    (enough : 3 ≤ calls) (deep : names.length + 1 < calls) (rest : List String) (kinds : List Kind) :
    (onNames host calls .root (names ++ rest) kinds).run.run world =
      (Eval.recorded^[names.length + 1] (run host (calls - (names.length + 1)) reached.2.command
        (rest.map .literal) kinds)).run.run world := by
  obtain ⟨left, rfl⟩ := Nat.exists_eq_add_of_le' enough
  have deeper : left + 3 - (names.length + 1) = left + 2 - names.length := by omega
  rw [run_onNames, Function.iterate_succ_apply', deeper]
  refine Eval.run_recorded_congr ?_
  rw [run_root_names, List.map_append]
  exact run_follow (foundByNumber_top numbered) follows (by omega) _ kinds

theorem resultIn_root_of_follow (numbered : world.bot.groups.Numbered)
    {reached : List String × Node}
    (follows : follow [] (.group Groups.topId world.bot.groups.top) names = .ok reached)
    (enough : 3 ≤ calls) (deep : names.length + 1 < calls) (rest : List String) (kinds : List Kind) :
    (onNames host calls .root (names ++ rest) kinds).resultIn world =
      (run host (calls - (names.length + 1)) reached.2.command (rest.map .literal) kinds).resultIn
        world := by
  rw [Eval.resultIn, run_root_of_follow numbered follows enough deep]
  exact Eval.resultIn_iterate_recorded _ _ world

/-- A line of names fails where they are lost, whatever is wanted of it. -/
theorem resultIn_root_of_losesAt (numbered : world.bot.groups.Numbered)
    (loses : LosesAt (.group Groups.topId world.bot.groups.top) names position error)
    (deep : names.length + 1 < calls) (kinds : List Kind) :
    (onNames host calls .root names kinds).resultIn world = some (.error error) := by
  obtain ⟨before, part, after, walked, id, below, rfl, -, follows, lost⟩ := loses
  rw [List.length_append, List.length_cons] at deep
  obtain ⟨left, rfl⟩ : ∃ left, calls = left + 2 + (before.length + 1) :=
    ⟨calls - before.length - 3, by omega⟩
  rw [resultIn_root_of_follow numbered follows (by omega) (by omega), Nat.add_sub_cancel]
  exact resultIn_group_of_resolve ((foundByNumber_top numbered).follow follows) lost _ kinds

/-- A line of names that lead to a group answers with the group, if a command is wanted. -/
theorem resultIn_root_of_group (numbered : world.bot.groups.Numbered)
    (follows : follow [] (.group Groups.topId world.bot.groups.top) names =
      .ok (walked, .group id children))
    (enough : 3 ≤ calls) (deep : names.length + 1 < calls) :
    (onNames host calls .root names [.command]).resultIn world =
      some (.ok (.command (.group id))) := by
  obtain ⟨left, rfl⟩ : ∃ left, calls = left + 1 + (names.length + 1) :=
    ⟨calls - names.length - 2, by omega⟩
  have alone : (onNames host (left + 1 + (names.length + 1)) .root (names ++ [])
      [.command]).resultIn world = some (.ok (.command (.group id))) := by
    rw [resultIn_root_of_follow numbered follows enough deep, Nat.add_sub_cancel]
    rfl
  rwa [List.append_nil] at alone

/-- Where all commands at the leaves are entries of a tree that is gone, a line that wants a command
fails only because of its names. -/
theorem exists_losesAt_of_root (numbered : world.bot.groups.Numbered)
    (orphans : ∀ names walked command,
      follow [] (.group Groups.topId world.bot.groups.top) names = .ok (walked, .leaf command) →
        command = .orphan)
    (naming : error.IsNaming) (enough : 3 ≤ calls) (deep : names.length + 1 < calls)
    (fails : (onNames host calls .root names [.command]).resultIn world = some (.error error)) :
    ∃ position, LosesAt (.group Groups.topId world.bot.groups.top) names position error := by
  have strands {first rest walked : List String} {command : Command} (whole : names = first ++ rest)
      (follows : follow [] (.group Groups.topId world.bot.groups.top) first =
        .ok (walked, .leaf command)) : False := by
    subst whole
    rw [List.length_append] at deep
    obtain ⟨left, rfl⟩ : ∃ left, calls = left + 1 + (first.length + 1) :=
      ⟨calls - first.length - 2, by omega⟩
    rw [resultIn_root_of_follow numbered follows enough (by omega), Nat.add_sub_cancel,
      orphans _ _ _ follows] at fails
    cases fails
    cases naming
  cases follows : follow [] (.group Groups.topId world.bot.groups.top) names with
  | error cause =>
    obtain ⟨before, part, after, walked, _, rfl, follows,
      ⟨command, _, rfl, -⟩ | ⟨id, below, rfl, lost⟩⟩ := exists_of_follow_eq_error follows
    · exact (strands rfl follows).elim
    · have loses : LosesAt (.group Groups.topId world.bot.groups.top) (before ++ part :: after)
          before.length cause := ⟨before, part, after, walked, id, below, rfl, rfl, follows, lost⟩
      rw [resultIn_root_of_losesAt numbered loses deep] at fails
      cases fails
      exact ⟨_, loses⟩
  | ok reached =>
    obtain ⟨walked, command | ⟨id, below⟩⟩ := reached
    · exact (strands (List.append_nil names).symm follows).elim
    · rw [resultIn_root_of_group numbered follows enough deep] at fails
      cases fails

end Dispatching

section Help

theorem run_invoke_help {call : Caller σ} {line : LineCaller σ} (title : String)
    (names : List String) {after : World σ} (same : after.bot = world.bot) :
    (invoke host call line (Builtin.help title).function [.tail names]).run.run after =
      some ((text title world.bot.groups names).map .string, after) := by
  have bound : ((Native.ofExcept (Bindings.tail [.tail names] 0) : Native σ _).runWith call
      line).run.run after = some (.ok (.ok names), after) := rfl
  have bot : ((Native.bot : Native σ Bot).runWith call line).run.run after =
      some (.ok (.ok after.bot), after) := rfl
  rw [← same]
  apply run_invoke_of_result
  change ((code title [.tail names]).runWith call line).run.run after = _
  rw [code, Native.runWith_bind, Eval.run_bind, bound]
  dsimp only
  rw [Native.runWith_bind, Eval.run_bind, bot]
  dsimp only
  cases text title after.bot.groups names <;> rfl

/-- What `help` answers is a matter of the names and of the tree. -/
theorem resultIn_help {help : Command} {title : String}
    (isHelp : help.function? = some (Builtin.help title).function) (depth : Nat)
    (names : List String) :
    (onNames host (depth + 4) help names [.string]).resultIn world =
      some ((text title world.bot.groups names).map .text) := by
  obtain ⟨after, evaluates, same⟩ := exists_run_texts_shared host depth world names
  have binds : (Function.bindFormals (run host (depth + 2)) [.string] (sharedNames world names)
      (Builtin.help title).function.formals (sharedNames world names)).run.run
        (world.grow names.length) = some (.ok ([.tail names], []), after) := by
    change (Function.bindFormals _ _ _ [.tail] _).run.run _ = _
    simp only [Function.bindFormals, Function.bindFormal, Eval.run_bind, evaluates, Eval.run_pure]
  exact resultIn_onNames depth isHelp binds (Nat.zero_le _) (run_invoke_help title names same)

theorem resultIn_help_eq_error {help : Command} {title : String}
    (isHelp : help.function? = some (Builtin.help title).function) {depth : Nat}
    {error : CommandError} :
    (onNames host (depth + 4) help names [.string]).resultIn world = some (.error error) ↔
      text title world.bot.groups names = .error error := by
  rw [resultIn_help isHelp]
  cases text title world.bot.groups names <;> simp [Except.map]

section Text

variable {title : String} {groups : Groups} {position : Nat} {error : CommandError}

theorem text_eq (title : String) (groups : Groups) (present : names ≠ []) :
    text title groups names = follow [] (.group Groups.topId groups.top) names >>= fun reached =>
      describe groups reached.1 reached.2 := by
  cases names with
  | nil => exact absurd rfl present
  | cons first rest =>
    simp only [text, follow]
    cases groups.top.resolve first <;> rfl

/-- There is help for every group. -/
theorem exists_text_of_group
    (follows : follow [] (.group Groups.topId groups.top) names = .ok (walked, .group id children)) :
    ∃ content, text title groups names = .ok content := by
  cases names with
  | nil => exact ⟨_, rfl⟩
  | cons first rest =>
    rw [text_eq title groups (List.cons_ne_nil first rest), follows]
    exact ⟨_, rfl⟩

theorem text_of_losesAt (loses : LosesAt (.group Groups.topId groups.top) names position error) :
    text title groups names = .error error := by
  obtain ⟨before, part, after, walked, id, below, rfl, -, follows, lost⟩ := loses
  rw [text_eq title groups (by simp), follow_append, follows]
  change (follow walked (.group id below) (part :: after)).bind _ = _
  simp only [follow, lost]
  rfl

/-- Only a part that cannot be resolved is a reason of `help` that has to do with names. -/
theorem exists_losesAt_of_text (fails : text title groups names = .error error)
    (naming : error.IsNaming) :
    ∃ position, LosesAt (.group Groups.topId groups.top) names position error := by
  cases names with
  | nil => cases fails
  | cons first rest =>
    rw [text_eq title groups (List.cons_ne_nil first rest)] at fails
    cases follows : follow [] (.group Groups.topId groups.top) (first :: rest) with
    | error cause =>
      rw [follows] at fails
      cases fails
      obtain ⟨before, part, after, walked, _, whole, follows,
        ⟨_, _, _, rfl⟩ | ⟨id, below, rfl, lost⟩⟩ := exists_of_follow_eq_error follows
      · cases naming
      · exact ⟨_, before, part, after, walked, id, below, whole, rfl, follows, lost⟩
    | ok reached =>
      rw [follows] at fails
      obtain ⟨walked, command | ⟨id, below⟩⟩ := reached
      · change describe groups walked (.leaf command) = _ at fails
        unfold describe at fails
        dsimp only at fails
        split at fails
        · cases fails
        · cases fails
          cases naming
      · cases fails

end Text

/-- Where `help` is stuck. -/
theorem failsAt_help_iff {help : Command} {title : String}
    (isHelp : help.function? = some (Builtin.help title).function) (depth position : Nat)
    (error : CommandError) :
    FailsAt host (depth + 4) world help [.string] [.string] names position error ↔
      LosesAt (.group Groups.topId world.bot.groups.top) names position error ∧ error.IsNaming := by
  constructor
  · rintro ⟨_, naming, ⟨reply, before⟩, there, -⟩
    obtain ⟨other, loses⟩ := exists_losesAt_of_text ((resultIn_help_eq_error isHelp).1 there) naming
    refine ⟨losesAt_of_take loses fun earlier lost => ?_, naming⟩
    rw [(resultIn_help_eq_error isHelp).2 (text_of_losesAt lost)] at before
    cases before
  · rintro ⟨loses, naming⟩
    obtain ⟨inside, there, walked, id, below, follows⟩ := losesAt_take loses
    obtain ⟨content, said⟩ :
        ∃ content, text title world.bot.groups (names.take position) = .ok content :=
      exists_text_of_group follows
    refine ⟨inside, naming, ⟨.text content, ?_⟩, ?_, ?_⟩
    · rw [resultIn_help isHelp, said]
      rfl
    · exact (resultIn_help_eq_error isHelp).2 (text_of_losesAt there)
    · exact (resultIn_help_eq_error isHelp).2 (text_of_losesAt loses)

end Help

/-- Where a line of names is stuck, if that does not depend on the commands at the leaves. -/
theorem failsAt_root_iff (numbered : world.bot.groups.Numbered) (depth position : Nat)
    (error : CommandError) (kinds : List Kind) :
    (∀ leaves, FailsAt host (depth + names.length + 3) (world.withLeaves leaves) .root [.command]
        kinds names position error) ↔
      LosesAt (.group Groups.topId world.bot.groups.top) names position error ∧ error.IsNaming := by
  have deep (count : Nat) : (names.take count).length + 1 < depth + names.length + 3 := by
    have shorter := List.length_take_le' count names
    omega
  constructor
  · intro fails
    obtain ⟨_, naming, ⟨reply, before⟩, there, -⟩ := fails fun _ => .orphan
    let bare := world.withLeaves fun _ => .orphan
    have numbers : bare.bot.groups.Numbered := numbered.withLeaves fun _ => .orphan
    have orphans : ∀ names walked command,
        follow [] (.group Groups.topId bare.bot.groups.top) names = .ok (walked, .leaf command) →
          command = .orphan := by
      intro names walked command follows
      change follow [] ((Node.group Groups.topId world.bot.groups.top).withLeaves fun _ => .orphan)
        names = _ at follows
      rw [follow_withLeaves] at follows
      cases found : follow [] (.group Groups.topId world.bot.groups.top) names with
      | error cause =>
        rw [found] at follows
        cases follows
      | ok reached =>
        rw [found] at follows
        obtain ⟨_, _ | _⟩ := reached <;> cases follows
        rfl
    obtain ⟨other, loses⟩ :=
      exists_losesAt_of_root numbers orphans naming (by omega) (deep _) there
    have gone := losesAt_of_take loses fun earlier lost => by
      rw [resultIn_root_of_losesAt numbers lost (deep _)] at before
      cases before
    exact ⟨losesAt_withLeaves.1 gone, naming⟩
  · rintro ⟨loses, naming⟩ leaves
    have numbers : (world.withLeaves leaves).bot.groups.Numbered := numbered.withLeaves leaves
    have gone : LosesAt (.group Groups.topId (world.withLeaves leaves).bot.groups.top) names position
        error := losesAt_withLeaves.2 loses
    obtain ⟨inside, there, walked, id, below, follows⟩ := losesAt_take gone
    exact ⟨inside, naming, ⟨_, resultIn_root_of_group numbers follows (by omega) (deep _)⟩,
      resultIn_root_of_losesAt numbers there (deep _) _,
      resultIn_root_of_losesAt numbers gone (by omega) _⟩

/-- The command `help` and a line of names agree on what abbreviated names mean, for every tree and any
names, but one at least. A part is ambiguous or unknown to the one exactly when it is so to the other,
with the same candidates; and no command has run before, because the line fails alike whatever commands
are at the leaves. Where the last part leads `help` to a command, the line calls this command without
arguments, and does nothing else but to record its failure once for every call on the way. -/
theorem help_agrees_with_dispatch {help : Command} {title : String}
    (isHelp : help.function? = some (Builtin.help title).function)
    (numbered : world.bot.groups.Numbered) (first : String) (rest : List String)
    (kinds : List Kind) (depth : Nat) :
    let names := first :: rest
    let calls := depth + names.length + 3
    (∀ position error, FailsAt host calls world help [.string] [.string] names position error ↔
      FailsAt host calls world .root [.command] kinds names position error ∧
        ∀ leaves, FailsAt host calls (world.withLeaves leaves) .root [.command] kinds names position
          error) ∧
    ∀ name node walked command, world.bot.groups.top.resolve first = .ok (name, node) →
      follow [name] node rest = .ok (walked, .leaf command) →
      (onNames host calls .root names kinds).run.run world =
        (Eval.recorded^[names.length + 1] (run host (depth + 2) command [] kinds)).run.run world := by
  intro names calls
  have more : calls = depth + rest.length + 4 := by
    simp only [calls, names, List.length_cons]
    omega
  refine ⟨fun position error => ?_, fun name node walked command resolved follows => ?_⟩
  · have always : FailsAt host calls world help [.string] [.string] names position error ↔
        ∀ leaves, FailsAt host calls (world.withLeaves leaves) .root [.command] kinds names position
          error := by
      rw [failsAt_root_iff numbered, more]
      exact failsAt_help_iff isHelp _ position error
    refine always.trans ⟨fun fails => ⟨?_, fails⟩, fun both => both.2⟩
    rw [← world.withLeaves_id]
    exact fails id
  · have reached : follow [] (.group Groups.topId world.bot.groups.top) names =
        .ok (walked, .leaf command) := by
      simp only [names, follow, resolved]
      exact follows
    have deeper : calls - (names.length + 1) = depth + 2 := by omega
    have runs : (onNames host calls .root (names ++ []) kinds).run.run world = _ :=
      run_root_of_follow numbered reached (by omega) (by omega) [] kinds
    rwa [List.append_nil, deeper] at runs

end Evaluate

open Evaluate Builtin.Help

/-- Two commands that one letter does not tell apart. -/
def doors : Children :=
  [("open", .leaf (.literal "opened")), ("oval", .leaf (.literal "round"))]

def doorWorld : World Unit :=
  World.start { Bot.empty .standard with groups := ⟨[("door", .group 1 doors)], 2, []⟩ }
    (.fresh .unlimited none) () 0

/-- One letter is ambiguous in the group that is named before it, and two letters are enough. -/
theorem help_agrees_with_dispatch_doors :
    let help := Command.documented (Builtin.help "bot").documented
    help.function? = some (Builtin.help "bot").function ∧ doorWorld.bot.groups.Numbered ∧
      FailsAt Host.none 6 doorWorld .root [.command] [.string] ["d", "o", "x"] 1
        (.ambiguousName ["open", "oval"]) ∧
      (onNames Host.none 5 .root ["d", "op"] [.string]).run.run doorWorld =
        (Eval.recorded^[3] (run Host.none 2 (.literal "opened") [] [.string])).run.run doorWorld := by
  intro help
  have isHelp : help.function? = some (Builtin.help "bot").function := rfl
  have numbered : doorWorld.bot.groups.Numbered :=
    ⟨by decide, by decide, by decide, by decide⟩
  have door : doorWorld.bot.groups.top.resolve "d" = .ok ("door", .group 1 doors) := by
    have best : bestMatches doorWorld.bot.groups.top.names "d" = ["door"] := by decide +kernel
    rw [Children.resolve, best]
    rfl
  have either : doors.resolve "o" = .error (.ambiguousName ["open", "oval"]) := by
    have best : bestMatches doors.names "o" = ["open", "oval"] := by decide +kernel
    rw [Children.resolve, best]
  have one : doors.resolve "op" = .ok ("open", .leaf (.literal "opened")) := by
    have best : bestMatches doors.names "op" = ["open"] := by decide +kernel
    rw [Children.resolve, best]
    rfl
  have stuck : FailsAt Host.none 6 doorWorld help [.string] [.string] ["d", "o", "x"] 1
      (.ambiguousName ["open", "oval"]) := by
    refine (failsAt_help_iff isHelp 2 1 _).2 ⟨⟨["d"], "o", ["x"], ["door"], 1, doors, rfl, rfl, ?_,
      either⟩, .ambiguous _⟩
    simp only [follow, door]
    rfl
  obtain ⟨agrees, -⟩ := help_agrees_with_dispatch isHelp numbered "d" ["o", "x"] [.string] 0
  refine ⟨isHelp, numbered, ((agrees _ _).1 stuck).1, ?_⟩
  refine (help_agrees_with_dispatch isHelp numbered "d" ["op"] [.string] 0).2 "door" _
    ["door", "open"] (.literal "opened") door ?_
  simp only [follow, one]
  rfl

end ChatLine
