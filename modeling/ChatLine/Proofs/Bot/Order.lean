import ChatLine.Bot.Calls
import ChatLine.Proofs.Bot.Operations
import ChatLine.Proofs.Bot.Putting
import ChatLine.Proofs.Bot.Paths
import ChatLine.Proofs.Overloads.Signatures
import ChatLine.Proofs.Tree.Layout
import Mathlib.Data.List.Pairwise

set_option autoImplicit false

namespace ChatLine

namespace Overloads

/-- No two of the functions have signatures that compare as equal. -/
def Apart (functions : List Function) : Prop :=
  functions.Pairwise fun f g => compareSignatures f.types g.types ≠ .eq

theorem symm_unequal :
    Std.Symm fun f g : Function => compareSignatures f.types g.types ≠ .eq := by
  refine ⟨fun f g unequal same => unequal ?_⟩
  rw [← compareSignatures_swap, same]
  rfl

theorem Apart.ne {functions : List Function} (apart : Apart functions) {f g : Function}
    (inside : f ∈ functions) (otherInside : g ∈ functions) (different : f ≠ g) :
    compareSignatures f.types g.types ≠ .eq :=
  have := symm_unequal
  List.Pairwise.forall apart inside otherInside different

theorem Apart.perm {functions others : List Function} (apart : Apart functions)
    (perm : functions.Perm others) : Apart others :=
  perm.pairwise apart fun unequal => symm_unequal.symm _ _ unequal

/-- Functions that are apart are tried in one order, in whatever order they came. -/
theorem functions_eq_of_perm {functions others : List Function} (perm : functions.Perm others)
    (apart : Apart functions) : (ofList functions).functions = (ofList others).functions := by
  refine List.Perm.eq_of_pairwise ?_ (pairwise_functions functions) (pairwise_functions others) ?_
  · intro f g inside there earlier later
    have inFunctions : f ∈ functions := List.mem_mergeSort.1 inside
    have otherInFunctions : g ∈ functions := perm.mem_iff.2 (List.mem_mergeSort.1 there)
    by_contra different
    have equal := beq_iff_eq.1 (ties_of_tryBefore earlier later)
    exact apart.ne inFunctions otherInFunctions different equal
  · exact (List.mergeSort_perm _ _).trans (perm.trans (List.mergeSort_perm _ _).symm)

end Overloads

/-- Commands with the same candidates: one registered command, or overloads of the same functions,
tried in one order if no two signatures compare as equal. -/
inductive Command.SameCandidates : Command → Command → Prop
  | documented (command : Documented) :
    SameCandidates (.documented command) (.documented command)
  | overloads {set other : Overloads} (perm : set.functions.Perm other.functions)
    (order : Overloads.Apart set.functions → set.functions = other.functions) :
    SameCandidates (.overloads set) (.overloads other)

namespace Bot

open Effects

/-- The commands of one path have the same candidates in whatever order they were registered. -/
theorem sameCandidates_of_perm {commands others : List Documented} (perm : commands.Perm others)
    {placed other : Command} (built : commandFor commands = .ok placed)
    (otherBuilt : commandFor others = .ok other) : placed.SameCandidates other := by
  match commands with
  | [] => cases built
  | [single] =>
    obtain rfl := List.singleton_perm.1 perm
    cases built
    cases otherBuilt
    exact .documented single
  | first :: second :: rest =>
    have longer := perm.length_eq
    match others with
    | [] => cases longer
    | [single] => simp at longer
    | otherFirst :: otherSecond :: otherRest =>
      cases built
      cases otherBuilt
      have functions := perm.map Documented.function
      refine .overloads ?_ ?_
      · exact (List.mergeSort_perm _ _).trans (functions.trans (List.mergeSort_perm _ _).symm)
      · intro apart
        exact Overloads.functions_eq_of_perm functions (apart.perm (List.mergeSort_perm _ _))

def ofPath (commands : List Documented) (path : String) : List Documented :=
  commands.filter fun command => command.path == path

/-- The bot holds the commands of a list and no others: in its registry by their paths, and in a tree
whose groups are on the way to them. -/
structure Laid (bot : Bot) (commands : List Documented) : Prop where
  step : bot.InStep []
  aliases : bot.aliases = []
  registry : ∀ path, bot.registeredAt path = ofPath commands path
  groups : ∀ names, bot.groups.top.Leads names ↔
    names = [] ∨ ∃ command ∈ commands, names <+: (Text.spaced command.path).dropLast

namespace Laid

variable {bot : Bot} {commands : List Documented}

theorem empty (config : Config) : Laid (.empty config) [] where
  step := .empty config
  aliases := rfl
  registry := fun _ => rfl
  groups := by
    intro names
    cases names with
    | nil => exact ⟨fun _ => .inl rfl, fun _ => trivial⟩
    | cons name rest =>
      refine ⟨fun leads => ?_, ?_⟩
      · exact absurd leads (Children.not_leads_plain (Children.plain_of_absent rfl) rest)
      · rintro (empty | ⟨command, inside, -⟩)
        · cases empty
        · cases inside

/-- Where something sits, it is the command for what was registered there. -/
theorem sits_iff (laid : bot.Laid commands) (names : List String) (placed : Command) :
    bot.groups.top.sits? names = some placed ↔
      ∃ path, Text.spaced path = names ∧ commandFor (ofPath commands path) = .ok placed := by
  have meant : ∀ path registered, bot.registry.get? path = some registered →
      registered = ofPath commands path := by
    intro path registered found
    rw [← laid.registry path, registeredAt, found]
    rfl
  rw [laid.step.holds.sits_iff]
  simp only [entries, laid.aliases, List.map_nil, List.append_nil, List.mem_map, Prod.mk.injEq]
  constructor
  · rintro ⟨⟨path, registered⟩, inside, rfl, built⟩
    have found := (NameMap.get?_eq_some_iff laid.step.registry path registered).2 inside
    exact ⟨path, rfl, meant path registered found ▸ built⟩
  · rintro ⟨path, rfl, built⟩
    cases found : bot.registry.get? path with
    | none =>
      rw [← laid.registry path, registeredAt, found] at built
      cases built
    | some registered =>
      exact ⟨(path, registered), NameMap.mem_of_get? found, rfl,
        meant path registered found ▸ built⟩

theorem mem_of_registered (laid : bot.Laid commands) {command : Documented}
    (inside : command ∈ bot.registered) : command ∈ commands := by
  obtain ⟨registered, listed, inside⟩ := List.mem_flatten.1 inside
  obtain ⟨⟨path, _⟩, entry, rfl⟩ := List.mem_map.1 listed
  have found := (NameMap.get?_eq_some_iff laid.step.registry path _).2 entry
  have at_path := laid.registry path
  rw [registeredAt, found, Option.getD_some] at at_path
  rw [at_path] at inside
  exact (List.mem_filter.1 inside).1

/-- Registering one more command succeeds, when its path is valid and its full name new. -/
theorem register (laid : bot.Laid commands) {command : Documented}
    (valid : validatePath command.path = .ok ())
    (fresh : command.fullName ∉ commands.map Documented.fullName) :
    ∃ after, (Bot.register command).run.run bot = (.ok (), after) ∧
      after.Laid (commands ++ [command]) := by
  have sound := laid.step.holds.sound
  have named := named_of_validatePath valid
  have unknown : ¬ (bot.registered.any fun other => other.fullName == command.fullName) = true := by
    intro known
    obtain ⟨other, inside, same⟩ := List.any_eq_true.1 known
    exact fresh (List.mem_map.2 ⟨other, laid.mem_of_registered inside, eq_of_beq same⟩)
  obtain ⟨placed, built⟩ : ∃ placed,
      commandFor (bot.registeredAt command.path ++ [command]) = .ok placed :=
    exists_commandFor (by simp)
  -- a path that is new in the registry is free in the tree
  have free : ((bot.registeredAt command.path).isEmpty &&
      (bot.groups.top.sits? (Text.spaced command.path)).isSome) = false := by
    rw [Bool.and_eq_false_iff]
    cases sits : bot.groups.top.sits? (Text.spaced command.path) with
    | none => exact .inr rfl
    | some other =>
      obtain ⟨path, same, registered⟩ := (laid.sits_iff _ other).1 sits
      rw [Text.spaced_injective same, ← laid.registry] at registered
      refine .inl ?_
      cases earlier : bot.registeredAt command.path with
      | nil =>
        rw [earlier] at registered
        cases registered
      | cons first rest => rfl
  have runs : (Bot.register command).run.run bot = (.ok (), { bot with
      groups := bot.groups.put placed (Text.spaced command.path)
      registry := bot.registry.set command.path (bot.registeredAt command.path ++ [command]) }) := by
    rw [run_register, valid]
    dsimp only
    rw [if_neg unknown, built]
    dsimp only
    rw [run_place sound named, free]
    rfl
  refine ⟨_, runs, ?_⟩
  have step := laid.step.register command
  rw [runs] at step
  exact {
    step := step
    aliases := laid.aliases
    registry := by
      intro path
      have before := laid.registry path
      unfold registeredAt ofPath at before ⊢
      dsimp only
      rw [NameMap.get?_set, List.filter_append]
      by_cases same : path = command.path
      · subst same
        rw [if_pos rfl, Option.getD_some, before]
        simp
      · rw [if_neg same, before]
        simp [Ne.symm same]
    groups := by
      intro names
      show Children.Leads (bot.groups.top.put placed _ _) names ↔ _
      rw [Children.leads_put sound named, laid.groups, or_assoc]
      simp only [List.mem_append, List.mem_singleton, or_and_right, exists_or, exists_eq_left] }

/-- Registering a list of commands succeeds, when the paths are valid and the full names distinct. -/
theorem startWith (doing : Documented → String) {more : List Documented} (laid : bot.Laid commands)
    (valid : ∀ command ∈ more, validatePath command.path = .ok ())
    (distinct : ((commands ++ more).map Documented.fullName).Nodup) :
    ∃ after, Bot.startWith doing Bot.register more bot = .ok after ∧
      after.Laid (commands ++ more) := by
  induction more generalizing bot commands with
  | nil => exact ⟨bot, rfl, by rwa [List.append_nil]⟩
  | cons command rest ih =>
    have fresh : command.fullName ∉ commands.map Documented.fullName := by
      rw [List.map_append, List.nodup_append] at distinct
      exact fun inside => distinct.2.2 _ inside _ List.mem_cons_self rfl
    obtain ⟨middle, runs, middleLaid⟩ :=
      laid.register (valid command List.mem_cons_self) fresh
    rw [List.append_cons] at distinct ⊢
    unfold Bot.startWith
    rw [runs]
    exact ih middleLaid (fun other inside => valid other (List.mem_cons_of_mem _ inside)) distinct

/-- Bots with the same commands, in whatever order, have trees of one layout. -/
theorem like {other : Bot} {others : List Documented} (laid : bot.Laid commands)
    (otherLaid : other.Laid others) (perm : commands.Perm others) (path : List String) :
    Option.Rel (Node.Like Command.SameCandidates) (bot.groups.top.at? path)
      (other.groups.top.at? path) := by
  have filtered : ∀ path, (ofPath commands path).Perm (ofPath others path) :=
    fun path => perm.filter _
  apply Children.like_of_layout laid.step.holds.sound otherLaid.step.holds.sound
  · intro names
    rw [laid.groups, otherLaid.groups]
    simp only [perm.mem_iff]
  · intro names
    cases sits : bot.groups.top.sits? names with
    | some placed =>
      obtain ⟨path, same, built⟩ := (laid.sits_iff names placed).1 sits
      have present : ofPath others path ≠ [] := by
        intro empty
        have vanished := filtered path
        rw [empty] at vanished
        rw [vanished.eq_nil] at built
        cases built
      obtain ⟨otherPlaced, otherBuilt⟩ := exists_commandFor present
      rw [(otherLaid.sits_iff names otherPlaced).2 ⟨path, same, otherBuilt⟩]
      exact .some (sameCandidates_of_perm (filtered path) built otherBuilt)
    | none =>
      cases otherSits : other.groups.top.sits? names with
      | none => exact .none
      | some otherPlaced =>
        obtain ⟨path, same, otherBuilt⟩ := (otherLaid.sits_iff names otherPlaced).1 otherSits
        have present : ofPath commands path ≠ [] := by
          intro empty
          have vanished := (filtered path).symm
          rw [empty] at vanished
          rw [vanished.eq_nil] at otherBuilt
          cases otherBuilt
        obtain ⟨placed, built⟩ := exists_commandFor present
        rw [(laid.sits_iff names placed).2 ⟨path, same, built⟩] at sits
        cases sits

/-- Where a registered path leads, there is the command for all that was registered at it. -/
theorem at?_slotPath (laid : bot.Laid commands) {command : Documented} (inside : command ∈ commands) :
    ∃ placed, commandFor (ofPath commands command.path) = .ok placed ∧
      bot.groups.top.at? (bot.slotPath command.path) = some (.leaf placed) := by
  have present : ofPath commands command.path ≠ [] := by
    intro empty
    have listed : command ∈ ofPath commands command.path :=
      List.mem_filter.2 ⟨inside, beq_self_eq_true _⟩
    rw [empty] at listed
    cases listed
  obtain ⟨placed, built⟩ := exists_commandFor present
  have sound := laid.step.holds.sound
  have sits := (laid.sits_iff _ placed).2 ⟨command.path, rfl, built⟩
  refine ⟨placed, built, (Children.at?_eq_leaf_iff sound.tidy).2 ?_⟩
  rw [slotPath_eq]
  exact (Children.mem_leavesBelow_iff sound _ placed).2 ⟨_, sits, rfl⟩

end Laid

/-- The order of registration does not matter. Commands with valid paths and distinct full names are
registered in a bot without commands in any two orders, without an error, and the trees are the same:
they have groups at the same paths, just on the way to the registered ones, and commands at the same
paths with the same candidates, which are tried in one order where no two signatures compare as
equal. At each registered path, or under its empty name, stands the command for all that was
registered there. -/
theorem registrations_commute (doing otherDoing : Documented → String) (config : Config)
    {commands others : List Documented} (perm : commands.Perm others)
    (valid : ∀ command ∈ commands, validatePath command.path = .ok ())
    (distinct : (commands.map Documented.fullName).Nodup) :
    ∃ bot other, Bot.startWith doing Bot.register commands (.empty config) = .ok bot ∧
      Bot.startWith otherDoing Bot.register others (.empty config) = .ok other ∧
      (∀ path, Option.Rel (Node.Like Command.SameCandidates) (bot.groups.top.at? path)
        (other.groups.top.at? path)) ∧
      (∀ path, path ≠ [] → ((∃ id below, bot.groups.top.at? path = some (.group id below)) ↔
        ∃ command ∈ commands, path <+: (Text.spaced command.path).dropLast)) ∧
      ∀ command ∈ commands, ∃ placed,
        commandFor (commands.filter fun another => another.path == command.path) = .ok placed ∧
          bot.groups.top.at? (bot.slotPath command.path) = some (.leaf placed) := by
  obtain ⟨bot, starts, laid⟩ := (Laid.empty config).startWith doing valid distinct
  have otherValid : ∀ command ∈ others, validatePath command.path = .ok () :=
    fun command inside => valid command (perm.mem_iff.2 inside)
  have otherDistinct : (others.map Documented.fullName).Nodup :=
    (perm.map Documented.fullName).nodup_iff.1 distinct
  obtain ⟨other, otherStarts, otherLaid⟩ :=
    (Laid.empty config).startWith otherDoing otherValid otherDistinct
  refine ⟨bot, other, starts, otherStarts, laid.like otherLaid perm, ?_, ?_⟩
  · intro path present
    rw [Children.at?_eq_group_iff _ present, laid.groups]
    exact or_iff_right present
  · exact fun command inside => laid.at?_slotPath inside

/-- Three commands, of which two have one path and one has a path below it. -/
def listCommands : List Documented :=
  [⟨.ofPath "list", Builtin.aliasList.function⟩, ⟨.ofPath "list add", Builtin.aliasAdd.function⟩,
    ⟨.ofPath "list", Builtin.print.function⟩]

/-- A command that becomes a group before the last command comes, or after it. -/
theorem registrations_commute_list :
    ∃ bot other,
      Bot.startWith Documented.path Bot.register listCommands (.empty .bare) = .ok bot ∧
        Bot.startWith Documented.path Bot.register listCommands.reverse (.empty .bare) = .ok other ∧
        (∀ path, Option.Rel (Node.Like Command.SameCandidates) (bot.groups.top.at? path)
          (other.groups.top.at? path)) ∧
        ∃ id below, bot.groups.top.at? ["list"] = some (.group id below) := by
  obtain ⟨bot, other, starts, otherStarts, same, groups, -⟩ :=
    registrations_commute Documented.path Documented.path .bare (List.reverse_perm listCommands).symm
      (by decide) (by decide)
  exact ⟨bot, other, starts, otherStarts, same, (groups ["list"] (by decide)).2 (by decide)⟩

end Bot

end ChatLine
