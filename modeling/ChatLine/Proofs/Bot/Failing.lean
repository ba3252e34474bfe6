import ChatLine.Builtin.Signature
import ChatLine.Proofs.Bot.Deeds
import ChatLine.Proofs.Tree.PathMap

set_option autoImplicit false

namespace ChatLine

namespace Change

open Effects Children

/-- In a tidy group the change either leaves it tidy and not empty, or fails because of what stands
at a name, and nothing happens. -/
def StopsAt (change : Change Unit) (name : String) : Prop :=
  ∀ growth : Growth, Tidy growth.children →
    match change.run.run growth with
    | (.ok _, after) => Tidy after.children ∧ after.children ≠ []
    | (.error _, after) => after = growth ∧ growth.children.get? name ≠ none

theorem stopsAt_settleAt (path : String) (command : Command) (fresh : Bool) (slot : String) :
    (settleAt path command fresh slot).StopsAt slot := by
  intro growth tidy
  rw [run_settleAt]
  by_cases taken : (fresh && growth.children.has slot) = true
  · rw [if_pos taken]
    exact ⟨rfl, NameMap.has_iff.1 (Bool.and_eq_true_iff.1 taken).2⟩
  · rw [if_neg taken]
    exact ⟨tidy.set slot (tidy_leaf command), NameMap.set_ne_nil _ _ _⟩

theorem StopsAt.inside {change : Change Unit} {slot name : String} (stops : change.StopsAt slot)
    (absorb : Bool) {growth : Growth} (tidy : Tidy growth.children) {id : Nat} {below : Children}
    (found : growth.children.get? name = some (.group id below)) :
    match (within name absorb change).run.run growth with
    | (.ok _, after) => Tidy after.children ∧ after.children ≠ []
    | (.error _, after) => after = growth ∧ growth.children.get? name ≠ none := by
  have inner_stops := stops { growth with children := below } (tidy.inner found).2
  rw [run_within_group change found]
  generalize change.run.run { growth with children := below } = ran at inner_stops ⊢
  obtain ⟨error | done, inner⟩ := ran
  · obtain ⟨rfl, -⟩ := inner_stops
    refine ⟨?_, by simp [found]⟩
    dsimp only
    rw [tidy.sorted.set_eq_self found]
  · obtain ⟨inner_tidy, present⟩ := inner_stops
    exact ⟨tidy.set name (tidy_group_iff.2 ⟨present, inner_tidy⟩), NameMap.set_ne_nil _ _ _⟩

/-- In a group that is made for it, also for what it absorbs, a change has nothing in its way. -/
theorem StopsAt.within {change : Change Unit} {slot : String} (stops : change.StopsAt slot)
    (named : slot ≠ "") (name : String) : (Change.within name true change).StopsAt name := by
  intro growth tidy
  rcases group_or_plain growth.children name with ⟨id, below, found⟩ | plain
  · exact stops.inside true tidy found
  · have made_tidy : Tidy (moved (growth.children.get? name)) := by
      cases found : growth.children.get? name with
      | none => exact tidy_nil
      | some node => exact tidy_singleton "" (tidy.node found)
    have inner_stops := stops
      { growth with children := moved (growth.children.get? name), next := growth.next + 1 }
      made_tidy
    rw [run_within_plain change plain (.inl rfl)]
    generalize change.run.run _ = ran at inner_stops ⊢
    obtain ⟨error | done, inner⟩ := ran
    · exact absurd (get?_moved _ named) inner_stops.2
    · obtain ⟨inner_tidy, present⟩ := inner_stops
      exact ⟨tidy.set name (tidy_group_iff.2 ⟨present, inner_tidy⟩), NameMap.set_ne_nil _ _ _⟩

theorem stopsAt_settle (path last : String) (command : Command) (fresh : Bool) :
    (settle path last command fresh).StopsAt last := by
  intro growth tidy
  rw [run_settle]
  cases found : growth.children.get? last with
  | none => simpa only [found] using stopsAt_settleAt path command fresh last growth tidy
  | some node =>
    cases node with
    | leaf old => simpa only [found] using stopsAt_settleAt path command fresh last growth tidy
    | group id below =>
      simpa only [found] using (stopsAt_settleAt path command fresh "").inside false tidy found

theorem StopsAt.descend {change : Change Unit} {last : String} (stops : change.StopsAt last)
    (last_named : last ≠ "") (front : List String) (named : ∀ name ∈ front, name ≠ "") :
    (Change.descend true change front).StopsAt (front.headD last) := by
  induction front with
  | nil => exact stops
  | cons name front ih =>
    refine (ih fun other inside => named other (List.mem_cons_of_mem _ inside)).within ?_ name
    cases front with
    | nil => exact last_named
    | cons next more => exact named next (List.mem_cons_of_mem _ List.mem_cons_self)

end Change

namespace Groups

open Children

/-- Placing a command at words leaves a tidy tree, or fails and nothing happens. -/
theorem change_place {groups : Groups} (tidy : Tidy groups.top) {path : String}
    (named : ∀ name ∈ Text.spaced path, name ≠ "") (command : Command) (fresh : Bool) :
    (∃ later, groups.change (.place path command fresh) = (.ok (), later) ∧ Tidy later.top) ∨
      ∃ error, groups.change (.place path command fresh) = (.error error, groups) := by
  obtain ⟨front, last, words⟩ : ∃ front last, Text.spaced path = front ++ [last] := by
    obtain ⟨front, last, words⟩ := (List.eq_nil_or_concat _).resolve_left (Text.spaced_ne_nil path)
    exact ⟨front, last, words.trans List.concat_eq_append⟩
  rw [words] at named
  have stops := (Change.stopsAt_settle path last command fresh).descend (named last (by simp)) front
    (fun name inside => named name (by simp [inside]))
    ⟨groups.top, groups.next, groups.dropped⟩ tidy
  unfold change Change.place
  rw [words]
  simp only [List.getLast?_concat, List.dropLast_concat]
  generalize (Change.descend true _ front).run.run _ = ran at stops ⊢
  obtain ⟨error | done, growth⟩ := ran
  · obtain ⟨rfl, -⟩ := stops
    exact .inr ⟨error, rfl⟩
  · exact .inl ⟨_, rfl, stops.1⟩

end Groups

/-- An update that fails leaves the bot as it was. -/
def Update.AllOrNothing {α : Type} (update : Update α) (bot : Bot) : Prop :=
  ∀ error after, update.run.run bot = (.error error, after) → after = bot

theorem Update.AllOrNothing.run_eq {α : Type} {update : Update α} {bot : Bot}
    (all : update.AllOrNothing bot) {error : CommandError}
    (fails : (update.run.run bot).1 = .error error) : update.run.run bot = (.error error, bot) :=
  Prod.ext fails (all error _ (Prod.ext fails rfl))

namespace Bot

open Children

/-- The command tree is tidy, whatever is at its paths, and the registered paths are words. -/
structure Tended (bot : Bot) : Prop where
  tidy : Tidy bot.groups.top
  registry : ∀ entry ∈ bot.registry, validatePath entry.1 = .ok ()

variable {bot : Bot}

theorem run_place_tidy (tidy : Tidy bot.groups.top) {path : String}
    (valid : validatePath path = .ok ()) (command : Command) (fresh : Bool) :
    (∃ later, (changeTree (.place path command fresh)).run.run bot =
        (.ok (), { bot with groups := later }) ∧ Tidy later.top) ∨
      ∃ error, (changeTree (.place path command fresh)).run.run bot = (.error error, bot) := by
  rw [run_changeTree]
  rcases Groups.change_place tidy (named_of_validatePath valid) command fresh with
    ⟨later, runs, later_tidy⟩ | ⟨error, runs⟩
  · exact .inl ⟨later, by rw [runs], later_tidy⟩
  · exact .inr ⟨error, by rw [runs]⟩

theorem run_addAt_tidy (tidy : Tidy bot.groups.top) (path : List String) (command : Command) :
    (∃ later, (changeTree (.addAt path command)).run.run bot =
        (.ok (), { bot with groups := later }) ∧ Tidy later.top) ∨
      ∃ error, (changeTree (.addAt path command)).run.run bot = (.error error, bot) := by
  rw [run_changeTree]
  rcases Groups.change_addAt tidy path command with
    ⟨later, runs, -, later_tidy, -⟩ | ⟨error, runs, -⟩
  · exact .inl ⟨later, by rw [runs], later_tidy⟩
  · exact .inr ⟨error, by rw [runs]⟩

namespace Tended

theorem empty (config : Config) : Tended (.empty config) where
  tidy := tidy_nil
  registry := fun _ inside => nomatch inside

theorem addAt (tended : bot.Tended) (path : List String) (command : Command) :
    Tended ((changeTree (.addAt path command)).run.run bot).2 := by
  rcases run_addAt_tidy tended.tidy path command with ⟨later, runs, tidy⟩ | ⟨error, runs⟩
  · rw [runs]
    exact ⟨tidy, tended.registry⟩
  · rw [runs]
    exact tended

theorem removeAt (tended : bot.Tended) (path : List String) :
    Tended ((changeTree (.removeAt path)).run.run bot).2 :=
  ⟨tended.tidy.removeAt path, tended.registry⟩

end Tended

theorem invariant_tended : Invariant Tended where
  registry := Tended.registry
  place := by
    intro bot path tended valid command fresh
    rcases run_place_tidy tended.tidy valid command fresh with ⟨later, runs, tidy⟩ | ⟨error, runs⟩
    · rw [runs]
      exact ⟨tidy, tended.registry⟩
    · rw [runs]
      exact tended
  addAt := fun tended _ => tended.addAt _
  removeAt := Tended.removeAt
  setRegistry := by
    intro bot path tended valid commands
    refine ⟨tended.tidy, fun entry inside => ?_⟩
    rcases NameMap.mem_set inside with rfl | old
    · exact valid
    · exact tended.registry entry old
  eraseRegistry := fun tended _ =>
    ⟨tended.tidy, fun entry inside => tended.registry entry (List.mem_of_mem_filter inside)⟩
  aliases := fun tended _ => ⟨tended.tidy, tended.registry⟩

/-- The bots that an application can have when it also changes the tree itself, at paths of any
names. -/
inductive Handled : Bot → Prop
  | empty (config : Config) : Handled (.empty config)
  | deed {bot : Bot} (handled : Handled bot) (deed : Deed) : Handled (deed.on bot)
  | addAt {bot : Bot} (handled : Handled bot) (path : List String) (command : Command) :
    Handled ((changeTree (.addAt path command)).run.run bot).2
  | removeAt {bot : Bot} (handled : Handled bot) (path : List String) :
    Handled ((changeTree (.removeAt path)).run.run bot).2

theorem Handled.tended (handled : Handled bot) : bot.Tended := by
  induction handled with
  | empty config => exact .empty config
  | deed _ deed ih =>
    cases deed with
    | operation change => exact invariant_tended.operation ih change
    | removeCommand path => exact invariant_tended.removeCommand ih path
  | addAt _ path command ih => exact ih.addAt path command
  | removeAt _ path ih => exact ih.removeAt path

section AllOrNothing

variable (tidy : Tidy bot.groups.top)

include tidy

theorem allOrNothing_addAt (path : List String) (command : Command) :
    (changeTree (.addAt path command)).AllOrNothing bot := by
  intro error after runs
  rcases run_addAt_tidy tidy path command with ⟨later, added, -⟩ | ⟨other, refused⟩
  · rw [added] at runs
    cases runs
  · rw [refused] at runs
    cases runs
    rfl

theorem allOrNothing_addCommand (path : String) (command : Command) :
    (addCommand path command).AllOrNothing bot := by
  intro error after runs
  rw [run_addCommand] at runs
  cases valid : validatePath path with
  | error other =>
    rw [valid] at runs
    cases runs
    rfl
  | ok _ =>
    rw [valid] at runs
    exact allOrNothing_addAt tidy (Text.spaced path) command error after runs

theorem allOrNothing_register (command : Documented) : (register command).AllOrNothing bot := by
  intro error after runs
  rcases register_cases command bot with
    ⟨other, refused⟩ | ⟨placed, result, later, valid, -, -, placing, registers⟩
  · rw [refused] at runs
    cases runs
    rfl
  · rw [registers] at runs
    rcases run_place_tidy tidy valid placed (bot.registeredAt command.path).isEmpty with
      ⟨groups, put, -⟩ | ⟨other, blocked⟩
    · cases placing.symm.trans put
      cases runs
    · cases placing.symm.trans blocked
      cases runs
      rfl

theorem allOrNothing_addAlias (name text : String) : (addAlias name text).AllOrNothing bot := by
  intro error after runs
  rcases addAlias_cases name text bot with
    ⟨other, refused⟩ | ⟨command, result, later, -, -, -, adding, stores⟩
  · rw [refused] at runs
    cases runs
    rfl
  · rw [stores] at runs
    rcases run_addAt_tidy tidy (Text.spaced name) command with ⟨groups, added, -⟩ | ⟨other, blocked⟩
    · cases adding.symm.trans added
      cases runs
    · cases adding.symm.trans blocked
      cases runs
      rfl

end AllOrNothing

/-- Taking a stored line away fails only if there is none of the name: whether there is anything at
its path is not asked. -/
theorem allOrNothing_removeAlias (bot : Bot) (name : String) :
    (removeAlias name).AllOrNothing bot := by
  intro error after runs
  rw [run_removeAlias] at runs
  cases found : bot.aliases.get? name with
  | none =>
    rw [found] at runs
    cases runs
    rfl
  | some text =>
    rw [found] at runs
    cases runs

/-- Whatever was done to a bot: to register a command, to add one, also by the tree itself at a path
of any names, to store a line and to take one away leaves the bot as it was when it fails. -/
theorem allOrNothing_of_handled (handled : Handled bot) :
    (∀ command, (register command).AllOrNothing bot) ∧
      (∀ path command, (addCommand path command).AllOrNothing bot) ∧
      (∀ path command, (changeTree (.addAt path command)).AllOrNothing bot) ∧
      (∀ name text, (addAlias name text).AllOrNothing bot) ∧
      (∀ name, (removeAlias name).AllOrNothing bot) := by
  have tidy := handled.tended.tidy
  exact ⟨allOrNothing_register tidy, allOrNothing_addCommand tidy, allOrNothing_addAt tidy,
    allOrNothing_addAlias tidy, allOrNothing_removeAlias bot⟩

/-- A bot with a registered command, a stored line, and a command that the tree took under an empty
name. -/
def crowded : Bot :=
  let list : Documented := ⟨.ofPath "list", Builtin.print.function⟩
  let registered := Deed.on (.empty .bare) (.operation (.register list))
  let stored := Deed.on registered (.operation (.addAlias "hi there" "!list"))
  ((changeTree (.addAt ["", "deep"] .root)).run.run stored).2

theorem handled_crowded : Handled crowded :=
  .addAt (.deed (.deed (.empty .bare) _) _) _ _

/-- Five changes that fail, three of them inside a group. -/
theorem allOrNothing_of_handled_crowded :
    Handled crowded ∧
      (register ⟨.ofPath "hi there", Builtin.print.function⟩).run.run crowded =
        (.error (.duplicateCommand "hi there"), crowded) ∧
      (addCommand "hi there you" .root).run.run crowded =
        (.error (.invalidPath "there" "a command already exists at this name"), crowded) ∧
      (changeTree (.addAt ["", "deep"] .root)).run.run crowded =
        (.error (.duplicateCommand " deep"), crowded) ∧
      (addAlias "list" "!hi there").run.run crowded = (.error (.duplicateCommand "list"), crowded) ∧
      (removeAlias "list").run.run crowded = (.error (.nameNotFound "list"), crowded) := by
  obtain ⟨registering, adding, editing, storing, taking⟩ := allOrNothing_of_handled handled_crowded
  exact ⟨handled_crowded, (registering _).run_eq (by decide +kernel),
    (adding _ _).run_eq (by decide +kernel), (editing _ _).run_eq (by decide +kernel),
    (storing _ _).run_eq (by decide +kernel), (taking _).run_eq (by decide +kernel)⟩

end Bot

end ChatLine
