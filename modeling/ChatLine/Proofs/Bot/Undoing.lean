import ChatLine.Bot.Calls
import ChatLine.Proofs.Bot.Reached
import ChatLine.Proofs.Tree.Undoing
import Mathlib.Data.List.Infix

set_option autoImplicit false

namespace ChatLine.Bot

open Effects Children

/-- What registering a command at a new path does when it succeeds. -/
theorem register_of_ok {bot : Bot} (sound : Sound bot.groups.top) {command : Documented}
    (new : bot.registry.get? command.path = none)
    (registers : ((register command).run.run bot).1 = .ok ()) :
    (∀ name ∈ Text.spaced command.path, name ≠ "") ∧
      bot.groups.top.sits? (Text.spaced command.path) = none ∧
      ((register command).run.run bot).2 = { bot with
        groups := bot.groups.put (.documented command) (Text.spaced command.path)
        registry := bot.registry.set command.path [command] } := by
  have earlier : bot.registeredAt command.path = [] := by
    rw [registeredAt, new]
    rfl
  rcases register_cases command bot with
    ⟨error, refused⟩ | ⟨placed, result, after, valid, -, built, placing, runs⟩
  · rw [refused] at registers
    cases registers
  · have named := named_of_validatePath valid
    rw [earlier] at built placing runs
    cases built
    rw [runs] at registers ⊢
    rw [run_place sound named] at placing
    cases sits : bot.groups.top.sits? (Text.spaced command.path) with
    | some other =>
      rw [sits] at placing
      cases placing
      cases registers
    | none =>
      rw [sits] at placing
      cases placing
      exact ⟨named, rfl, rfl⟩

theorem without_put {groups : Groups} (sound : Sound groups.top) {names : List String}
    (named : ∀ name ∈ names, name ≠ "") (free : groups.top.sits? names = none) (command : Command) :
    (groups.put command names).without ((groups.put command names).top.slot names) =
      { top := groups.top.opened groups.next names
        next := groups.next + groups.top.made names
        dropped := .leaf command :: groups.dropped } := by
  have removed := removeAt_put sound named free command groups.next
  simp only [Groups.without, Groups.put, removed, free, Option.toList_some, Option.map_none,
    Option.toList_none, List.nil_append, List.singleton_append]

theorem children_of_top {groups other : Groups} (same : other.top = groups.top) {command : Command}
    (dropped : other.dropped = .leaf command :: groups.dropped) (id : Nat) :
    other.children id = groups.children id := by
  unfold Groups.children
  rw [same, dropped, List.findSome?_cons]
  rfl

/-- Registering a command at a new path and taking the path away again leaves the books as they were,
and every command where it was to be found. Where no command stands on the way to the path, the whole
tree is as it was, with the same numbers for its groups. A command on the way is then the only one in
a group of its own, under the empty name, and all else is as it was. -/
theorem unregister_register {bot : Bot} (reached : Reached bot) (command : Documented)
    (new : bot.registry.get? command.path = none)
    (registers : ((register command).run.run bot).1 = .ok ()) :
    ∃ groups, (unregister command.path).run ((register command).run.run bot).2 =
        ([command], { bot with groups := groups }) ∧
      groups.top.sits? = bot.groups.top.sits? ∧
      ((∀ front, front <+: Text.spaced command.path → front ≠ Text.spaced command.path →
          ∀ old, bot.groups.top.at? front ≠ some (.leaf old)) →
        groups.top = bot.groups.top ∧ ∀ id, groups.children id = bot.groups.children id) ∧
      ∀ front old, front <+: Text.spaced command.path → front ≠ Text.spaced command.path →
        bot.groups.top.at? front = some (.leaf old) →
          groups.top =
            bot.groups.top.setAt (.group bot.groups.next [("", .leaf old)]) front := by
  have sound := reached.ordered.sound
  obtain ⟨named, free, registered⟩ := register_of_ok sound new registers
  rw [registered]
  refine ⟨⟨bot.groups.top.opened bot.groups.next (Text.spaced command.path),
      bot.groups.next + bot.groups.top.made (Text.spaced command.path),
      .leaf (.documented command) :: bot.groups.dropped⟩, ?_,
    sits?_opened sound (Text.spaced_ne_nil command.path) named free bot.groups.next, ?_, ?_⟩
  · rw [run_unregister]
    dsimp only
    rw [NameMap.get?_set, if_pos rfl]
    dsimp only
    rw [run_detach, NameMap.erase_set, NameMap.erase_eq_self new]
    dsimp only
    rw [without_put sound named free]
  · intro clear
    have same := opened_eq_self sound bot.groups.next clear
    exact ⟨same, children_of_top same rfl⟩
  · intro front old begins shorter stands
    exact opened_eq_setAt bot.groups.next begins shorter stands

/-- A command `list` that answers with its arguments, and two commands below it. -/
def listTexts : Documented :=
  ⟨.ofPath "list", Builtin.print.function⟩

def listAdd : Documented :=
  ⟨.ofPath "list add", Builtin.aliasAdd.function⟩

def listRemove : Documented :=
  ⟨.ofPath "list remove", Builtin.aliasRemove.function⟩

def withOne (command : Documented) : Bot :=
  ((register command).run.run (.empty .bare)).2

theorem reached_withOne (command : Documented) : Reached (withOne command) :=
  .operation (.empty .bare) (.register command)

/-- A command beside another one, both in a group. -/
theorem unregister_register_beside :
    Reached (withOne listAdd) ∧ (withOne listAdd).registry.get? listRemove.path = none ∧
      ((register listRemove).run.run (withOne listAdd)).1 = .ok () ∧
      ∃ groups, (unregister listRemove.path).run
            ((register listRemove).run.run (withOne listAdd)).2 =
          ([listRemove], { withOne listAdd with groups := groups }) ∧
        groups.top = (withOne listAdd).groups.top := by
  have reached := reached_withOne listAdd
  have new : (withOne listAdd).registry.get? listRemove.path = none := by decide +kernel
  have registers : ((register listRemove).run.run (withOne listAdd)).1 = .ok () := by decide +kernel
  have clear : ∀ front ∈ (Text.spaced listRemove.path).inits,
      front ≠ Text.spaced listRemove.path →
        ((withOne listAdd).groups.top.at? front).map Node.isGroup ≠ some false := by
    decide +kernel
  obtain ⟨groups, undone, -, same, -⟩ := unregister_register reached listRemove new registers
  refine ⟨reached, new, registers, groups, undone, (same ?_).1⟩
  intro front begins shorter old found
  refine clear front ((List.mem_inits _ _).2 begins) shorter ?_
  rw [found]
  rfl

/-- The text that words answer in a bot, of which the first ones name a command. -/
def textFor (bot : Bot) (words : List String) : Option String :=
  match (Evaluate.run Host.none 9 .root (words.map .literal) [.string]).run.run
    (World.start bot bot.freshContext () 0) with
  | some (.ok (.text text), _) => some text
  | _ => none

/-- A command on the way stays below its name, and its first argument is lost then. -/
theorem unregister_register_below_list :
    let registered := (register listAdd).run.run (withOne listTexts)
    let undone := (unregister listAdd.path).run registered.2
    Reached (withOne listTexts) ∧ (withOne listTexts).registry.get? listAdd.path = none ∧
      registered.1 = .ok () ∧ undone.1 = [listAdd] ∧
      undone.2.groups.top ≠ (withOne listTexts).groups.top ∧
      textFor (withOne listTexts) ["list", "a", "b"] = some "ab" ∧
      textFor undone.2 ["list", "a", "b"] = some "b" := by
  intro registered undone
  refine ⟨reached_withOne listTexts, by decide +kernel, by decide +kernel, by decide +kernel, ?_,
    by decide +kernel, by decide +kernel⟩
  intro same
  have groups := congrArg (fun top : Children => (top.at? ["list"]).map Node.isGroup) same
  revert groups
  decide +kernel

end ChatLine.Bot
