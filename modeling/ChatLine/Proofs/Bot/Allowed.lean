import ChatLine.Bot.Calls
import ChatLine.Proofs.Bot.Operations
import ChatLine.Proofs.Tree.Exact

set_option autoImplicit false

namespace ChatLine

mutual

/-- Only allowed commands stand at or below a node, and no empty name is a group. -/
def Node.Only (allowed : Command → Prop) : Node → Prop
  | .leaf command => allowed command
  | .group _ children => OnlyBelow allowed children

/-- Only allowed commands stand below some names, and no empty name is a group. -/
def OnlyBelow (allowed : Command → Prop) : List (String × Node) → Prop
  | [] => True
  | (name, node) :: rest =>
    (name = "" → node.isGroup = false) ∧ node.Only allowed ∧ OnlyBelow allowed rest

end

/-- Only allowed commands stand in the tree and in what was dropped from it. -/
def Groups.Only (allowed : Command → Prop) (groups : Groups) : Prop :=
  OnlyBelow allowed groups.top ∧ ∀ node ∈ groups.dropped, node.Only allowed

/-- Only allowed commands stand in a group under change and in what was dropped from it. -/
def Growth.Only (allowed : Command → Prop) (growth : Growth) : Prop :=
  OnlyBelow allowed growth.children ∧ ∀ node ∈ growth.dropped, node.Only allowed

/-- Only allowed commands stand in the tree after the change, if it was so before. -/
def Change.KeepsOnly {α : Type} (allowed : Command → Prop) (change : Change α) : Prop :=
  ∀ growth : Growth, growth.Only allowed → (change.run.run growth).2.Only allowed

variable {allowed : Command → Prop}

theorem onlyBelow_iff {children : List (String × Node)} :
    OnlyBelow allowed children ↔ ∀ entry ∈ children,
      (entry.1 = "" → entry.2.isGroup = false) ∧ entry.2.Only allowed := by
  induction children with
  | nil => exact ⟨fun _ entry inside => (nomatch inside), fun _ => trivial⟩
  | cons entry rest ih =>
    obtain ⟨name, node⟩ := entry
    rw [List.forall_mem_cons, ← ih, and_assoc]
    exact Iff.rfl

theorem OnlyBelow.of_get? {children : Children} (only : OnlyBelow allowed children) {name : String}
    {node : Node} (found : children.get? name = some node) :
    (name = "" → node.isGroup = false) ∧ node.Only allowed :=
  onlyBelow_iff.1 only _ (NameMap.mem_of_get? found)

theorem OnlyBelow.of_resolve {children : Children} (only : OnlyBelow allowed children)
    {name full : String} {node : Node} (found : children.resolve name = .ok (full, node)) :
    node.Only allowed :=
  (only.of_get? (Children.of_resolve found).2).2

theorem OnlyBelow.set {children : Children} (only : OnlyBelow allowed children) {name : String}
    {node : Node} (plain : name = "" → node.isGroup = false) (nodeOnly : node.Only allowed) :
    OnlyBelow allowed (children.set name node) := by
  apply onlyBelow_iff.2
  intro entry inside
  rcases NameMap.mem_set inside with rfl | before
  · exact ⟨plain, nodeOnly⟩
  · exact onlyBelow_iff.1 only entry before

theorem OnlyBelow.erase {children : Children} (only : OnlyBelow allowed children) (name : String) :
    OnlyBelow allowed (children.erase name) :=
  onlyBelow_iff.2 fun entry inside => onlyBelow_iff.1 only entry (List.mem_filter.1 inside).1

theorem OnlyBelow.removeAt {children : Children} (only : OnlyBelow allowed children)
    (path : List String) :
    OnlyBelow allowed (children.removeAt path).2 ∧
      ∀ node, (children.removeAt path).1 = some node → node.Only allowed := by
  induction path generalizing children with
  | nil =>
    refine ⟨only, ?_⟩
    intro node removed
    cases removed
  | cons name rest ih =>
    cases rest with
    | nil => exact ⟨only.erase name, fun node found => (only.of_get? found).2⟩
    | cons next rest =>
      unfold Children.removeAt
      split
      · rename_i id below found
        have belowOnly : OnlyBelow allowed below := (only.of_get? found).2
        have inner := ih belowOnly
        generalize Children.removeAt below (next :: rest) = removed at inner
        obtain ⟨_ | node, left⟩ := removed
        · refine ⟨only, ?_⟩
          intro node unmoved
          cases unmoved
        · dsimp only at inner ⊢
          have nodeOnly := inner.2 node rfl
          split
          · refine ⟨only.erase name, ?_⟩
            intro other same
            cases same
            exact nodeOnly
          · refine ⟨only.set ?_ inner.1, ?_⟩
            · intro empty
              exact absurd ((only.of_get? found).1 empty) (by simp [Node.isGroup])
            · intro other same
              cases same
              exact nodeOnly
      · refine ⟨only, ?_⟩
        intro node unmoved
        cases unmoved

mutual

theorem Node.Only.childrenOf? {node : Node} (only : node.Only allowed) {id : Nat}
    {children : List (String × Node)} (found : node.childrenOf? id = some children) :
    OnlyBelow allowed children := by
  match node with
  | .leaf command => cases found
  | .group own below =>
    simp only [Node.childrenOf?] at found
    split at found
    · cases found
      exact only
    · exact OnlyBelow.childrenBelow? only found

theorem OnlyBelow.childrenBelow? {below : List (String × Node)} (only : OnlyBelow allowed below)
    {id : Nat} {children : List (String × Node)}
    (found : Node.childrenBelow? id below = some children) : OnlyBelow allowed children := by
  match below with
  | [] => cases found
  | (name, node) :: rest =>
    simp only [Node.childrenBelow?] at found
    split at found
    · rename_i inNode
      cases found
      exact Node.Only.childrenOf? only.2.1 inNode
    · exact OnlyBelow.childrenBelow? only.2.2 found

end

mutual

theorem Node.Only.mono {weak : Command → Prop} (implies : ∀ command, allowed command → weak command)
    {node : Node} (only : node.Only allowed) : node.Only weak := by
  match node with
  | .leaf command => exact implies command only
  | .group _ children =>
    have inside : OnlyBelow weak children := OnlyBelow.mono implies only
    exact inside

theorem OnlyBelow.mono {weak : Command → Prop} (implies : ∀ command, allowed command → weak command)
    {below : List (String × Node)} (only : OnlyBelow allowed below) : OnlyBelow weak below := by
  match below with
  | [] => trivial
  | (name, node) :: rest =>
    exact ⟨only.1, Node.Only.mono implies only.2.1, OnlyBelow.mono implies only.2.2⟩

end

theorem Groups.Only.mono {weak : Command → Prop} (implies : ∀ command, allowed command → weak command)
    {groups : Groups} (only : groups.Only allowed) : groups.Only weak :=
  ⟨only.1.mono implies, fun node inside => (only.2 node inside).mono implies⟩

theorem Groups.Only.children {groups : Groups} (only : groups.Only allowed) (id : Nat) :
    OnlyBelow allowed (groups.children id) := by
  unfold Groups.children
  split
  · exact only.1
  · split
    · rename_i found
      exact only.1.childrenBelow? found
    · cases found : groups.dropped.findSome? fun node => node.childrenOf? id with
      | none => exact trivial
      | some children =>
        obtain ⟨node, inside, inNode⟩ := List.exists_of_findSome?_eq_some found
        exact Node.Only.childrenOf? (only.2 node inside) inNode

namespace Change

open Effects

theorem keepsOnly_insert (name : String) {command : Command} (fits : allowed command) :
    (insert name (.leaf command)).KeepsOnly allowed := by
  intro growth only
  rw [run_insert]
  split
  · exact only
  · exact ⟨only.1.set (fun _ => rfl) fits, only.2⟩

theorem keepsOnly_within {name : String} (named : name ≠ "") (absorb : Bool) {change : Change Unit}
    (keeps : change.KeepsOnly allowed) : (within name absorb change).KeepsOnly allowed := by
  intro growth only
  have entered : ∀ (id : Nat) (children : Children) (outer : Growth),
      OnlyBelow allowed children → outer.Only allowed →
      ({ (change.run.run { outer with children := children }).2 with
        children := outer.children.set name
          (.group id (change.run.run { outer with children := children }).2.children) } :
        Growth).Only allowed := by
    intro id children outer inside around
    have inner := keeps { outer with children := children } ⟨inside, around.2⟩
    exact ⟨around.1.set (fun empty => absurd empty named) inner.1, inner.2⟩
  rw [run_within, run_childGroup]
  cases found : growth.children.get? name with
  | none =>
    refine entered growth.next [] _ trivial ⟨?_, only.2⟩
    exact only.1.set (fun empty => absurd empty named) trivial
  | some node =>
    cases node with
    | group id children => exact entered id children growth (only.1.of_get? found).2 only
    | leaf command =>
      cases absorb with
      | false => exact only
      | true =>
        have moved : OnlyBelow allowed [("", .leaf command)] :=
          ⟨fun _ => rfl, (only.1.of_get? found).2, trivial⟩
        refine entered growth.next [("", .leaf command)] _ moved ⟨?_, only.2⟩
        exact only.1.set (fun empty => absurd empty named) moved

theorem keepsOnly_descend {change : Change Unit} (keeps : change.KeepsOnly allowed) (absorb : Bool)
    {path : List String} (named : ∀ name ∈ path, name ≠ "") :
    (descend absorb change path).KeepsOnly allowed := by
  induction path with
  | nil => exact keeps
  | cons name rest ih =>
    have inner := ih fun other inside => named other (List.mem_cons_of_mem _ inside)
    exact keepsOnly_within (named name List.mem_cons_self) absorb inner

theorem keepsOnly_addAt {path : List String} (named : ∀ name ∈ path, name ≠ "") {command : Command}
    (fits : allowed command) : (addAt path command).KeepsOnly allowed := by
  unfold addAt
  split
  · exact fun growth only => only
  · rename_i last _
    refine keepsOnly_descend ?_ false fun name inside => named name (List.dropLast_subset _ inside)
    intro growth only
    have inserted := keepsOnly_insert last fits growth only
    rw [run_tryCatch]
    generalize (insert last (.leaf command)).run.run growth = made at inserted ⊢
    obtain ⟨_ | _, after⟩ := made <;> exact inserted

theorem keepsOnly_settleAt (path : String) {command : Command} (fits : allowed command)
    (fresh : Bool) (slot : String) : (settleAt path command fresh slot).KeepsOnly allowed := by
  intro growth only
  rw [run_settleAt]
  split
  · exact only
  · refine ⟨only.1.set (fun _ => rfl) fits, ?_⟩
    intro node inside
    rcases List.mem_append.1 inside with replaced | before
    · exact (only.1.of_get? (Option.mem_toList.1 replaced)).2
    · exact only.2 node before

theorem keepsOnly_settle (path : String) {last : String} (named : last ≠ "") {command : Command}
    (fits : allowed command) (fresh : Bool) :
    (settle path last command fresh).KeepsOnly allowed := by
  intro growth only
  rw [run_settle]
  split
  · exact keepsOnly_within named false (keepsOnly_settleAt path fits fresh "") growth only
  · exact keepsOnly_settleAt path fits fresh last growth only

theorem keepsOnly_place {path : String} (named : ∀ name ∈ Text.spaced path, name ≠ "")
    {command : Command} (fits : allowed command) (fresh : Bool) :
    (place path command fresh).KeepsOnly allowed := by
  unfold place
  dsimp only
  split
  · exact fun growth only => only
  · rename_i last ends
    have lastNamed := named last (List.mem_of_getLast? ends)
    exact keepsOnly_descend (keepsOnly_settle path lastNamed fits fresh) true
      fun name inside => named name (List.dropLast_subset _ inside)

theorem keepsOnly_removeAt (path : List String) : (removeAt path).KeepsOnly allowed := by
  intro growth only
  rw [run_removeAt]
  have removed := only.1.removeAt path
  refine ⟨removed.1, ?_⟩
  intro node inside
  rcases List.mem_append.1 inside with now | before
  · exact removed.2 node (Option.mem_toList.1 now)
  · exact only.2 node before

end Change

namespace Bot

theorem only_changeTree {α : Type} {change : Change α} (keeps : change.KeepsOnly allowed)
    {bot : Bot}
    (only : bot.groups.Only allowed) :
    ((changeTree change).run.run bot).2.groups.Only allowed := by
  rw [run_changeTree]
  exact keeps ⟨bot.groups.top, bot.groups.next, bot.groups.dropped⟩ only

theorem only_detach (bot : Bot) (only : bot.groups.Only allowed) (path : String) :
    ((detach path).run.run bot).2.groups.Only allowed :=
  only_changeTree (Change.keepsOnly_removeAt (bot.slotPath path)) only

/-- Storing a line adds the command of a line. -/
theorem only_addAlias {bot : Bot} (only : bot.groups.Only allowed) (name text : String)
    (fits : ∀ command, Command.ofLine text = .ok command → allowed command) :
    ((addAlias name text).run.run bot).2.groups.Only allowed := by
  rcases addAlias_cases name text bot with
    ⟨error, refused⟩ | ⟨command, result, after, valid, -, meant, adding, runs⟩
  · rw [refused]
    exact only
  · have added := only_changeTree
      (Change.keepsOnly_addAt (named_of_validatePath valid) (fits command meant)) only
    rw [adding] at added
    rw [runs]
    cases result <;> exact added

theorem only_removeAlias {bot : Bot} (only : bot.groups.Only allowed) (name : String) :
    ((removeAlias name).run.run bot).2.groups.Only allowed := by
  rw [run_removeAlias]
  cases bot.aliases.get? name with
  | none => exact only
  | some text =>
    have detached := only_detach { bot with aliases := bot.aliases.erase name } only name
    dsimp only
    generalize (detach name).run.run { bot with aliases := bot.aliases.erase name } = made
      at detached ⊢
    obtain ⟨_ | _, after⟩ := made <;> exact detached

/-- Only allowed commands stand in the tree of the bot, and only vouched ones are registered. -/
structure Only (allowed : Command → Prop) (vouched : Documented → Prop) (bot : Bot) : Prop where
  tree : bot.groups.Only allowed
  named : ∀ entry ∈ bot.registry, ∀ name ∈ Text.spaced entry.1, name ≠ ""
  registry : ∀ entry ∈ bot.registry, ∀ command ∈ entry.2, vouched command

/-- The operation brings no commands but vouched and allowed ones. -/
def Operation.Brings (allowed : Command → Prop) (vouched : Documented → Prop) : Operation → Prop
  | .register command => vouched command
  | .addCommand _ command => allowed command
  | _ => True

section Operations

variable {vouched : Documented → Prop} {bot : Bot}

theorem Only.registeredAt (only : bot.Only allowed vouched) (path : String) :
    ∀ command ∈ bot.registeredAt path, vouched command := by
  intro command inside
  unfold Bot.registeredAt at inside
  cases found : bot.registry.get? path with
  | none =>
    rw [found] at inside
    cases inside
  | some commands =>
    rw [found] at inside
    exact only.registry _ (NameMap.mem_of_get? found) command inside

theorem Only.set_registry (only : bot.Only allowed vouched) {groups : Groups}
    (tree : groups.Only allowed) {commands : List Documented}
    (vouch : ∀ command ∈ commands, vouched command) {path : String}
    (named : ∀ name ∈ Text.spaced path, name ≠ "") :
    ({ bot with groups := groups, registry := bot.registry.set path commands } : Bot).Only
      allowed vouched := by
  refine ⟨tree, ?_, ?_⟩
  · intro entry inside
    rcases NameMap.mem_set inside with rfl | before
    · exact named
    · exact only.named entry before
  · intro entry inside
    rcases NameMap.mem_set inside with rfl | before
    · exact vouch
    · exact only.registry entry before

theorem Only.detach (only : bot.Only allowed vouched) (erased path : String) :
    ((detach path).run.run { bot with registry := bot.registry.erase erased }).2.Only
      allowed vouched :=
  ⟨only_detach _ only.tree path, fun entry inside => only.named entry (List.mem_filter.1 inside).1,
    fun entry inside => only.registry entry (List.mem_filter.1 inside).1⟩

/-- The command for vouched commands is allowed. -/
def Vouches (vouched : Documented → Prop) (allowed : Command → Prop) : Prop :=
  ∀ commands command, (∀ single ∈ commands, vouched single) → commandFor commands = .ok command →
    allowed command

theorem Only.register (only : bot.Only allowed vouched) (vouches : Vouches vouched allowed)
    {command : Documented} (vouch : vouched command) :
    ((Bot.register command).run.run bot).2.Only allowed vouched := by
  rcases register_cases command bot with
    ⟨error, refused⟩ | ⟨placed, result, after, valid, -, built, placing, runs⟩
  · rw [refused]
    exact only
  · have named := named_of_validatePath valid
    have all : ∀ single ∈ bot.registeredAt command.path ++ [command], vouched single :=
      List.forall_mem_append.2
        ⟨only.registeredAt command.path, List.forall_mem_singleton.2 vouch⟩
    have changed := only_changeTree (Change.keepsOnly_place named (vouches _ placed all built)
      (bot.registeredAt command.path).isEmpty) only.tree
    rw [placing] at changed
    rw [runs]
    rw [run_changeTree] at placing
    cases placing
    cases (bot.groups.change _).1 with
    | error error => exact ⟨changed, only.named, only.registry⟩
    | ok _ => exact only.set_registry changed all named

theorem Only.unregister (only : bot.Only allowed vouched) (path : String) :
    ((Bot.unregister path).run bot).2.Only allowed vouched := by
  rw [run_unregister]
  cases bot.registry.get? path with
  | none => exact only
  | some removed => exact only.detach path path

theorem Only.unregisterOverload (only : bot.Only allowed vouched)
    (vouches : Vouches vouched allowed)
    (fullName : String) : ((Bot.unregisterOverload fullName).run bot).2.Only allowed vouched := by
  rw [run_unregisterOverload]
  cases found : findOverload? fullName bot.registry with
  | none => exact only
  | some place =>
    obtain ⟨path, before, removed, after⟩ := place
    have entry := only.registry _ (mem_of_findOverload? found)
    have named := only.named _ (mem_of_findOverload? found)
    have left : ∀ command ∈ before ++ after, vouched command := by
      intro command inside
      apply entry command
      rcases List.mem_append.1 inside with first | second
      · exact List.mem_append_left _ first
      · exact List.mem_append_right _ (List.mem_cons_of_mem _ second)
    dsimp only
    split
    · exact only.detach path path
    · have kept := only.set_registry only.tree left named
      cases placed : commandFor (before ++ after) with
      | error error => exact kept
      | ok command =>
        have replaced := only_changeTree
          (Change.keepsOnly_place named (vouches _ command left placed) false) kept.tree
        exact ⟨replaced, kept.named, kept.registry⟩

theorem registry_addAlias (name text : String) (bot : Bot) :
    ((Bot.addAlias name text).run.run bot).2.registry = bot.registry := by
  rcases addAlias_cases name text bot with
    ⟨error, refused⟩ | ⟨command, result, after, -, -, -, adding, runs⟩
  · rw [refused]
  · rw [run_changeTree] at adding
    cases adding
    rw [runs]
    cases (bot.groups.change _).1 <;> rfl

theorem registry_removeAlias (name : String) (bot : Bot) :
    ((Bot.removeAlias name).run.run bot).2.registry = bot.registry := by
  rw [run_removeAlias]
  cases bot.aliases.get? name <;> rfl

theorem Only.addAlias (only : bot.Only allowed vouched) (name text : String)
    (fits : ∀ command, Command.ofLine text = .ok command → allowed command) :
    ((Bot.addAlias name text).run.run bot).2.Only allowed vouched := by
  have tree := only_addAlias only.tree name text fits
  have books := registry_addAlias name text bot
  exact ⟨tree, books ▸ only.named, books ▸ only.registry⟩

theorem Only.removeAlias (only : bot.Only allowed vouched) (name : String) :
    ((Bot.removeAlias name).run.run bot).2.Only allowed vouched := by
  have tree := only_removeAlias only.tree name
  have books := registry_removeAlias name bot
  exact ⟨tree, books ▸ only.named, books ▸ only.registry⟩

theorem Only.addCommand (only : bot.Only allowed vouched) (path : String) {command : Command}
    (fits : allowed command) :
    ((Bot.addCommand path command).run.run bot).2.Only allowed vouched := by
  rw [run_addCommand]
  cases valid : validatePath path with
  | error error => exact only
  | ok _ =>
    have added := only_changeTree
      (Change.keepsOnly_addAt (named_of_validatePath valid) fits) only.tree
    exact ⟨added, only.named, only.registry⟩

/-- An operation that brings no other commands keeps all others out. -/
theorem Only.after {history : History} (only : history.bot.Only allowed vouched)
    (vouches : Vouches vouched allowed)
    (lines : ∀ text command, Command.ofLine text = .ok command → allowed command)
    {operation : Operation} (brings : operation.Brings allowed vouched) :
    (history.after operation).bot.Only allowed vouched := by
  cases operation with
  | register command => exact only.register vouches brings
  | unregister path => exact only.unregister path
  | unregisterOverload fullName => exact only.unregisterOverload vouches fullName
  | addAlias name text => exact only.addAlias name text (lines text)
  | removeAlias name => exact only.removeAlias name
  | addCommand path command =>
    have added := only.addCommand path brings
    unfold History.after
    dsimp only
    generalize (Bot.addCommand path command).run.run history.bot = made at added ⊢
    obtain ⟨error | done, bot⟩ := made <;> exact added

end Operations

def afterAll (bot : Bot) (operations : List Operation) : Bot :=
  (operations.foldl History.after ⟨bot, []⟩).bot

section Runs

variable {vouched : Documented → Prop}

/-- After any operations only what stood in the tree and what they brought stands there. -/
theorem Only.afterAll {bot : Bot} (only : bot.Only allowed vouched)
    (vouches : Vouches vouched allowed)
    (lines : ∀ text command, Command.ofLine text = .ok command → allowed command)
    {operations : List Operation}
    (brings : ∀ operation ∈ operations, operation.Brings allowed vouched) :
    (bot.afterAll operations).Only allowed vouched := by
  have kept : ∀ history : History, history.bot.Only allowed vouched →
      (operations.foldl History.after history).bot.Only allowed vouched := by
    induction operations with
    | nil => exact fun history only => only
    | cons operation rest ih =>
      obtain ⟨first, others⟩ := List.forall_mem_cons.1 brings
      exact fun history only => ih others _ (only.after vouches lines first)
  exact kept ⟨bot, []⟩ only

theorem only_empty (config : Config) : (Bot.empty config).Only allowed vouched :=
  ⟨⟨trivial, List.forall_mem_nil _⟩, List.forall_mem_nil _, List.forall_mem_nil _⟩

theorem Only.startWith {α : Type} {doing : α → String} {update : α → Update Unit} {items : List α}
    {bot started : Bot} (only : bot.Only allowed vouched)
    (keeps : ∀ item ∈ items, ∀ bot : Bot, bot.Only allowed vouched →
      ((update item).run.run bot).2.Only allowed vouched)
    (starts : Bot.startWith doing update items bot = .ok started) :
    started.Only allowed vouched := by
  induction items generalizing bot with
  | nil =>
    cases starts
    exact only
  | cons item rest ih =>
    obtain ⟨first, others⟩ := List.forall_mem_cons.1 keeps
    have next := first bot only
    unfold Bot.startWith at starts
    generalize (update item).run.run bot = made at next starts
    obtain ⟨_ | _, after⟩ := made
    · cases starts
    · exact ih next others starts

/-- Only built-in commands and stored lines stand in the tree of a bot that has started. -/
theorem only_start (vouches : Vouches vouched allowed)
    (lines : ∀ text command, Command.ofLine text = .ok command → allowed command)
    (builtins : ∀ builtin : Builtin, vouched builtin.documented) {config : Config} {bot : Bot}
    (started : Bot.start config = .ok bot) : bot.Only allowed vouched := by
  have fromCatalog : ∀ command ∈ if config.builtins then Builtin.catalog config.name else [],
      vouched command := by
    intro command inside
    split at inside
    · obtain ⟨builtin, _, rfl⟩ := List.mem_map.1 inside
      exact builtins builtin
    · cases inside
  unfold Bot.start at started
  dsimp only at started
  cases registered : Bot.startWith (fun _ => "failed to register builtin commands") register
      (if config.builtins then Builtin.catalog config.name else []) (Bot.empty config) with
  | error error =>
    rw [registered] at started
    cases started
  | ok middle =>
    rw [registered] at started
    have middleOnly := (only_empty config).startWith
      (fun command inside bot only => only.register vouches (fromCatalog command inside)) registered
    exact middleOnly.startWith
      (fun entry _ bot only => only.addAlias entry.1 entry.2 (lines entry.2)) started

end Runs

end Bot

end ChatLine
