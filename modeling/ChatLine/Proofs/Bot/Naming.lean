import ChatLine.Proofs.Bot.Reached
import ChatLine.Proofs.Calls.Steps
import ChatLine.Proofs.Line.Named
import ChatLine.Proofs.Tree.Exact
import ChatLine.Proofs.Tree.Layout

set_option autoImplicit false

namespace ChatLine

variable {σ : Type}

/-- A part of the command tree in which calls by full names find their way: it is in good order, has
words of small letters for names, and its groups are found by their numbers. -/
structure Groups.Part (groups : Groups) (children : Children) : Prop where
  sound : Children.Sound children
  words : ∀ names command, children.sits? names = some command →
    ∀ name ∈ names, Bot.isPathWord name = true
  numbers : ∀ id below, (id, below) ∈ numberedBelow children → groups.children id = below

namespace Groups.Part

variable {groups : Groups} {children : Children}

theorem named (part : groups.Part children) {name : String} {node : Node}
    (found : children.get? name = some node) : name = "" ∨ Bot.isPathWord name = true := by
  refine Classical.or_iff_not_imp_left.2 fun named => ?_
  obtain ⟨leaf, rest, leaves⟩ :=
    List.exists_cons_of_ne_nil (Node.Tidy.leaves_ne_nil node (part.sound.tidy.node found))
  have below : leaf ∈ node.leaves := by
    rw [leaves]
    exact List.mem_cons_self
  have listed : (name :: leaf.1, leaf.2) ∈ leavesBelow children :=
    (Children.mem_leavesBelow_cons part.sound.sorted name leaf.1 leaf.2).2 ⟨node, found, below⟩
  obtain ⟨names, sits, slot⟩ := (Children.mem_leavesBelow_iff part.sound _ _).1 listed
  cases names with
  | nil =>
    rw [Children.slot] at slot
    exact absurd (List.cons.inj slot).1.symm named
  | cons first others =>
    rw [Children.slot] at slot
    rw [← (List.cons.inj slot).1]
    exact part.words _ _ sits first List.mem_cons_self

theorem resolve (part : groups.Part children) {name : String} {node : Node}
    (found : children.get? name = some node) : children.resolve name = .ok (name, node) :=
  Children.resolve_exact part.sound.sorted (fun _ _ => part.named) found

theorem inner (part : groups.Part children) {name : String} (named : name ≠ "") {id : Nat}
    {below : Children} (found : children.get? name = some (.group id below)) :
    groups.Part below ∧ groups.children id = below := by
  have listed : ∀ group ∈ (Node.group id below).numbered, group ∈ numberedBelow children := by
    intro group inside
    rw [Children.numberedBelow_eq]
    exact List.mem_flatMap.2 ⟨_, NameMap.mem_of_get? found, inside⟩
  refine ⟨⟨(part.sound.inner found).2, ?_, ?_⟩, ?_⟩
  · intro names command sits word inside
    rw [← Children.sits?_group named found] at sits
    exact part.words _ _ sits word (List.mem_cons_of_mem name inside)
  · intro other others inside
    exact part.numbers _ _ (listed _ (List.mem_cons_of_mem _ inside))
  · exact part.numbers _ _ (listed _ List.mem_cons_self)

end Groups.Part

theorem Bot.Ordered.part {bot : Bot} (ordered : bot.Ordered) : bot.groups.Part bot.groups.top :=
  ⟨ordered.sound, ordered.words, fun _ _ inside => ordered.numbered.children_eq inside⟩

namespace Evaluate

variable (host : Host σ) {world : World σ}

theorem run_literal (depth : Nat) (text : String) {kinds : List Kind}
    (wanted : kinds.contains .string = true) :
    (run host (depth + 1) (.literal text) [] kinds).run.run world = some (.ok (.text text), world) := by
  change (Eval.recorded (Eval.ofExcept (callLiteral text kinds))).run.run world = _
  rw [callLiteral, if_pos wanted]
  rfl

theorem run_text_literal (depth : Nat) (text : String) :
    (Eval.text (run host (depth + 1)) (.literal text)).run.run world = some (.ok text, world) := by
  rw [Eval.text, Eval.run_bind, run_literal host depth text rfl]
  rfl

theorem run_callLine (call : Caller σ) {text : String} {command : Command}
    (meant : (Expr.read text).toCommand = .ok command) (kinds : List Kind) :
    (callLine call text kinds).run.run world = (call command [] kinds).run.run world := by
  rw [callLine, Eval.run_bind, meant, Eval.run_ofExcept]

theorem run_dispatch (depth : Nat) {children : Children} (part : world.bot.groups.Part children)
    {id : Nat} (here : world.bot.groups.children id = children) {name : String} {node : Node}
    (found : children.get? name = some node) (arguments : List Command) (kinds : List Kind) :
    (dispatch (run host depth) id name arguments kinds).run.run world =
      (run host depth node.command arguments kinds).run.run world := by
  apply run_dispatch_of_resolve
  rw [here]
  exact part.resolve found

/-- A group calls the command under its empty name where no command is wanted. -/
theorem run_callGroupAlone (depth : Nat) {id : Nat} {command : Command}
    (found : (world.bot.groups.children id).get? "" = some (.leaf command)) {kinds : List Kind}
    (unwanted : kinds.contains .command = false) :
    (callGroupAlone (run host depth) id kinds).run.run world =
      (run host depth command [] kinds).run.run world := by
  rw [callGroupAlone, unwanted, if_neg Bool.false_ne_true, Eval.run_bind, Eval.run_get]
  dsimp only
  rw [found]
  rfl

theorem run_group (depth id : Nat) (arguments : List Command) (kinds : List Kind) :
    run host (depth + 1) (.group id) arguments kinds =
      Eval.recorded (callGroup (run host depth) id arguments kinds) := rfl

theorem run_root (depth : Nat) (arguments : List Command) (kinds : List Kind) :
    run host (depth + 1) .root arguments kinds =
      Eval.recorded (callRoot (run host depth) arguments kinds) := rfl

theorem run_applied (depth : Nat) (callee : Command) (bound arguments : List Command)
    (kinds : List Kind) :
    run host (depth + 1) (.applied callee bound) arguments kinds =
      Eval.recorded (run host depth callee (bound ++ arguments) kinds) := rfl

theorem run_callGroup_literal (depth id : Nat) (word : String) (arguments : List Command)
    (kinds : List Kind) :
    (callGroup (run host (depth + 1)) id (.literal word :: arguments) kinds).run.run world =
      (dispatch (run host (depth + 1)) id word arguments kinds).run.run world := by
  rw [callGroup, Eval.run_bind, run_text_literal]

/-- Names in full call what sits at them: each group on the way records a failure once more, and does
nothing else. Where they lead to a group, the command must be one that a group calls for itself. -/
theorem run_dispatch_names (depth : Nat) {command : Command} {arguments : List Command}
    {kinds : List Kind} {rest : List String} {children : Children} {id : Nat} {name : String}
    {groups : Nat} (part : world.bot.groups.Part children)
    (here : world.bot.groups.children id = children)
    (sits : children.sits? (name :: rest) = some command)
    (way : (children.slot (name :: rest)).length = groups + 1)
    (fits : children.Leads (name :: rest) → arguments = [] ∧ kinds.contains .command = false) :
    (dispatch (run host (depth + groups)) id name (rest.map .literal ++ arguments) kinds).run.run
        world =
      (Eval.recorded^[groups] (run host depth command arguments kinds)).run.run world := by
  induction rest generalizing children id name groups with
  | nil =>
    have named : name ≠ "" :=
      Bot.ne_empty_of_isPathWord (part.words _ _ sits name List.mem_cons_self)
    rcases Children.group_or_plain children name with ⟨below, others, found⟩ | plain
    · obtain ⟨inside, numbered⟩ := part.inner named found
      obtain ⟨rfl, unwanted⟩ := fits ((Children.leads_group found []).2 trivial)
      rw [Children.slot_group found] at way
      obtain rfl : groups = 1 := (Nat.succ.inj way).symm
      rw [Children.sits?_group named found, Children.sits?] at sits
      rw [run_dispatch host _ part here found, Node.command, run_group]
      refine Eval.run_recorded_congr ?_
      refine run_callGroupAlone host depth ?_ unwanted
      rw [numbered]
      split at sits
      · rename_i stands leaf
        cases sits
        exact leaf
      · cases sits
    · rw [Children.slot_plain plain] at way
      obtain rfl : groups = 0 := (Nat.succ.inj way).symm
      rcases plain.absent_or_leaf with absent | ⟨stands, leaf⟩
      · rw [Children.sits?_absent absent] at sits
        cases sits
      · rw [Children.sits?_leaf named leaf, if_pos rfl] at sits
        cases sits
        rw [run_dispatch host _ part here leaf]
        rfl
  | cons next more ih =>
    have named : name ≠ "" :=
      Bot.ne_empty_of_isPathWord (part.words _ _ sits name List.mem_cons_self)
    rcases Children.group_or_plain children name with ⟨below, others, found⟩ | plain
    · obtain ⟨inside, numbered⟩ := part.inner named found
      rw [Children.slot_group found] at way
      rw [Children.sits?_group named found] at sits
      rw [Children.leads_group found] at fits
      obtain ⟨fewer, length⟩ := Nat.exists_eq_succ_of_ne_zero
        (List.length_eq_zero_iff.not.2 (Children.slot_ne_nil others (next :: more)))
      obtain rfl : groups = fewer + 1 := (Nat.succ.inj way).symm.trans length
      have deeper := ih inside numbered sits length fits
      rw [run_dispatch host _ part here found, Function.iterate_succ_apply', Node.command,
        ← Nat.add_assoc, run_group, List.map_cons, List.cons_append]
      refine Eval.run_recorded_congr ?_
      cases deep : depth + fewer with
      | zero =>
        obtain ⟨rfl, rfl⟩ := Nat.add_eq_zero_iff.1 deep
        rfl
      | succ left =>
        rw [run_callGroup_literal, ← deeper, deep]
    · rw [Children.sits?_plain named plain (List.cons_ne_nil next more)] at sits
      cases sits

/-- The entry of the tree, given a path in full, calls the command that sits there. -/
theorem run_root_path (depth : Nat) (ordered : world.bot.Ordered) {path : String} {command : Command}
    (sits : world.bot.groups.top.sits? (Text.spaced path) = some command)
    {arguments : List Command} {kinds : List Kind}
    (fits : world.bot.groups.top.Leads (Text.spaced path) →
      arguments = [] ∧ kinds.contains .command = false) :
    (run host (depth + (world.bot.slotPath path).length) .root
        ((Text.spaced path).map .literal ++ arguments) kinds).run.run world =
      (Eval.recorded^[(world.bot.slotPath path).length]
        (run host depth command arguments kinds)).run.run world := by
  rw [Bot.slotPath_eq]
  obtain ⟨name, rest, words⟩ := List.exists_cons_of_ne_nil (Text.spaced_ne_nil path)
  rw [words] at sits fits ⊢
  obtain ⟨groups, way⟩ := Nat.exists_eq_succ_of_ne_zero
    (List.length_eq_zero_iff.not.2 (Children.slot_ne_nil world.bot.groups.top (name :: rest)))
  have found := run_dispatch_names host depth ordered.part (if_pos rfl) sits way fits
  rw [way, Function.iterate_succ_apply', Nat.succ_eq_add_one, ← Nat.add_assoc, run_root,
    List.map_cons, List.cons_append]
  refine Eval.run_recorded_congr ?_
  rw [callRoot, Eval.run_bind]
  cases deep : depth + groups with
  | zero =>
    obtain ⟨rfl, rfl⟩ := Nat.add_eq_zero_iff.1 deep
    rfl
  | succ left =>
    rw [run_literal host left name rfl, ← found, deep]

end Evaluate

namespace Bot

/-- What a history names by a path: the command for what is registered there, what the stored line of
this name means, or a command that was added without documentation. -/
inductive History.Names (history : History) (path : String) : Command → Prop
  | registered {commands : List Documented} {command : Command}
    (found : history.bot.registry.get? path = some commands)
    (placed : commandFor commands = .ok command) : Names history path command
  | stored {text : String} {command : Command}
    (found : history.bot.aliases.get? path = some text)
    (meant : Command.ofLine text = .ok command) : Names history path command
  | added {command : Command} (inside : (path, command) ∈ history.added) :
    Names history path command

/-- What is named by a path sits there in a tree that is in step with the books. -/
theorem History.Names.sits {history : History} (step : history.bot.InStep history.added)
    {path : String} {command : Command} (named : history.Names path command) :
    history.bot.groups.top.sits? (Text.spaced path) = some command := by
  cases named with
  | registered found placed =>
    obtain ⟨other, same, sits⟩ := step.sits_of_registry found
    cases placed.symm.trans same
    exact sits
  | stored found meant =>
    obtain ⟨other, same, sits⟩ := step.sits_of_aliases found
    cases meant.symm.trans same
    exact sits
  | added inside =>
    exact (step.holds.sits_iff _ _).2
      (List.mem_append_right _ (List.mem_append_right _ (List.mem_map_of_mem inside)))

theorem validatePath_of_isPathWord {path : String}
    (words : ∀ word ∈ Text.spaced path, isPathWord word = true) : validatePath path = .ok () := by
  unfold validatePath
  rw [if_pos (List.all_eq_true.2 words)]

open Evaluate

/-- A full name calls what it names. After any operations on a bot that begins without commands, the
line that is the path calls, for kinds without commands, what the path names, on no arguments; and if
the path is no group, the line of the path and a tail calls it on the arguments that the tail says, for
any kinds. Outcome and world are those of that call, but that the calls on the way record its failure
too. -/
theorem callLine_path (host : Host σ) (depth : Nat) (config : Config) (operations : List Operation)
    {world : World σ} (reached : world.bot = (History.ofOperations config operations).bot)
    {path : String} {command : Command}
    (named : (History.ofOperations config operations).Names path command) (kinds : List Kind) :
    let calls := (world.bot.slotPath path).length + 1
    (.command ∉ kinds →
      (callLine (run host (depth + calls)) ("!" ++ path) kinds).run.run world =
        (Eval.recorded^[calls] (run host depth command [] kinds)).run.run world) ∧
    ((∀ id below, world.bot.groups.top.at? (Text.spaced path) ≠ some (.group id below)) →
      ∀ tail, ∃ arguments,
        (Expr.read ("! " ++ tail)).toCommand = .ok (.applied .root arguments) ∧
        (callLine (run host (depth + calls)) ("!" ++ path ++ " " ++ tail) kinds).run.run world =
          (Eval.recorded^[calls] (run host depth command arguments kinds)).run.run world) := by
  intro calls
  have ordered : world.bot.Ordered := by
    rw [reached]
    exact (reached_ofOperations config operations).ordered
  have sits : world.bot.groups.top.sits? (Text.spaced path) = some command := by
    rw [reached]
    exact named.sits (inStep_ofOperations config operations)
  have valid := validatePath_of_isPathWord (ordered.words _ _ sits)
  have goes : ∀ arguments, (world.bot.groups.top.Leads (Text.spaced path) →
        arguments = [] ∧ kinds.contains .command = false) →
      (run host (depth + calls) (.applied .root ((Text.spaced path).map .literal ++ arguments)) []
          kinds).run.run world =
        (Eval.recorded^[calls] (run host depth command arguments kinds)).run.run world := by
    intro arguments fits
    rw [Function.iterate_succ_apply', ← Nat.add_assoc, run_applied, List.append_nil]
    exact Eval.run_recorded_congr (run_root_path host depth ordered sits fits)
  refine ⟨fun unwanted => ?_, fun single tail => ?_⟩
  · have alone := goes [] fun _ => ⟨rfl, by simpa using unwanted⟩
    rw [List.append_nil] at alone
    exact (run_callLine _ (toCommand_path valid) kinds).trans alone
  · obtain ⟨arguments, said, whole⟩ := exists_arguments valid tail
    refine ⟨arguments, said, ?_⟩
    refine (run_callLine _ whole kinds).trans (goes arguments fun leads => ?_)
    obtain ⟨id, below, found⟩ :=
      (Children.at?_eq_group_iff world.bot.groups.top (Text.spaced_ne_nil path)).2 leads
    exact absurd found (single id below)

def listItems : Documented :=
  ⟨.ofPath "list", Builtin.print.function⟩

def listing : List Operation :=
  [.addCommand "list all" (.literal "all"), .register listItems, .addCommand "listen" .root]

/-- The command below the empty name of a group, beside another command and a longer name. -/
theorem callLine_path_list :
    let history := History.ofOperations .bare listing
    let world := World.start history.bot (.fresh .unlimited none) () 0
    history.Names "list" (.documented listItems) ∧ Kind.command ∉ [Kind.string] ∧
      (callLine (run Host.none (9 + 3)) "!list" [.string]).run.run world =
        (Eval.recorded^[3]
          (run Host.none 9 (.documented listItems) [] [.string])).run.run world := by
  intro history world
  have found : history.bot.registry.get? "list" = some [listItems] := by decide +kernel
  have named : history.Names "list" (.documented listItems) := .registered found rfl
  have way : (world.bot.slotPath "list").length = 2 := by decide +kernel
  have same : world.bot = history.bot := rfl
  have calls := (callLine_path Host.none 9 .bare listing same named [.string]).1 (by decide)
  rw [way] at calls
  exact ⟨named, by decide, calls⟩

end Bot

end ChatLine
