import ChatLine.Builtin.Signature
import ChatLine.Proofs.Bot.Deeds

set_option autoImplicit false

namespace ChatLine

namespace Bot

/-- A bot, and who put the command at each path. -/
structure Estate where
  bot : Bot
  owner : String → Option Owner

namespace Estate

/-- The estate after a deed. A command belongs to who put it there, for as long as it is there. -/
def after (estate : Estate) (deed : Deed) : Estate where
  bot := deed.on estate.bot
  owner path :=
    if ((deed.on estate.bot).commandAt? path).isNone then none
    else
      match deed.puts? estate.bot with
      | some (put, owner) => if path = put then some owner else estate.owner path
      | none => estate.owner path

/-- The estate after deeds on a bot that begins without commands. -/
def ofDeeds (config : Config) (deeds : List Deed) : Estate :=
  deeds.foldl after ⟨.empty config, fun _ => none⟩

/-- The registry lists a path at which there is no command of its own. -/
def Strayed (estate : Estate) (path : String) : Prop :=
  estate.bot.registry.has path = true ∧ estate.owner path ≠ some .registry

/-- Every command has an owner, and the books of its owner tell which command it is. -/
structure Kept (estate : Estate) : Prop where
  ordered : estate.bot.Ordered
  sorted : estate.bot.registry.Sorted
  names : ∀ name text, estate.bot.aliases.get? name = some text → validatePath name = .ok ()
  paths : ∀ names command, estate.bot.groups.top.sits? names = some command →
    ∃ path, Text.spaced path = names
  owned : ∀ path, (estate.owner path).isSome = (estate.bot.commandAt? path).isSome
  registry : ∀ path, estate.owner path = some .registry →
    ∃ commands command, estate.bot.registry.get? path = some commands ∧
      commandFor commands = .ok command ∧ estate.bot.commandAt? path = some command
  aliases : ∀ name, estate.owner name = some .aliases →
    ∃ text command, estate.bot.aliases.get? name = some text ∧
      Command.ofLine text = .ok command ∧ estate.bot.commandAt? name = some command

/-- The deed changes the command of one path, and its owner with it. -/
structure Moves (estate : Estate) (deed : Deed) (path : String) (owner : Option Owner)
    (command : Option Command) : Prop where
  commands : (estate.after deed).bot.commandAt? =
    Function.update estate.bot.commandAt? path command
  owners : (estate.after deed).owner = Function.update estate.owner path owner
  same : owner.isSome = command.isSome

variable {estate : Estate} {deed : Deed} {path : String}

theorem Moves.elsewhere {owner : Option Owner} {command : Option Command} {other : String}
    (moves : estate.Moves deed path owner command) (different : other ≠ path) :
    (estate.after deed).bot.commandAt? other = estate.bot.commandAt? other ∧
      (estate.after deed).owner other = estate.owner other := by
  rw [moves.commands, moves.owners, Function.update_of_ne different,
    Function.update_of_ne different]
  exact ⟨rfl, rfl⟩

namespace Kept

theorem free_iff (kept : estate.Kept) (path : String) :
    estate.owner path = none ↔ estate.bot.commandAt? path = none := by
  rw [← Option.isNone_iff_eq_none, ← Option.isNone_iff_eq_none, ← Option.not_isSome,
    ← Option.not_isSome, kept.owned path]

/-- Who puts a command somewhere owns it, and nobody owns what is taken out. -/
theorem moves (kept : estate.Kept) {later : Bot} (becomes : deed.on estate.bot = later)
    (owner : Option Owner) (command : Option Command)
    (puts : deed.puts? estate.bot = owner.map fun owner => (path, owner))
    (same : owner.isSome = command.isSome)
    (moved : later.commandAt? = Function.update estate.bot.commandAt? path command) :
    estate.Moves deed path owner command := by
  subst becomes
  refine ⟨moved, ?_, same⟩
  funext other
  simp only [after, puts, moved, Function.update_apply]
  by_cases here : other = path
  · rw [if_pos here, if_pos here]
    cases owner with
    | none =>
      cases command with
      | none => rfl
      | some command => cases same
    | some owner =>
      cases command with
      | none => cases same
      | some command => exact if_pos here
  · rw [if_neg here, if_neg here]
    split
    · rename_i nothing
      exact ((kept.free_iff other).2 (Option.isNone_iff_eq_none.1 nothing)).symm
    · cases owner with
      | none => rfl
      | some owner => exact if_neg here

theorem valid_of_has (kept : estate.Kept) (listed : estate.bot.registry.has path = true) :
    validatePath path = .ok () := by
  obtain ⟨commands, found⟩ := Option.ne_none_iff_exists'.1 (NameMap.has_iff.1 listed)
  exact kept.ordered.registry _ (NameMap.mem_of_get? found)

theorem empty (config : Config) : Kept ⟨.empty config, fun _ => none⟩ where
  ordered := .empty config
  sorted := NameMap.sorted_nil
  names := fun _ _ found => nomatch found
  paths := by
    intro names command sits
    have nothing : Children.sits? [] names = some command := sits
    rw [Children.sits?_nil] at nothing
    cases nothing
  owned := by
    intro path
    have nothing : Children.sits? [] (Text.spaced path) = none := Children.sits?_nil _
    exact (congrArg Option.isSome nothing).symm
  registry := fun _ owned => nomatch owned
  aliases := fun _ owned => nomatch owned

theorem paths_put (kept : estate.Kept) (valid : validatePath path = .ok ()) (placed : Command) :
    ∀ names command,
      (estate.bot.groups.put placed (Text.spaced path)).top.sits? names = some command →
      ∃ path, Text.spaced path = names := by
  intro names command sits
  have spec := Children.put_spec kept.ordered.sound (Text.spaced_ne_nil path)
    (named_of_validatePath valid) placed estate.bot.groups.next
  dsimp only [Groups.put] at sits
  rw [spec.2, Function.update_apply] at sits
  split at sits
  · rename_i same
    exact ⟨path, same.symm⟩
  · exact kept.paths names command sits

theorem paths_without (kept : estate.Kept) (path : List String) :
    ∀ names command,
      (estate.bot.groups.without path).top.sits? names = some command →
      ∃ path, Text.spaced path = names :=
  fun names command sits => kept.paths names command (Children.sits?_of_removeAt sits)

/-- The notes stay in step when the command of one path changes, and its owner with it. -/
theorem update (kept : estate.Kept) {owner : Option Owner} {command : Option Command}
    (moves : estate.Moves deed path owner command) {later : Bot}
    (becomes : deed.on estate.bot = later) (ordered : later.Ordered)
    (sorted : later.registry.Sorted)
    (names : ∀ name text, later.aliases.get? name = some text → validatePath name = .ok ())
    (paths : ∀ names command, later.groups.top.sits? names = some command →
      ∃ path, Text.spaced path = names)
    (registry_else : ∀ other, other ≠ path →
      later.registry.get? other = estate.bot.registry.get? other)
    (aliases_else : ∀ other, other ≠ path →
      later.aliases.get? other = estate.bot.aliases.get? other)
    (registry : owner = some .registry →
      ∃ commands placed, later.registry.get? path = some commands ∧
        commandFor commands = .ok placed ∧ command = some placed)
    (aliases : owner = some .aliases →
      ∃ text placed, later.aliases.get? path = some text ∧
        Command.ofLine text = .ok placed ∧ command = some placed) :
    (estate.after deed).Kept := by
  subst becomes
  exact {
    ordered := ordered
    sorted := sorted
    names := names
    paths := paths
    owned := by
      intro other
      rw [moves.owners, moves.commands, Function.update_apply, Function.update_apply]
      split
      · exact moves.same
      · exact kept.owned other
    registry := by
      intro other owned
      rw [moves.commands]
      rw [moves.owners] at owned
      by_cases here : other = path
      · subst here
        rw [Function.update_self] at owned ⊢
        exact registry owned
      · rw [Function.update_of_ne here] at owned ⊢
        obtain ⟨commands, placed, listed, rest⟩ := kept.registry other owned
        exact ⟨commands, placed, (registry_else other here).trans listed, rest⟩
    aliases := by
      intro other owned
      rw [moves.commands]
      rw [moves.owners] at owned
      by_cases here : other = path
      · subst here
        rw [Function.update_self] at owned ⊢
        exact aliases owned
      · rw [Function.update_of_ne here] at owned ⊢
        obtain ⟨text, placed, listed, rest⟩ := kept.aliases other owned
        exact ⟨text, placed, (aliases_else other here).trans listed, rest⟩ }

/-- The notes stay in step when commands are taken out of the tree and the books are left alone. -/
theorem thin (kept : estate.Kept) {later : Estate} (ordered : later.bot.Ordered)
    (books : later.bot.registry = estate.bot.registry ∧ later.bot.aliases = estate.bot.aliases)
    (paths : ∀ names command, later.bot.groups.top.sits? names = some command →
      ∃ path, Text.spaced path = names)
    (left : ∀ path, later.bot.commandAt? path = none ∨
      later.bot.commandAt? path = estate.bot.commandAt? path)
    (owners : ∀ path, later.owner path =
      if (later.bot.commandAt? path).isNone then none else estate.owner path) :
    later.Kept := by
  have stays : ∀ path owner, later.owner path = some owner →
      estate.owner path = some owner ∧
        later.bot.commandAt? path = estate.bot.commandAt? path := by
    intro path owner owned
    rw [owners] at owned
    split at owned
    · cases owned
    · rename_i present
      refine ⟨owned, (left path).resolve_left fun gone => present ?_⟩
      rw [gone]
      rfl
  exact {
    ordered := ordered
    sorted := by
      rw [books.1]
      exact kept.sorted
    names := by
      rw [books.2]
      exact kept.names
    paths := paths
    owned := by
      intro path
      rw [owners]
      rcases left path with gone | same
      · rw [gone]
        rfl
      · rw [same, ← kept.owned path]
        split
        · rename_i nothing
          rw [(kept.free_iff path).2 (Option.isNone_iff_eq_none.1 nothing)]
        · rfl
    registry := by
      intro path owned
      obtain ⟨before, same⟩ := stays path _ owned
      rw [books.1, same]
      exact kept.registry path before
    aliases := by
      intro path owned
      obtain ⟨before, same⟩ := stays path _ owned
      rw [books.2, same]
      exact kept.aliases path before }

/-- A command that is put somewhere is the only one that changes. -/
theorem moves_put (kept : estate.Kept) {owner : Owner} {placed : Command} {later : Bot}
    (becomes : deed.on estate.bot = later) (puts : deed.puts? estate.bot = some (path, owner))
    (valid : validatePath path = .ok ())
    (groups : later.groups = estate.bot.groups.put placed (Text.spaced path)) :
    estate.Moves deed path (some owner) (some placed) := by
  refine kept.moves becomes (some owner) (some placed) puts rfl ?_
  have moved := kept.ordered.commandAt?_put valid placed
  rw [← groups] at moved
  exact moved

/-- A command that the registry takes out is the only one that changes. -/
theorem moves_unregistered (kept : estate.Kept)
    (becomes : deed.on estate.bot =
      ((detach path).run.run { estate.bot with registry := estate.bot.registry.erase path }).2)
    (puts : deed.puts? estate.bot = none) (listed : estate.bot.registry.has path = true) :
    estate.Moves deed path none none :=
  kept.moves becomes none none puts rfl
    ((kept.ordered.eraseRegistry path).commandAt?_detach (kept.valid_of_has listed))

/-- The command of a line that is taken away is the only one that changes. -/
theorem moves_discarded (kept : estate.Kept) {name text : String}
    (becomes : Deed.on estate.bot (.operation (.removeAlias name)) =
      ((detach name).run.run { estate.bot with aliases := estate.bot.aliases.erase name }).2)
    (listed : estate.bot.aliases.get? name = some text) :
    estate.Moves (.operation (.removeAlias name)) name none none := by
  have ordered : Ordered { estate.bot with aliases := estate.bot.aliases.erase name } :=
    { kept.ordered with }
  exact kept.moves becomes none none rfl rfl
    (ordered.commandAt?_detach (kept.names name text listed))

theorem after_registered (kept : estate.Kept) {commands : List Documented} {placed : Command}
    (becomes : deed.on estate.bot = { estate.bot with
      groups := estate.bot.groups.put placed (Text.spaced path)
      registry := estate.bot.registry.set path commands })
    (puts : deed.puts? estate.bot = some (path, .registry)) (valid : validatePath path = .ok ())
    (built : commandFor commands = .ok placed) : (estate.after deed).Kept := by
  refine kept.update (kept.moves_put becomes puts valid rfl) becomes ?_ ?_ ?_ ?_ ?_ ?_ ?_ nofun
  · exact (kept.ordered.put valid placed).setRegistry valid commands
  · exact kept.sorted.set path commands
  · exact kept.names
  · exact kept.paths_put valid placed
  · intro other different
    rw [NameMap.get?_set, if_neg different]
  · exact fun _ _ => rfl
  · intro _
    exact ⟨commands, placed, by rw [NameMap.get?_set, if_pos rfl], built, rfl⟩

theorem after_unregistered (kept : estate.Kept)
    (becomes : deed.on estate.bot =
      ((detach path).run.run { estate.bot with registry := estate.bot.registry.erase path }).2)
    (puts : deed.puts? estate.bot = none) (listed : estate.bot.registry.has path = true) :
    (estate.after deed).Kept := by
  have moves := kept.moves_unregistered becomes puts listed
  refine kept.update moves becomes ?_ ?_ ?_ ?_ ?_ ?_ nofun nofun
  all_goals rw [run_detach]
  · exact (kept.ordered.eraseRegistry path).without _
  · exact kept.sorted.erase path
  · exact kept.names
  · exact kept.paths_without _
  · intro other different
    rw [NameMap.get?_erase, if_neg different]
  · exact fun _ _ => rfl

theorem after_stored (kept : estate.Kept) {name text : String} {command : Command}
    (becomes : deed.on estate.bot = { estate.bot with
      groups := estate.bot.groups.put command (Text.spaced name)
      aliases := estate.bot.aliases.set name text })
    (puts : deed.puts? estate.bot = some (name, .aliases)) (valid : validatePath name = .ok ())
    (meant : Command.ofLine text = .ok command) : (estate.after deed).Kept := by
  refine kept.update (kept.moves_put becomes puts valid rfl) becomes ?_ ?_ ?_ ?_ ?_ ?_ nofun ?_
  · exact { kept.ordered.put valid command with }
  · exact kept.sorted
  · intro other line found
    rw [NameMap.get?_set] at found
    split at found
    · rename_i same
      rw [same]
      exact valid
    · exact kept.names other line found
  · exact kept.paths_put valid command
  · exact fun _ _ => rfl
  · intro other different
    rw [NameMap.get?_set, if_neg different]
  · intro _
    exact ⟨text, command, by rw [NameMap.get?_set, if_pos rfl], meant, rfl⟩

theorem after_discarded (kept : estate.Kept) {name text : String}
    (becomes : Deed.on estate.bot (.operation (.removeAlias name)) =
      ((detach name).run.run { estate.bot with aliases := estate.bot.aliases.erase name }).2)
    (listed : estate.bot.aliases.get? name = some text) :
    (estate.after (.operation (.removeAlias name))).Kept := by
  have ordered : Ordered { estate.bot with aliases := estate.bot.aliases.erase name } :=
    { kept.ordered with }
  have moves := kept.moves_discarded becomes listed
  refine kept.update moves becomes ?_ ?_ ?_ ?_ ?_ ?_ nofun nofun
  all_goals rw [run_detach]
  · exact ordered.without _
  · exact kept.sorted
  · intro other line found
    rw [NameMap.get?_erase] at found
    split at found
    · cases found
    · exact kept.names other line found
  · exact kept.paths_without _
  · exact fun _ _ => rfl
  · intro other different
    rw [NameMap.get?_erase, if_neg different]

theorem after_added (kept : estate.Kept) {command : Command}
    (becomes : deed.on estate.bot =
      { estate.bot with groups := estate.bot.groups.put command (Text.spaced path) })
    (puts : deed.puts? estate.bot = some (path, .application))
    (valid : validatePath path = .ok ()) : (estate.after deed).Kept := by
  refine kept.update (kept.moves_put becomes puts valid rfl) becomes ?_ ?_ ?_ ?_ ?_ ?_ nofun nofun
  · exact kept.ordered.put valid command
  · exact kept.sorted
  · exact kept.names
  · exact kept.paths_put valid command
  · exact fun _ _ => rfl
  · exact fun _ _ => rfl

/-- Every deed keeps the notes of the owners in step with the tree and the books. -/
theorem after (kept : estate.Kept) (deed : Deed) : (estate.after deed).Kept := by
  have effect := deed.effect_on kept.ordered kept.sorted
  have bot_after : (estate.after deed).bot = deed.on estate.bot := rfl
  generalize later_is : deed.on estate.bot = later at effect bot_after
  cases effect with
  | idle puts =>
    refine kept.thin ?_ ?_ ?_ (fun path => .inr ?_) fun path => ?_
    · rw [bot_after]
      exact kept.ordered
    · rw [bot_after]
      exact ⟨rfl, rfl⟩
    · rw [bot_after]
      exact kept.paths
    · rw [bot_after]
    · simp only [Estate.after, puts]
  | registered registry puts valid built free =>
    exact kept.after_registered later_is puts valid built
  | unregistered registry puts listed => exact kept.after_unregistered later_is puts listed
  | stored puts valid meant free => exact kept.after_stored later_is puts valid meant
  | discarded listed => exact kept.after_discarded later_is listed
  | added puts valid free => exact kept.after_added later_is puts valid
  | removed removed =>
    refine kept.thin ?_ ?_ ?_ (fun path => ?_) fun path => ?_
    · rw [bot_after]
      exact invariant_ordered.removeCommand kept.ordered removed
    · rw [bot_after]
      exact ⟨rfl, rfl⟩
    · rw [bot_after]
      exact kept.paths_without _
    · rw [bot_after]
      exact commandAt?_removeCommand estate.bot removed path
    · rfl

theorem foldl (kept : estate.Kept) (deeds : List Deed) : (deeds.foldl Estate.after estate).Kept := by
  induction deeds generalizing estate with
  | nil => exact kept
  | cons deed rest ih => exact ih (kept.after deed)

/-- A command is somewhere exactly if its path has an owner. -/
theorem sits_iff (kept : estate.Kept) (names : List String) :
    (estate.bot.groups.top.sits? names).isSome ↔
      ∃ path, Text.spaced path = names ∧ (estate.owner path).isSome := by
  constructor
  · intro sits
    obtain ⟨command, here⟩ := Option.isSome_iff_exists.1 sits
    obtain ⟨path, rfl⟩ := kept.paths names command here
    exact ⟨path, rfl, (kept.owned path).trans sits⟩
  · rintro ⟨path, rfl, owned⟩
    exact (kept.owned path).symm.trans owned

/-- A path that the registry does not list is refused to it while a command is there. -/
theorem register_refused (kept : estate.Kept) (command : Documented)
    (taken : (estate.owner command.path).isSome)
    (unlisted : estate.bot.registry.get? command.path = none) :
    ∃ error, (Bot.register command).run.run estate.bot = (.error error, estate.bot) := by
  rw [kept.owned] at taken
  rcases register_cases command estate.bot with
    ⟨error, refused⟩ | ⟨placed, result, after, valid, -, -, placing, runs⟩
  · exact ⟨error, refused⟩
  · have fresh : (estate.bot.registeredAt command.path).isEmpty = true := by
      rw [registeredAt, unlisted]
      rfl
    have blocked : ((estate.bot.registeredAt command.path).isEmpty &&
        (estate.bot.groups.top.sits? (Text.spaced command.path)).isSome) = true := by
      rw [fresh, Bool.true_and]
      exact taken
    rw [run_place kept.ordered.sound (named_of_validatePath valid), if_pos blocked] at placing
    cases placing
    exact ⟨_, runs⟩

/-- What may happen to a command that somebody owns: it stays, or the registry deals with a path that
it lists, or it is taken out by name. -/
theorem fate (kept : estate.Kept) {owner : Owner} (owned : estate.owner path = some owner)
    (deed : Deed) :
    ((estate.after deed).bot.commandAt? path = estate.bot.commandAt? path ∧
        (estate.after deed).owner path = some owner) ∨
      (deed.byRegistry = true ∧ estate.bot.registry.has path = true) ∨
      ((estate.after deed).bot.commandAt? path = none ∧
        (deed = .operation (.removeAlias path) ∨ ∃ removed, deed = .removeCommand removed)) := by
  have present : estate.bot.commandAt? path ≠ none := by
    rw [ne_eq, ← kept.free_iff, owned]
    exact Option.some_ne_none owner
  have effect := deed.effect_on kept.ordered kept.sorted
  have bot_after : (estate.after deed).bot = deed.on estate.bot := rfl
  generalize later_is : deed.on estate.bot = later at effect bot_after
  have elsewhere {put : String} {command : Option Command} {here : Option Owner}
      (moves : estate.Moves deed put here command) (different : path ≠ put) :
      (estate.after deed).bot.commandAt? path = estate.bot.commandAt? path ∧
        (estate.after deed).owner path = some owner := by
    rw [← owned]
    exact moves.elsewhere different
  cases effect with
  | idle puts =>
    left
    rw [bot_after]
    refine ⟨rfl, ?_⟩
    simp only [Estate.after, puts, later_is, Option.isNone_iff_eq_none, present, if_false, owned]
  | @registered _ put commands placed registry puts valid built free =>
    by_cases here : path = put
    · subst here
      exact .inr (.inl ⟨registry, NameMap.has_iff.2 fun absent => present (free absent)⟩)
    · exact .inl (elsewhere (kept.moves_put later_is puts valid rfl) here)
  | @unregistered _ put registry puts listed =>
    by_cases here : path = put
    · subst here
      exact .inr (.inl ⟨registry, listed⟩)
    · exact .inl (elsewhere (kept.moves_unregistered later_is puts listed) here)
  | stored puts valid meant free =>
    have moves := kept.moves_put later_is puts valid rfl
    exact .inl (elsewhere moves fun same => present (same ▸ free))
  | @discarded name text listed =>
    have moves := kept.moves_discarded later_is listed
    by_cases here : path = name
    · subst here
      right
      right
      rw [moves.commands, Function.update_self]
      exact ⟨rfl, .inl rfl⟩
    · exact .inl (elsewhere moves here)
  | added puts valid free =>
    have moves := kept.moves_put later_is puts valid rfl
    exact .inl (elsewhere moves fun same => present (same ▸ free))
  | removed removed =>
    rcases commandAt?_removeCommand estate.bot removed path with gone | same
    · right
      right
      rw [bot_after]
      exact ⟨gone, .inr ⟨removed, rfl⟩⟩
    · left
      rw [bot_after]
      refine ⟨same, ?_⟩
      simp only [Estate.after, later_is, same, Option.isNone_iff_eq_none, present, if_false]
      exact owned

/-- What the registry lists after a deed it listed before, unless it has just put a command there. -/
theorem has_of_after (kept : estate.Kept) {deed : Deed}
    (listed : (estate.after deed).bot.registry.has path = true) :
    (estate.after deed).owner path = some .registry ∨
      (estate.bot.registry.has path = true ∧
        (deed.byRegistry = true → (estate.after deed).owner path = estate.owner path)) := by
  have effect := deed.effect_on kept.ordered kept.sorted
  have bot_after : (estate.after deed).bot = deed.on estate.bot := rfl
  rw [bot_after, NameMap.has_iff] at listed
  generalize later_is : deed.on estate.bot = later at effect listed
  cases effect with
  | idle puts =>
    refine .inr ⟨NameMap.has_iff.2 listed, fun _ => ?_⟩
    simp only [Estate.after, puts, later_is]
    split
    · rename_i nothing
      exact ((kept.free_iff path).2 (Option.isNone_iff_eq_none.1 nothing)).symm
    · rfl
  | @registered _ put commands placed registry puts valid built free =>
    have moves := kept.moves_put later_is puts valid rfl
    by_cases here : path = put
    · subst here
      rw [moves.owners]
      exact .inl (Function.update_self _ _ _)
    · rw [NameMap.get?_set, if_neg here] at listed
      exact .inr ⟨NameMap.has_iff.2 listed, fun _ => (moves.elsewhere here).2⟩
  | @unregistered _ put registry puts put_listed =>
    have moves := kept.moves_unregistered later_is puts put_listed
    rw [run_detach, NameMap.get?_erase] at listed
    by_cases here : path = put
    · rw [if_pos here] at listed
      exact absurd rfl listed
    · rw [if_neg here] at listed
      exact .inr ⟨NameMap.has_iff.2 listed, fun _ => (moves.elsewhere here).2⟩
  | stored => exact .inr ⟨NameMap.has_iff.2 listed, nofun⟩
  | discarded => exact .inr ⟨NameMap.has_iff.2 listed, nofun⟩
  | added => exact .inr ⟨NameMap.has_iff.2 listed, nofun⟩
  | removed => exact .inr ⟨NameMap.has_iff.2 listed, nofun⟩

/-- A path strays only when the registry's command is taken out by somebody else. -/
theorem strayed_of_after (kept : estate.Kept) {deed : Deed}
    (strayed : (estate.after deed).Strayed path) :
    estate.Strayed path ∨
      (estate.owner path = some .registry ∧ (estate.after deed).bot.commandAt? path = none ∧
        (deed = .operation (.removeAlias path) ∨ ∃ removed, deed = .removeCommand removed)) := by
  obtain ⟨listed, other⟩ := strayed
  obtain ⟨before, same⟩ := (kept.has_of_after listed).resolve_left other
  by_cases owned : estate.owner path = some .registry
  · right
    rcases kept.fate owned deed with ⟨-, stays⟩ | ⟨registry, -⟩ | taken
    · exact absurd stays other
    · exact absurd ((same registry).trans owned) other
    · exact ⟨owned, taken⟩
  · exact .inl ⟨before, owned⟩

end Kept

/-- Both books list only paths with a command of their own. -/
structure Tidy (estate : Estate) : Prop where
  registry : ∀ path, estate.bot.registry.has path = true → estate.owner path = some .registry
  aliases : ∀ name, estate.bot.aliases.has name = true → estate.owner name = some .aliases

/-- A name is not in the table of stored lines when its line was taken away. -/
theorem get?_removeAlias (bot : Bot) (name : String) :
    ((Bot.removeAlias name).run.run bot).2.aliases.get? name = none := by
  rw [run_removeAlias]
  cases found : bot.aliases.get? name with
  | none => exact found
  | some text =>
    have gone := run_detach { bot with aliases := bot.aliases.erase name } name
    dsimp only
    generalize (detach name).run.run { bot with aliases := bot.aliases.erase name } = made
      at gone ⊢
    obtain ⟨error | done, later⟩ := made <;>
    · dsimp only at gone ⊢
      rw [gone]
      dsimp only
      rw [NameMap.get?_erase, if_pos rfl]

theorem Kept.has_alias_of_after (kept : estate.Kept) {name : String}
    (listed : (estate.after deed).bot.aliases.has name = true) :
    (estate.after deed).owner name = some .aliases ∨ estate.bot.aliases.has name = true := by
  have effect := deed.effect_on kept.ordered kept.sorted
  have bot_after : (estate.after deed).bot = deed.on estate.bot := rfl
  rw [bot_after, NameMap.has_iff] at listed
  generalize later_is : deed.on estate.bot = later at effect listed
  cases effect with
  | @stored put text command puts valid meant free =>
    have moves := kept.moves_put later_is puts valid rfl
    by_cases here : name = put
    · subst here
      rw [moves.owners]
      exact .inl (Function.update_self _ _ _)
    · rw [NameMap.get?_set, if_neg here] at listed
      exact .inr (NameMap.has_iff.2 listed)
  | @discarded other text other_listed =>
    rw [run_detach, NameMap.get?_erase] at listed
    split at listed
    · exact absurd rfl listed
    · exact .inr (NameMap.has_iff.2 listed)
  | idle => exact .inr (NameMap.has_iff.2 listed)
  | registered => exact .inr (NameMap.has_iff.2 listed)
  | unregistered => exact .inr (NameMap.has_iff.2 listed)
  | added => exact .inr (NameMap.has_iff.2 listed)
  | removed => exact .inr (NameMap.has_iff.2 listed)

/-- As long as nothing is removed without regard to the books, they are tidy. -/
theorem Tidy.after (tidy : estate.Tidy) (kept : estate.Kept) (change : Operation) :
    (estate.after (.operation change)).Tidy where
  registry := by
    intro path listed
    refine Decidable.byContradiction fun other => ?_
    rcases kept.strayed_of_after ⟨listed, other⟩ with ⟨before, elsewhere⟩ | ⟨owned, gone, taken⟩
    · exact elsewhere (tidy.registry path before)
    · obtain ⟨rfl⟩ | ⟨removed, absurd⟩ := taken.imp_left Deed.operation.inj
      · have unlisted : estate.bot.aliases.get? path = none := by
          refine Decidable.byContradiction fun found => ?_
          have mine := tidy.aliases path (NameMap.has_iff.2 found)
          rw [owned] at mine
          cases mine
        have idle := run_removeAlias path estate.bot
        rw [unlisted] at idle
        have same : (estate.after (.operation (.removeAlias path))).bot = estate.bot :=
          congrArg Prod.snd idle
        rw [same, ← kept.free_iff, owned] at gone
        cases gone
      · cases absurd
  aliases := by
    intro name listed
    rcases kept.has_alias_of_after listed with mine | before
    · exact mine
    · have owned := tidy.aliases name before
      rcases kept.fate owned (.operation change) with ⟨-, stays⟩ | ⟨-, registered⟩ | ⟨-, taken⟩
      · exact stays
      · have other := tidy.registry name registered
        rw [owned] at other
        cases other
      · obtain ⟨rfl⟩ | ⟨removed, absurd⟩ := taken.imp_left Deed.operation.inj
        · exact (NameMap.has_iff.1 listed (get?_removeAlias estate.bot name)).elim
        · cases absurd

theorem Tidy.foldl (tidy : estate.Tidy) (kept : estate.Kept) (deeds : List Deed)
    (regardful : ∀ removed, .removeCommand removed ∉ deeds) :
    (deeds.foldl Estate.after estate).Tidy := by
  induction deeds generalizing estate with
  | nil => exact tidy
  | cons deed rest ih =>
    have rest_regardful := fun removed inside =>
      regardful removed (List.mem_cons_of_mem deed inside)
    cases deed with
    | operation change => exact ih (tidy.after kept change) (kept.after _) rest_regardful
    | removeCommand path => exact absurd List.mem_cons_self (regardful path)

theorem Tidy.empty (config : Config) : Tidy ⟨.empty config, fun _ => none⟩ where
  registry := fun _ listed => nomatch listed
  aliases := fun _ listed => nomatch listed

/-- After any deeds on a bot that begins without commands, whether they succeeded or failed, every
command in the tree has one owner, and where this is the registry or the table of stored lines, its
book tells which command it is.

The registry lists a path for its own until it is unregistered, whatever happened in the tree. At a
path that it does not list, or where the command is its own, it respects the other owners: it is
refused a path that is taken, and none of its deeds moves a command of somebody else. A stored line
keeps its command there until it is taken away by its name or as part of what is at a path.

A path strays, listed by the registry without a command of its own, only when that command is taken
out in one of these two ways. Without the removal of whatever is at a path none does, and every
stored line has its command. -/
theorem owners_ofDeeds (config : Config) (deeds : List Deed) :
    let estate := ofDeeds config deeds
    (∀ names, (estate.bot.groups.top.sits? names).isSome ↔
      ∃ path, Text.spaced path = names ∧ (estate.owner path).isSome) ∧
    (∀ path, estate.owner path = some .registry →
      ∃ commands command, estate.bot.registry.get? path = some commands ∧
        commandFor commands = .ok command ∧ estate.bot.commandAt? path = some command) ∧
    (∀ name, estate.owner name = some .aliases →
      ∃ text command, estate.bot.aliases.get? name = some text ∧
        Command.ofLine text = .ok command ∧ estate.bot.commandAt? name = some command) ∧
    (∀ command owner, estate.owner command.path = some owner → owner ≠ .registry →
      ¬ estate.Strayed command.path →
      ∃ error, (Bot.register command).run.run estate.bot = (.error error, estate.bot)) ∧
    (∀ deed path owner, deed.byRegistry = true → estate.owner path = some owner →
      owner ≠ .registry → ¬ estate.Strayed path →
      (estate.after deed).bot.commandAt? path = estate.bot.commandAt? path ∧
        (estate.after deed).owner path = some owner) ∧
    (∀ deed name, estate.owner name = some .aliases → ¬ estate.Strayed name →
      (estate.after deed).bot.commandAt? name = estate.bot.commandAt? name ∧
          (estate.after deed).owner name = some .aliases ∨
        (estate.after deed).bot.commandAt? name = none ∧
          (deed = .operation (.removeAlias name) ∨ ∃ removed, deed = .removeCommand removed)) ∧
    (∀ deed path, (estate.after deed).Strayed path →
      estate.Strayed path ∨
        estate.owner path = some .registry ∧ (estate.after deed).bot.commandAt? path = none ∧
          (deed = .operation (.removeAlias path) ∨ ∃ removed, deed = .removeCommand removed)) ∧
    ((∀ removed, .removeCommand removed ∉ deeds) →
      (∀ path, ¬ estate.Strayed path) ∧
      ∀ name, estate.bot.aliases.has name = true → estate.owner name = some .aliases) := by
  intro estate
  have kept : estate.Kept := (Kept.empty config).foldl deeds
  refine ⟨kept.sits_iff, kept.registry, kept.aliases, ?refused, ?spared, ?stored,
    fun _ _ => kept.strayed_of_after, ?tidy⟩
  case refused =>
    intro command owner owned foreign respected
    refine kept.register_refused command (by rw [owned]; rfl) ?_
    refine Decidable.byContradiction fun listed => respected ⟨NameMap.has_iff.2 listed, ?_⟩
    rw [owned]
    exact fun same => foreign (Option.some.inj same)
  case spared =>
    intro deed path owner registry owned foreign respected
    rcases kept.fate owned deed with stays | ⟨-, listed⟩ | ⟨-, taken⟩
    · exact stays
    · refine absurd ⟨listed, ?_⟩ respected
      rw [owned]
      exact fun same => foreign (Option.some.inj same)
    · rcases taken with rfl | ⟨removed, rfl⟩ <;> cases registry
  case stored =>
    intro deed name owned respected
    rcases kept.fate owned deed with stays | ⟨-, listed⟩ | taken
    · exact .inl stays
    · refine absurd ⟨listed, ?_⟩ respected
      rw [owned]
      exact fun same => nomatch same
    · exact .inr taken
  case tidy =>
    intro regardful
    have tidy : estate.Tidy := (Tidy.empty config).foldl (Kept.empty config) deeds regardful
    exact ⟨fun path strayed => strayed.2 (tidy.registry path strayed.1), tidy.aliases⟩

def hiTexts : Documented := ⟨.ofPath "hi", Builtin.print.function⟩

def hiName : Documented := ⟨.ofPath "hi", Builtin.aliasRemove.function⟩

/-- A registered command is taken out of the tree, and a line is stored at its path. -/
def straying : List Deed :=
  [.operation (.register hiTexts), .removeCommand "hi", .operation (.addAlias "hi" "!print a")]

/-- The registry overwrites the command of a stored line at a path that strayed, and removes it. -/
theorem register_takes_strayed :
    let estate := ofDeeds .bare straying
    estate.owner "hi" = some .aliases ∧ estate.Strayed "hi" ∧
      ((Bot.register hiName).run.run estate.bot).1 = .ok () ∧
      (estate.after (.operation (.register hiName))).owner "hi" = some .registry ∧
      (estate.after (.operation (.register hiName))).bot.aliases.has "hi" = true ∧
      (estate.after (.operation (.unregister "hi"))).bot.commandAt? "hi" = none ∧
      (estate.after (.operation (.unregister "hi"))).bot.aliases.has "hi" = true := by
  intro estate
  refine ⟨by decide +kernel, ⟨by decide +kernel, by decide +kernel⟩, by decide +kernel,
    by decide +kernel, by decide +kernel, ?_, by decide +kernel⟩
  rw [← Option.not_isSome_iff_eq_none]
  decide +kernel

end Estate

end Bot

end ChatLine
