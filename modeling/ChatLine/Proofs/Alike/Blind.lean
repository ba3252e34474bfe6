import ChatLine.Builtin.Catalog
import ChatLine.Proofs.Alike.Worlds
import ChatLine.World

set_option autoImplicit false

namespace ChatLine

variable {σ α β : Type}

open Command

/-- Two pieces of code make requests that are alike, and end with values that are related. -/
inductive Program.Alike (states : Matching → σ → σ → Prop) (rel : Matching → α → α → Prop) :
    Matching → Program σ α → Program σ α → Prop
  | done {matching : Matching} {value other : α} (related : rel matching value other) :
    Alike states rel matching (.done value) (.done other)
  | call {matching : Matching} {scopes otherScopes : List Scope} {command other : Command}
    {arguments others : List Command} {kinds : List Kind} {next otherNext : Outcome → Program σ α}
    (changes : List.Forall₂ (Scope.Alike matching) scopes otherScopes)
    (callees : command.Alike matching other) (given : AllAlike matching arguments others)
    (rest : ∀ later outcome otherOutcome, matching.Grows later →
      Outcome.Alike later outcome otherOutcome →
        Alike states rel later (next outcome) (otherNext otherOutcome)) :
    Alike states rel matching (.call scopes command arguments kinds next)
      (.call otherScopes other others kinds otherNext)
  | line {matching : Matching} {text : String} {kinds : List Kind}
    {next otherNext : Outcome → Program σ α}
    (rest : ∀ later outcome otherOutcome, matching.Grows later →
      Outcome.Alike later outcome otherOutcome →
        Alike states rel later (next outcome) (otherNext otherOutcome)) :
    Alike states rel matching (.line text kinds next) (.line text kinds otherNext)
  | look {matching : Matching} {next otherNext : Bot → Context → Program σ α}
    (rest : ∀ bot context other, bot.groups.Only (fun command => command.Alike matching command) →
      context.Alike matching other →
        Alike states rel matching (next bot context) (otherNext bot other)) :
    Alike states rel matching (.look next) (.look otherNext)
  | spend {matching : Matching} {tokens : Nat} {next otherNext : Bool → Program σ α}
    (rest : ∀ enough, Alike states rel matching (next enough) (otherNext enough)) :
    Alike states rel matching (.spend tokens next) (.spend tokens otherNext)
  | administrator {matching : Matching} {next otherNext : Bool → Program σ α}
    (rest : ∀ answer, Alike states rel matching (next answer) (otherNext answer)) :
    Alike states rel matching (.administrator next) (.administrator otherNext)
  | draw {matching : Matching} {low high : Int} {next otherNext : Int → Program σ α}
    (rest : ∀ value, Alike states rel matching (next value) (otherNext value)) :
    Alike states rel matching (.draw low high next) (.draw low high otherNext)
  | addAlias {matching : Matching} {name text : String}
    {next otherNext : Except CommandError Unit → Program σ α}
    (rest : ∀ result, Alike states rel matching (next result) (otherNext result)) :
    Alike states rel matching (.addAlias name text next) (.addAlias name text otherNext)
  | removeAlias {matching : Matching} {name : String}
    {next otherNext : Except CommandError String → Program σ α}
    (rest : ∀ result, Alike states rel matching (next result) (otherNext result)) :
    Alike states rel matching (.removeAlias name next) (.removeAlias name otherNext)
  | change {matching : Matching} {update otherUpdate : σ → σ} {next otherNext : σ → Program σ α}
    (updates : ∀ state other, states matching state other →
      states matching (update state) (otherUpdate other))
    (rest : ∀ state other, states matching state other →
      Alike states rel matching (next state) (otherNext other)) :
    Alike states rel matching (.change update next) (.change otherUpdate otherNext)

/-- The functions and the commands of the application are blind. They may know the cells below
`base`, which belong to themselves. -/
structure Host.Blind (states : Matching → σ → σ → Prop) (base : Nat) (host : Host σ) : Prop where
  native : ∀ index matching bindings others, (∀ cell, cell < base → matching.live cell cell) →
    Bindings.Alike matching bindings others →
      Program.Alike states (fun matching => Ended (Value.Alike matching)) matching
        (host.native index bindings).run (host.native index others).run
  foreign : ∀ index code matching arguments others kinds, host.foreign index = some code →
    (∀ cell, cell < base → matching.live cell cell) → AllAlike matching arguments others →
      Program.Alike states Outcome.Alike matching (code arguments kinds) (code others kinds)

theorem Program.Alike.bind {states : Matching → σ → σ → Prop} {rel : Matching → α → α → Prop}
    {goal : Matching → β → β → Prop} {matching : Matching} {program other : Program σ α}
    {next otherNext : α → Program σ β} (alike : Program.Alike states rel matching program other)
    (rest : ∀ later value otherValue, matching.Grows later → rel later value otherValue →
      Program.Alike states goal later (next value) (otherNext otherValue)) :
    Program.Alike states goal matching (program.bind next) (other.bind otherNext) := by
  induction alike with
  | done related => exact rest _ _ _ (.refl _) related
  | call changes callees given _ ih =>
    refine .call changes callees given ?_
    intro later outcome otherOutcome grows outcomes
    apply ih later outcome otherOutcome grows outcomes
    exact fun last value otherValue growsMore => rest last value otherValue (grows.trans growsMore)
  | line _ ih =>
    refine .line ?_
    intro later outcome otherOutcome grows outcomes
    apply ih later outcome otherOutcome grows outcomes
    exact fun last value otherValue growsMore => rest last value otherValue (grows.trans growsMore)
  | look _ ih =>
    exact .look fun bot context other only same => ih bot context other only same rest
  | spend _ ih => exact .spend fun enough => ih enough rest
  | administrator _ ih => exact .administrator fun answer => ih answer rest
  | draw _ ih => exact .draw fun value => ih value rest
  | addAlias _ ih => exact .addAlias fun result => ih result rest
  | removeAlias _ ih => exact .removeAlias fun result => ih result rest
  | change updates _ ih => exact .change updates fun state other same => ih state other same rest

namespace Native

variable {states : Matching → σ → σ → Prop} {rel : Matching → α → α → Prop} {matching : Matching}

def Alike (states : Matching → σ → σ → Prop) (rel : Matching → α → α → Prop) (matching : Matching)
    (native other : Native σ α) : Prop :=
  Program.Alike states (fun matching => Ended (rel matching)) matching native.run other.run

theorem alike_pure {value other : α} (related : rel matching value other) :
    Alike states rel matching (pure value) (pure other) :=
  .done (.ok related)

theorem alike_fail (error : CommandError) : Alike states rel matching (fail error) (fail error) :=
  .done (.error _)

theorem alike_ofExcept {result other : Except CommandError α}
    (ended : Ended (rel matching) result other) :
    Alike states rel matching (ofExcept result) (ofExcept other) := by
  cases ended with
  | ok related => exact alike_pure related
  | error error => exact alike_fail error

theorem Alike.bind {goal : Matching → β → β → Prop} {native other : Native σ α}
    {next otherNext : α → Native σ β} (alike : Alike states rel matching native other)
    (rest : ∀ later value otherValue, matching.Grows later → rel later value otherValue →
      Alike states goal later (next value) (otherNext otherValue)) :
    Alike states goal matching (native >>= next) (other >>= otherNext) := by
  refine Program.Alike.bind alike ?_
  intro later result otherResult grows ended
  cases ended with
  | ok related => exact rest later _ _ grows related
  | error failure => exact .done (.error failure)

theorem Alike.bind_eq {goal : Matching → β → β → Prop} {native other : Native σ α}
    {next otherNext : α → Native σ β} (alike : Alike states (fun _ => Eq) matching native other)
    (rest : ∀ later value, matching.Grows later →
      Alike states goal later (next value) (otherNext value)) :
    Alike states goal matching (native >>= next) (other >>= otherNext) := by
  refine alike.bind ?_
  rintro later value _ grows rfl
  exact rest later value grows

theorem alike_same {goal : Matching → β → β → Prop} {result : Except CommandError α}
    {next otherNext : α → Native σ β}
    (rest : ∀ value, Alike states goal matching (next value) (otherNext value)) :
    Alike states goal matching (ofExcept result >>= next) (ofExcept result >>= otherNext) := by
  cases result with
  | ok value => exact rest value
  | error error => exact alike_fail error

theorem alike_discard {native other : Native σ α} (alike : Alike states rel matching native other) :
    Alike states (fun _ => Eq) matching (discard native) (discard other) :=
  alike.bind fun _ _ _ _ _ => alike_pure rfl

theorem alike_callWithin {scopes otherScopes : List Scope} {command other : Command}
    {arguments others : List Command} (kinds : List Kind)
    (changes : List.Forall₂ (Scope.Alike matching) scopes otherScopes)
    (callees : command.Alike matching other) (given : AllAlike matching arguments others) :
    Alike states Reply.Alike matching (callWithin scopes command arguments kinds)
      (callWithin otherScopes other others kinds) :=
  .call changes callees given fun _ _ _ _ outcomes => alike_ofExcept outcomes

theorem alike_call {command other : Command} {arguments others : List Command} (kinds : List Kind)
    (callees : command.Alike matching other) (given : AllAlike matching arguments others) :
    Alike states Reply.Alike matching (call command arguments kinds) (call other others kinds) :=
  alike_callWithin kinds .nil callees given

theorem alike_callLine (text : String) (kinds : List Kind) :
    Alike states Reply.Alike matching (callLine text kinds) (callLine text kinds) :=
  .line fun _ _ _ _ outcomes => alike_ofExcept outcomes

theorem alike_bot : Alike states (fun _ => Eq) matching bot bot :=
  .look fun _ _ _ _ _ => .done (.ok rfl)

theorem alike_context : Alike states Context.Alike matching context context :=
  .look fun _ _ _ _ same => .done (.ok same)

theorem alike_draw (low high : Int) :
    Alike states (fun _ => Eq) matching (draw low high) (draw low high) :=
  .draw fun _ => .done (.ok rfl)

theorem alike_addAlias (name text : String) :
    Alike states (fun _ => Eq) matching (addAlias name text) (addAlias name text) := by
  refine .addAlias fun result => ?_
  cases result with
  | ok value => exact .done (.ok rfl)
  | error error => exact .done (.error _)

theorem alike_removeAlias (name : String) :
    Alike states (fun _ => Eq) matching (removeAlias name) (removeAlias name) := by
  refine .removeAlias fun result => ?_
  cases result with
  | ok value => exact .done (.ok rfl)
  | error error => exact .done (.error _)

/-- Replies that are alike are read as the same text, or refused in the same words. -/
theorem requireText_eq {reply otherReply : Reply} {command other : Command} (groups : Groups)
    (replies : reply.Alike matching otherReply) (commands : command.Alike matching other) :
    reply.requireText (Command.describe groups) command =
      otherReply.requireText (Command.describe groups) other := by
  have title := (commands.sameTitle groups).1
  cases replies with
  | text text => rfl
  | nothing => simp only [Reply.requireText, title, Reply.kind]
  | command alike => simp only [Reply.requireText, title, Reply.kind]
  | items items => simp only [Reply.requireText, title, Reply.kind]
  | extension kind payload => simp only [Reply.requireText, title, Reply.kind]

theorem alike_text {command other : Command} (alike : command.Alike matching other) :
    Alike states (fun _ => Eq) matching (text command) (text other) := by
  refine (alike_call [.string] alike .nil).bind fun later reply otherReply grows replies => ?_
  refine alike_bot.bind_eq fun last bot growsMore => ?_
  have commands := alike.mono (grows.trans growsMore).le
  rw [requireText_eq bot.groups (replies.mono growsMore.le) commands]
  exact alike_ofExcept (.self _)

theorem alike_texts {commands others : List Command} (alike : AllAlike matching commands others) :
    Alike states (fun _ => Eq) matching (texts commands) (texts others) := by
  induction commands generalizing others matching with
  | nil =>
    cases alike
    exact alike_pure rfl
  | cons command commands ih =>
    cases alike with
    | cons one rest =>
      refine (alike_text one).bind_eq fun later first grows => ?_
      refine (ih (AllAlike.mono grows.le rest)).bind_eq fun last texts _ => ?_
      exact alike_pure rfl

end Native

section Bindings

variable {matching : Matching} {bindings others : Bindings}

/-- A reading of one binding that does not look at commands is the same for bindings that are alike. -/
theorem read_eq (alike : Bindings.Alike matching bindings others)
    {read : Binding → Except CommandError α}
    (blind : ∀ given otherGiven, read (.arguments given) = read (.arguments otherGiven))
    (index : Nat) : bindings.lookup index >>= read = others.lookup index >>= read := by
  have found := getElem?_rel alike index
  unfold Bindings.lookup
  generalize bindings[index]? = first at found ⊢
  generalize others[index]? = second at found ⊢
  cases found with
  | none => rfl
  | some one =>
    cases one with
    | arguments same => exact blind _ _
    | same plain => rfl

theorem text?_eq (alike : Bindings.Alike matching bindings others) (index : Nat) :
    bindings.text? index = others.text? index :=
  read_eq alike (fun _ _ => rfl) index

theorem text_eq (alike : Bindings.Alike matching bindings others) (index : Nat) :
    bindings.text index = others.text index := by
  unfold Bindings.text
  rw [text?_eq alike]

theorem int?_eq (alike : Bindings.Alike matching bindings others) (index : Nat) :
    bindings.int? index = others.int? index :=
  read_eq alike (fun _ _ => rfl) index

theorem int_eq (alike : Bindings.Alike matching bindings others) (index : Nat) :
    bindings.int index = others.int index := by
  unfold Bindings.int
  rw [int?_eq alike]

theorem tail_eq (alike : Bindings.Alike matching bindings others) (index : Nat) :
    bindings.tail index = others.tail index :=
  read_eq alike (fun _ _ => rfl) index

theorem kinds_eq (alike : Bindings.Alike matching bindings others) (index : Nat) :
    bindings.kinds index = others.kinds index :=
  read_eq alike (fun _ _ => rfl) index

theorem arguments_alike (alike : Bindings.Alike matching bindings others) (index : Nat) :
    Ended (AllAlike matching) (bindings.arguments index) (others.arguments index) := by
  have found := getElem?_rel alike index
  unfold Bindings.arguments Bindings.lookup
  generalize bindings[index]? = first at found ⊢
  generalize others[index]? = second at found ⊢
  cases found with
  | none => exact .error _
  | @some binding _ one =>
    cases one with
    | arguments same => exact .ok same
    | same plain =>
      cases binding with
      | arguments given => exact absurd rfl (plain given)
      | _ => exact .error _

end Bindings

namespace Builtin

open Native

variable {states : Matching → σ → σ → Prop} {matching : Matching} {arguments others : List Command}

theorem Choose.alike_run (alike : AllAlike matching arguments others) (kinds : List Kind) :
    Alike states Reply.Alike matching (run arguments kinds) (run others kinds) := by
  rcases alike with _ | ⟨left, _ | ⟨comparator, _ | ⟨right, _ | ⟨onTrue, rest⟩⟩⟩⟩
  · exact alike_fail _
  · exact alike_fail _
  · exact alike_fail _
  · exact alike_fail _
  · refine (alike_text left).bind_eq fun _ leftText grows₁ => ?_
    refine (alike_text (comparator.mono grows₁.le)).bind_eq fun _ name grows₂ => ?_
    have grows := grows₁.trans grows₂
    refine (alike_text (right.mono grows.le)).bind_eq fun _ rightText grows₃ => ?_
    replace grows := grows.trans grows₃
    cases Comparator.ofText? name with
    | none => exact alike_fail _
    | some comparator =>
      dsimp only
      cases comparator.holds (order leftText rightText) with
      | true => exact alike_call kinds (onTrue.mono grows.le) .nil
      | false =>
        cases rest with
        | cons onFalse _ => exact alike_call kinds (onFalse.mono grows.le) .nil
        | nil =>
          cases kinds.contains .empty with
          | true => exact alike_pure Reply.Alike.nothing
          | false => exact alike_fail _

theorem Take.alike_natural {argument other : Command} (alike : argument.Alike matching other)
    (what : String) :
    Alike states (fun _ => Eq) matching (natural argument what) (natural other what) := by
  refine (alike_text alike).bind_eq fun _ text _ => ?_
  split
  · exact alike_pure rfl
  · exact alike_fail _

theorem Take.alike_deliver (count start : Nat) (delimiter : Option String) {text other : Command}
    (alike : text.Alike matching other) (kinds : List Kind) :
    Alike states Reply.Alike matching (deliver count start delimiter text kinds)
      (deliver count start delimiter other kinds) := by
  refine (alike_text alike).bind_eq fun _ text _ => ?_
  split
  · exact alike_fail _
  · split
    · rename_i taken _ reply answered
      obtain ⟨kind, _, made⟩ := List.exists_of_findSome?_eq_some answered
      cases kind with
      | string =>
        cases made
        exact alike_pure (.text _)
      | enumerable =>
        cases made
        exact alike_pure (.items _)
      | _ => cases made
    · exact alike_fail _

theorem Take.alike_run (alike : AllAlike matching arguments others) (kinds : List Kind) :
    Alike states Reply.Alike matching (run arguments kinds) (run others kinds) := by
  rcases alike with _ | ⟨count, _ | ⟨second, _ | ⟨third, _ | ⟨fourth, rest⟩⟩⟩⟩
  · exact alike_fail _
  · exact alike_fail _
  · refine (alike_natural count "count").bind_eq fun _ number grows => ?_
    exact alike_deliver number 0 none (second.mono grows.le) kinds
  · refine (alike_natural count "count").bind_eq fun _ number grows => ?_
    refine (alike_natural (second.mono grows.le) "start").bind_eq fun _ start grows₂ => ?_
    exact alike_deliver number start none (third.mono (grows.trans grows₂).le) kinds
  · refine (alike_natural count "count").bind_eq fun _ number grows => ?_
    refine (alike_natural (second.mono grows.le) "start").bind_eq fun _ start grows₂ => ?_
    replace grows := grows.trans grows₂
    refine (alike_text (third.mono grows.le)).bind_eq fun _ delimiter grows₃ => ?_
    exact alike_deliver number start (some delimiter) (fourth.mono (grows.trans grows₃).le) kinds

theorem Eval.alike_run (alike : AllAlike matching arguments others) (kinds : List Kind) :
    Alike states Reply.Alike matching (run arguments kinds) (run others kinds) := by
  cases alike with
  | nil => exact alike_fail _
  | cons first rest =>
    refine (alike_call _ first .nil).bind fun later reply other grows replies => ?_
    have rest := AllAlike.mono grows.le rest
    cases replies with
    | command command => exact alike_call kinds command rest
    | text head =>
      exact (alike_texts rest).bind_eq fun _ texts _ => alike_callLine _ kinds
    | _ => exact alike_fail _

theorem Parameter.alike_run (index : Int) (kinds : List Kind) :
    Alike states Reply.Alike matching (run index kinds) (run index kinds) := by
  refine alike_context.bind fun later context other grows contexts => ?_
  have frames := contexts.frames
  generalize context.frames = first at frames
  generalize other.frames = second at frames
  cases frames with
  | nil => exact alike_fail _
  | @cons frame otherFrame _ _ same _ =>
    have found : Option.Rel (Command.Alike later) (find? frame index) (find? otherFrame index) := by
      unfold find?
      split
      · exact .none
      · exact getElem?_rel same _
    dsimp only
    generalize find? frame index = first at found ⊢
    generalize find? otherFrame index = second at found ⊢
    cases found with
    | none => exact alike_fail _
    | some argument => exact alike_callWithin kinds (.cons .outer .nil) argument .nil

theorem RunAll.alike_run (alike : AllAlike matching arguments others) :
    Alike states (fun _ => Eq) matching (run arguments) (run others) := by
  induction arguments generalizing others matching with
  | nil =>
    cases alike
    exact alike_pure rfl
  | cons command rest ih =>
    cases alike with
    | cons one others =>
      refine (alike_discard (alike_call anyKind one .nil)).bind_eq fun later _ grows => ?_
      exact ih (AllAlike.mono grows.le others)

/-- No built-in command can tell cells apart. -/
theorem alike_native (builtin : Builtin) {bindings others : Bindings}
    (alike : Bindings.Alike matching bindings others) :
    Alike states Value.Alike matching (builtin.native bindings) (builtin.native others) := by
  have plain (matching : Matching) {value : Value} (other : ∀ reply, value ≠ .reply reply) :
      Alike states Value.Alike matching (pure value) (pure value) :=
    alike_pure (.same other)
  cases builtin with
  | eval =>
    refine (alike_ofExcept (arguments_alike alike 1)).bind fun _ given otherGiven _ same => ?_
    rw [kinds_eq alike]
    refine alike_same fun kinds => ?_
    exact (Eval.alike_run same kinds).bind fun _ _ _ _ replies => alike_pure (.reply replies)
  | choose =>
    refine (alike_ofExcept (arguments_alike alike 1)).bind fun _ given otherGiven _ same => ?_
    rw [kinds_eq alike]
    refine alike_same fun kinds => ?_
    exact (Choose.alike_run same kinds).bind fun _ _ _ _ replies => alike_pure (.reply replies)
  | take =>
    refine (alike_ofExcept (arguments_alike alike 1)).bind fun _ given otherGiven _ same => ?_
    rw [kinds_eq alike]
    refine alike_same fun kinds => ?_
    exact (Take.alike_run same kinds).bind fun _ _ _ _ replies => alike_pure (.reply replies)
  | parameter =>
    simp only [native, Parameter.code, int_eq alike, kinds_eq alike]
    refine alike_same fun index => alike_same fun kinds => ?_
    exact (Parameter.alike_run index kinds).bind fun _ _ _ _ replies => alike_pure (.reply replies)
  | runAll =>
    refine (alike_ofExcept (arguments_alike alike 1)).bind fun _ given otherGiven _ same => ?_
    exact (RunAll.alike_run same).bind_eq fun later _ _ => plain later fun _ => nofun
  | print =>
    simp only [native, Print.code, tail_eq alike]
    exact alike_same fun _ => plain matching fun _ => nofun
  | help bot =>
    simp only [native, Help.code, tail_eq alike]
    refine alike_same fun path => alike_bot.bind_eq fun later _ _ => ?_
    exact alike_same fun _ => plain later fun _ => nofun
  | showTree =>
    simp only [native, ShowTree.code, text_eq alike]
    exact alike_same fun _ => alike_same fun _ => plain matching fun _ => nofun
  | random =>
    simp only [native, Random.code, int?_eq alike]
    refine alike_same fun _ => alike_same fun _ => alike_same fun bounds => ?_
    split
    · exact plain matching fun _ => nofun
    · exact (alike_draw _ _).bind_eq fun later _ _ => plain later fun _ => nofun
  | aliasAdd =>
    simp only [native, AliasAdd.code, text_eq alike, tail_eq alike]
    refine alike_same fun _ => alike_same fun _ => ?_
    exact (alike_addAlias _ _).bind_eq fun later _ _ => plain later fun _ => nofun
  | aliasRemove =>
    simp only [native, AliasRemove.code, text_eq alike]
    refine alike_same fun _ => ?_
    exact (alike_discard (alike_removeAlias _)).bind_eq fun later _ _ => plain later fun _ => nofun
  | aliasShow =>
    simp only [native, AliasShow.code, text_eq alike]
    refine alike_same fun name => alike_bot.bind_eq fun later bot _ => ?_
    cases bot.aliases.get? name with
    | none => exact alike_fail _
    | some text => exact plain later fun _ => nofun
  | aliasList => exact alike_bot.bind_eq fun later _ _ => plain later fun _ => nofun

end Builtin

theorem Host.blind_none (states : Matching → Unit → Unit → Prop) (base : Nat) :
    Host.none.Blind states base where
  native := fun _ _ _ _ _ _ => .done (.error _)
  foreign := fun _ _ _ _ _ _ found => nomatch found

/-- The code of every function is blind if that of the application is. -/
theorem Host.Blind.codeOf {states : Matching → σ → σ → Prop} {base : Nat} {host : Host σ}
    (blind : host.Blind states base) {matching : Matching} {bindings others : Bindings}
    (own : ∀ cell, cell < base → matching.live cell cell)
    (alike : Bindings.Alike matching bindings others) (code : Code) :
    Native.Alike states Value.Alike matching (host.codeOf code bindings)
      (host.codeOf code others) := by
  cases code with
  | builtin builtin => exact builtin.alike_native alike
  | host index => exact blind.native index matching bindings others own alike

end ChatLine
