import ChatLine.Program
import ChatLine.Proofs.Sharing.Waiting
import Mathlib.Data.List.Forall2

set_option autoImplicit false

namespace ChatLine

/-- The cells of two worlds that belong together. -/
structure Matching where
  /-- The commands in the two cells differ in nothing but cells. -/
  live : Nat → Nat → Prop
  /-- Both cells keep the same text. -/
  known : Nat → Nat → Prop
  /-- Cells of the second world that will get a cell of the first one later. -/
  spare : Nat → Prop

namespace Matching

structure Le (matching later : Matching) : Prop where
  live : ∀ {cell other}, matching.live cell other → later.live cell other
  known : ∀ {cell other}, matching.known cell other → later.known cell other

theorem Le.trans {matching middle later : Matching} (first : matching.Le middle)
    (second : middle.Le later) : matching.Le later :=
  ⟨fun pair => second.live (first.live pair), fun pair => second.known (first.known pair)⟩

/-- Calls in both worlds made more cells, which belong together. -/
structure Grows (matching later : Matching) : Prop where
  live : ∀ {cell other}, matching.live cell other → later.live cell other
  known : later.known = matching.known
  spare : later.spare = matching.spare

theorem Grows.refl (matching : Matching) : matching.Grows matching :=
  ⟨fun pair => pair, rfl, rfl⟩

theorem Grows.trans {matching middle later : Matching} (first : matching.Grows middle)
    (second : middle.Grows later) : matching.Grows later :=
  ⟨fun pair => second.live (first.live pair), second.known.trans first.known,
    second.spare.trans first.spare⟩

theorem Grows.le {matching later : Matching} (grows : matching.Grows later) : matching.Le later := by
  refine ⟨grows.live, ?_⟩
  intro cell other pair
  rw [grows.known]
  exact pair

/-- More cells are known to keep the same texts. -/
structure Learns (matching later : Matching) : Prop where
  live : later.live = matching.live
  known : ∀ {cell other}, matching.known cell other → later.known cell other
  spare : later.spare = matching.spare

theorem Learns.refl (matching : Matching) : matching.Learns matching :=
  ⟨rfl, fun pair => pair, rfl⟩

theorem Learns.trans {matching middle later : Matching} (first : matching.Learns middle)
    (second : middle.Learns later) : matching.Learns later :=
  ⟨second.live.trans first.live, fun pair => second.known (first.known pair),
    second.spare.trans first.spare⟩

theorem Learns.le {matching later : Matching} (learns : matching.Learns later) :
    matching.Le later := by
  refine ⟨?_, learns.known⟩
  intro cell other pair
  rw [learns.live]
  exact pair

end Matching

/-- Lists that are related one by one have related entries at every place. -/
theorem getElem?_rel {α : Type} {rel : α → α → Prop} {values others : List α}
    (related : List.Forall₂ rel values others) (index : Nat) :
    Option.Rel rel values[index]? others[index]? := by
  induction related generalizing index with
  | nil => exact .none
  | cons one rest ih =>
    cases index with
    | zero => exact .some one
    | succ index => exact ih index

variable {matching later : Matching}

namespace Command

/-- The same is said about the commands, whatever groups there are. -/
def SameTitle (command other : Command) : Prop :=
  ∀ groups : Groups,
    command.describe groups = other.describe groups ∧ command.help? groups = other.help? groups

/-- The commands differ in nothing but cells. -/
inductive Alike (matching : Matching) : Command → Command → Prop
  | literal (text : String) : Alike matching (.literal text) (.literal text)
  | function (f : Function) : Alike matching (.function f) (.function f)
  | documented (command : Documented) : Alike matching (.documented command) (.documented command)
  | overloads (set : Overloads) : Alike matching (.overloads set) (.overloads set)
  | stored (text : String) {body other : Command} (bodies : Alike matching body other) :
    Alike matching (.stored text body) (.stored text other)
  | live {cell otherCell : Nat} {inner other : Command} (pair : matching.live cell otherCell)
    (inners : Alike matching inner other) : Alike matching (.lazy cell inner) (.lazy otherCell other)
  /-- Which commands are in cells that keep a text does not matter but for what is said about them. -/
  | known {cell otherCell : Nat} {inner other : Command} (pair : matching.known cell otherCell)
    (titles : inner.SameTitle other) : Alike matching (.lazy cell inner) (.lazy otherCell other)
  | applied {callee other : Command} (callees : Alike matching callee other) :
    Alike matching (.applied callee []) (.applied other [])
  | bind {callee other argument otherArgument : Command} {bound others : List Command}
    (arguments : Alike matching argument otherArgument)
    (rest : Alike matching (.applied callee bound) (.applied other others)) :
    Alike matching (.applied callee (argument :: bound)) (.applied other (otherArgument :: others))
  | group (id : Nat) : Alike matching (.group id) (.group id)
  | root : Alike matching .root .root
  | orphan : Alike matching .orphan .orphan
  | foreign (label : String) (index : Nat) : Alike matching (.foreign label index) (.foreign label index)

abbrev AllAlike (matching : Matching) : List Command → List Command → Prop :=
  List.Forall₂ (Alike matching)

theorem alike_applied_iff {callee other : Command} {bound others : List Command} :
    Alike matching (.applied callee bound) (.applied other others) ↔
      callee.Alike matching other ∧ AllAlike matching bound others := by
  induction bound generalizing others with
  | nil =>
    constructor
    · intro alike
      cases alike with
      | applied callees => exact ⟨callees, .nil⟩
    · rintro ⟨callees, alike⟩
      cases alike
      exact .applied callees
  | cons argument bound ih =>
    constructor
    · intro alike
      cases alike with
      | bind arguments rest => exact ⟨(ih.1 rest).1, .cons arguments (ih.1 rest).2⟩
    · rintro ⟨callees, alike⟩
      cases alike with
      | cons arguments rest => exact .bind arguments (ih.2 ⟨callees, rest⟩)

theorem Alike.mono (le : matching.Le later) {command other : Command}
    (alike : command.Alike matching other) : command.Alike later other := by
  induction alike with
  | literal text => exact .literal text
  | function f => exact .function f
  | documented command => exact .documented command
  | overloads set => exact .overloads set
  | stored text _ ih => exact .stored text ih
  | live pair _ ih => exact .live (le.live pair) ih
  | known pair titles => exact .known (le.known pair) titles
  | applied _ ih => exact .applied ih
  | bind _ _ ihArgument ihRest => exact .bind ihArgument ihRest
  | group id => exact .group id
  | root => exact .root
  | orphan => exact .orphan
  | foreign label index => exact .foreign label index

theorem AllAlike.mono (le : matching.Le later) {commands others : List Command}
    (alike : AllAlike matching commands others) : AllAlike later commands others :=
  alike.imp fun _ _ one => one.mono le

/-- The descriptions that the description of a command with arguments is put together from. -/
def pieces (groups : Groups) : Command → List String
  | .applied callee bound => callee.describe groups :: describeAll groups bound
  | _ => []

theorem Alike.sameTitle {command other : Command} (alike : command.Alike matching other) :
    command.SameTitle other := by
  intro groups
  suffices all : command.describe groups = other.describe groups ∧
      command.help? groups = other.help? groups ∧ command.pieces groups = other.pieces groups from
    ⟨all.1, all.2.1⟩
  induction alike with
  | live _ _ ih => exact ⟨ih.1, ih.2.1, rfl⟩
  | known _ titles => exact ⟨(titles groups).1, (titles groups).2, rfl⟩
  | applied _ ih =>
    obtain ⟨description, help, _⟩ := ih
    refine ⟨?_, help, ?_⟩
    · simp only [describe, description]
    · simp only [pieces, description]
  | bind _ _ ihArgument ihRest =>
    obtain ⟨_, help, parts⟩ := ihRest
    simp only [pieces, List.cons.injEq] at parts
    refine ⟨?_, help, ?_⟩
    · simp only [describe, describeAll, parts.1, parts.2, ihArgument.1]
    · simp only [pieces, describeAll, parts.1, parts.2, ihArgument.1]
  | _ => exact ⟨rfl, rfl, rfl⟩

mutual

/-- A command is like itself if all its cells are among those that belong to themselves. -/
theorem alike_self {since : Nat} (own : ∀ cell, cell < since → matching.live cell cell)
    {command : Command} (within : command.Within since) : command.Alike matching command := by
  match command with
  | .literal text => exact .literal text
  | .function f => exact .function f
  | .documented command => exact .documented command
  | .overloads set => exact .overloads set
  | .stored text body =>
    have inside : body.Within since := within
    exact .stored text (alike_self own inside)
  | .lazy cell inner =>
    have older : cell < since := by
      apply Nat.lt_of_not_le
      exact fun young => within cell ⟨rfl, .inl ⟨young, rfl⟩⟩
    have inside : inner.Within since := fun other waits => within other ⟨rfl, .inr waits⟩
    exact .live (own cell older) (alike_self own inside)
  | .applied callee bound =>
    have inCallee : callee.Within since := fun cell waits => within cell (.inl waits)
    exact alike_applied_iff.2 ⟨alike_self own inCallee,
      allAlike_self own fun cell waits => within cell (.inr waits)⟩
  | .group id => exact .group id
  | .root => exact .root
  | .orphan => exact .orphan
  | .foreign label index => exact .foreign label index

theorem allAlike_self {since : Nat} (own : ∀ cell, cell < since → matching.live cell cell)
    {commands : List Command}
    (within : ∀ cell, ¬ AnyWaits (fun _ => false) since cell commands) :
    AllAlike matching commands commands := by
  match commands with
  | [] => exact .nil
  | command :: rest =>
    have here : command.Within since := fun cell waits => within cell (.inl waits)
    exact .cons (alike_self own here)
      (allAlike_self own fun cell waits => within cell (.inr waits))

end

theorem allAlike_of_within {since : Nat} (own : ∀ cell, cell < since → matching.live cell cell)
    {commands : List Command} (within : ∀ command ∈ commands, command.Within since) :
    AllAlike matching commands commands :=
  List.forall₂_same.2 fun command inside => alike_self own (within command inside)

/-- Shared arguments are alike if the arguments are and their cells belong together. -/
theorem alike_sharedFrom {start otherStart : Nat} {commands others : List Command}
    (alike : AllAlike matching commands others)
    (pairs : ∀ position, position < commands.length →
      matching.live (start + position) (otherStart + position)) :
    AllAlike matching (sharedFrom start commands) (sharedFrom otherStart others) := by
  induction alike generalizing start otherStart with
  | nil => exact .nil
  | cons one rest ih =>
    refine .cons (.live (pairs 0 (Nat.zero_lt_succ _)) one) (ih ?_)
    intro position inside
    have pair := pairs (position + 1) (Nat.succ_lt_succ inside)
    rw [Nat.add_assoc, Nat.add_assoc, Nat.add_comm 1 position]
    exact pair

theorem sameTitle_sharedFrom {cell : Nat} {commands others : List Command}
    (titles : List.Forall₂ SameTitle commands others) :
    List.Forall₂ SameTitle (sharedFrom cell commands) others := by
  induction titles generalizing cell with
  | nil => exact .nil
  | cons one rest ih => exact .cons one ih

theorem alike_curry (f : Function) {arguments others : List Command}
    (alike : AllAlike matching arguments others) :
    (f.curry arguments).Alike matching (f.curry others) := by
  unfold Function.curry
  cases alike with
  | nil => exact .function f
  | cons one rest => exact alike_applied_iff.2 ⟨.function f, .cons one rest⟩

end Command

open Command

inductive Reply.Alike (matching : Matching) : Reply → Reply → Prop
  | text (text : String) : Alike matching (.text text) (.text text)
  | nothing : Alike matching .nothing .nothing
  | command {command other : Command} (alike : command.Alike matching other) :
    Alike matching (.command command) (.command other)
  | items (items : List String) : Alike matching (.items items) (.items items)
  | extension (kind payload : String) :
    Alike matching (.extension kind payload) (.extension kind payload)

namespace Reply.Alike

variable {reply other : Reply}

theorem mono (le : matching.Le later) (alike : reply.Alike matching other) :
    reply.Alike later other := by
  cases alike with
  | text text => exact .text text
  | nothing => exact .nothing
  | command alike => exact .command (alike.mono le)
  | items items => exact .items items
  | extension kind payload => exact .extension kind payload

theorem kind_eq (alike : reply.Alike matching other) : reply.kind = other.kind := by
  cases alike <;> rfl

theorem fits_eq (alike : reply.Alike matching other) (kinds : List Kind) :
    reply.fits kinds = other.fits kinds := by
  unfold Reply.fits
  rw [alike.kind_eq]

theorem eq_of_kind_ne (alike : reply.Alike matching other) (plain : reply.kind ≠ .command) :
    reply = other := by
  cases alike with
  | command alike => exact absurd rfl plain
  | _ => rfl

end Reply.Alike

theorem Reply.alike_of_kind_ne {reply : Reply} (plain : reply.kind ≠ .command) :
    reply.Alike matching reply := by
  cases reply with
  | text text => exact .text text
  | nothing => exact .nothing
  | command command => exact absurd rfl plain
  | items items => exact .items items
  | extension kind payload => exact .extension kind payload

/-- Both results are the same error, or values that are related. -/
inductive Ended {ε α : Type} (rel : α → α → Prop) : Except ε α → Except ε α → Prop
  | ok {value other : α} (related : rel value other) : Ended rel (.ok value) (.ok other)
  | error (error : ε) : Ended rel (.error error) (.error error)

theorem Ended.imp {ε α : Type} {rel weak : α → α → Prop} {result other : Except ε α}
    (ended : Ended rel result other) (implies : ∀ value other, rel value other → weak value other) :
    Ended weak result other := by
  cases ended with
  | ok related => exact .ok (implies _ _ related)
  | error error => exact .error error

theorem Ended.self {ε α : Type} (result : Except ε α) : Ended Eq result result := by
  cases result with
  | ok value => exact .ok rfl
  | error error => exact .error error

abbrev Outcome.Alike (matching : Matching) : Outcome → Outcome → Prop :=
  Ended (Reply.Alike matching)

inductive Value.Alike (matching : Matching) : Value → Value → Prop
  | reply {reply other : Reply} (alike : reply.Alike matching other) :
    Alike matching (.reply reply) (.reply other)
  | same {value : Value} (plain : ∀ reply, value ≠ .reply reply) : Alike matching value value

inductive Binding.Alike (matching : Matching) : Binding → Binding → Prop
  | arguments {given others : List Command} (alike : AllAlike matching given others) :
    Alike matching (.arguments given) (.arguments others)
  | same {binding : Binding} (plain : ∀ given, binding ≠ .arguments given) :
    Alike matching binding binding

abbrev Bindings.Alike (matching : Matching) : Bindings → Bindings → Prop :=
  List.Forall₂ (Binding.Alike matching)

abbrev Frames.Alike (matching : Matching) : Frames → Frames → Prop :=
  List.Forall₂ (AllAlike matching)

theorem Frames.Alike.mono (le : matching.Le later) {frames others : Frames}
    (alike : Frames.Alike matching frames others) : Frames.Alike later frames others :=
  alike.imp fun _ _ frame => AllAlike.mono le frame

theorem Frames.Alike.tail {frames others : Frames} (alike : Frames.Alike matching frames others) :
    Frames.Alike matching frames.tail others.tail := by
  cases alike with
  | nil => exact .nil
  | cons frame rest => exact rest

inductive Scope.Alike (matching : Matching) : Scope → Scope → Prop
  | outer : Alike matching .outer .outer
  | inner {frame other : Frame} (alike : AllAlike matching frame other) :
    Alike matching (.inner frame) (.inner other)

/-- The contexts differ in nothing but the cells in their frames. -/
structure Context.Alike (matching : Matching) (context other : Context) : Prop where
  frames : Frames.Alike matching context.frames other.frames
  budget : context.budget = other.budget
  administrator : context.administrator = other.administrator
  extensions : context.extensions = other.extensions

end ChatLine
