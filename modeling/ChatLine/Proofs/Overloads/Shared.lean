import ChatLine.Proofs.Calls.Kinds
import ChatLine.Proofs.Calls.Requests
import ChatLine.Proofs.Overloads.Steady

set_option autoImplicit false

namespace ChatLine

variable {σ α β γ : Type}

section Bare

mutual

/-- A command without the cells in it. -/
def Command.bare : Command → Command
  | .lazy _ inner => inner.bare
  | .stored text body => .stored text body.bare
  | .applied callee bound => .applied callee.bare (bareAll bound)
  | .literal text => .literal text
  | .function f => .function f
  | .documented command => .documented command
  | .overloads set => .overloads set
  | .group id => .group id
  | .root => .root
  | .orphan => .orphan
  | .foreign label index => .foreign label index

def bareAll : List Command → List Command
  | [] => []
  | command :: rest => command.bare :: bareAll rest

end

def Reply.bare : Reply → Reply
  | .command value => .command value.bare
  | other => other

def Binding.bare : Binding → Binding
  | .arguments values => .arguments (bareAll values)
  | other => other

def Value.bare : Value → Value
  | .reply complete => .reply complete.bare
  | other => other

theorem bareAll_eq_map (commands : List Command) : bareAll commands = commands.map Command.bare := by
  induction commands with
  | nil => rfl
  | cons command rest ih => rw [bareAll, ih, List.map_cons]

theorem bareAll_sharedFrom (cell : Nat) (commands : List Command) :
    bareAll (Command.sharedFrom cell commands) = bareAll commands := by
  induction commands generalizing cell with
  | nil => rfl
  | cons command rest ih => rw [Command.sharedFrom, bareAll, bareAll, ih, Command.bare]

theorem Function.bare_curry (f : Function) (commands : List Command) :
    (f.curry commands).bare = f.curry (bareAll commands) := by
  cases commands <;> simp [curry, Command.bare, bareAll]

theorem Reply.kind_bare (reply : Reply) : reply.bare.kind = reply.kind := by
  cases reply <;> rfl

theorem Reply.fits_bare (reply : Reply) (kinds : List Kind) :
    reply.bare.fits kinds = reply.fits kinds := by
  rw [fits, fits, kind_bare]

theorem Binding.bare_absent (type : ParamType) : (absent type).bare = absent type := by
  cases type <;> rfl

theorem Binding.bare_of_coerce {text : String} {type : ParamType} {binding : Binding}
    (read : coerce text type = .ok binding) : binding.bare = binding := by
  cases binding with
  | arguments given => exact absurd rfl (coerce_ne_arguments read given)
  | _ => rfl

theorem Value.bare_eq {value : Value} (incomplete : ∀ complete, value ≠ .reply complete) :
    value.bare = value := by
  cases value with
  | reply complete => exact absurd rfl (incomplete complete)
  | _ => rfl

/-- A value without its cells is delivered as the reply without them. -/
theorem Value.deliver_bare (value : Value) (f : Function) (kinds : List Kind) :
    value.bare.deliver f kinds = (value.deliver f kinds).map Reply.bare := by
  by_cases incomplete : ∀ complete, value ≠ .reply complete
  · rw [bare_eq incomplete]
    cases delivered : value.deliver f kinds with
    | error error => rfl
    | ok reply =>
      cases reply with
      | command command => exact absurd (Evaluate.eq_of_deliver_command delivered) (incomplete _)
      | _ => rfl
  · obtain ⟨complete, rfl⟩ := not_forall_not.1 incomplete
    simp only [bare, deliver, Reply.require, Reply.fits_bare, Reply.kind_bare]
    split <;> rfl

end Bare

/-- What is heard of a command that was called for its text: the text, or that there is none, and
whether because the budget is exhausted. -/
def heard : Outcome → Except Bool String
  | .ok (.text text) => .ok text
  | .ok _ => .error false
  | .error error => .error (error = .budgetExhausted)

theorem heard_replay (what : String) (outcome : Outcome) :
    heard (Evaluate.replay what outcome [.string]) = heard outcome := by
  rcases outcome with error | reply
  · rfl
  · cases reply <;> rfl

theorem note_requireText (outcome : Outcome) (describe : Command → String) (asked : Command) :
    note id (outcome.bind fun reply => reply.requireText describe asked) = heard outcome := by
  rcases outcome with error | reply
  · rfl
  · cases reply <;> rfl

/-- What is told of an argument: what it is without cells, and what is heard of it. -/
abbrev Account := Command × Said String

/-- Arguments are as it is told of them, in every world of a family. -/
def Evaluate.Speak (host : Host σ) (since : Nat) (among : World σ → Prop) (commands : List Command)
    (told : List Account) : Prop :=
  List.Forall₂ (fun command about => command.bare = about.1 ∧
    Eval.Steadily since among heard (fun depth => run host depth command [] [.string]) about.2)
      commands told

namespace World

variable {since : Nat} {among : World σ → Prop} {told : List Account} {start world : World σ}

/-- A world after arguments were put in the cells behind those of `start`: it is still of the family,
nothing else happened to the cells from `since` on, and what is kept in the new cells is what the
arguments say. -/
structure Opened (since : Nat) (among : World σ → Prop) (told : List Account)
    (start world : World σ) : Prop where
  inside : among world
  room : start.cells.size + told.length ≤ world.cells.size
  spared : start.Spares since world
  keeps : ∀ position about, told[position]? = some about → ∀ kept,
    world.kept? (start.cells.size + position) = some kept → some (heard kept) = about.2.run

theorem opened_grow (family : Family since among) (inside : among start) (told : List Account) :
    Opened since among told start (start.grow told.length) := by
  refine ⟨family.beside inside (beside_grow (family.room inside) _), ?_, spares_grow since start _, ?_⟩
  · exact Nat.le_of_eq (size_grow start told.length).symm
  · intro position about _ kept found
    rw [kept?_grow, kept?_eq_none (Nat.le_add_right ..)] at found
    cases found

theorem Family.opened (family : Family since among) (inside : among start) (told : List Account) :
    Family (start.cells.size + told.length) (Opened since among told start) where
  room := fun opened => opened.room
  beside := by
    intro world other opened beside
    have least := family.room inside
    have before : ∀ cell, cell < start.cells.size + told.length →
        other.kept? cell = world.kept? cell := by
      intro cell small
      rw [kept?, kept?, beside.cells cell small]
    refine ⟨family.beside opened.inside ?_, beside.room, ?_, ?_⟩
    · refine ⟨beside.bot, beside.context, beside.generator, beside.application, ?_, ?_⟩
      · exact Nat.le_trans (Nat.le_add_right_of_le least) beside.room
      · exact fun cell small => beside.cells cell (by omega)
    · intro cell slot beyond found
      obtain ⟨there, -⟩ := Array.getElem?_eq_some_iff.1 found
      rw [beside.cells cell (by omega)]
      exact opened.spared cell slot beyond found
    · intro position about listed kept found
      obtain ⟨short, -⟩ := List.getElem?_eq_some_iff.1 listed
      rw [before _ (by omega)] at found
      exact opened.keeps position about listed kept found

theorem Opened.later (opened : Opened since among told start world) (family : Family since among)
    (inside : among start) {after : World σ} (stays : among after)
    (spares : world.Spares since after) : Opened since among told start after := by
  have least := family.room inside
  have grows := spares.size_le (family.room stays)
  refine ⟨stays, Nat.le_trans opened.room grows, opened.spared.trans spares, ?_⟩
  intro position about listed kept found
  obtain ⟨short, -⟩ := List.getElem?_eq_some_iff.1 listed
  have room := opened.room
  rw [spares.kept?_eq (by omega) (by omega)] at found
  exact opened.keeps position about listed kept found

/-- The outcome of an argument is kept in its cell. -/
theorem Opened.keep (opened : Opened since among told start world) (family : Family since among)
    (inside : among start) {position : Nat} {about : Account} (listed : told[position]? = some about)
    {outcome : Outcome} (same : some (heard outcome) = about.2.run) :
    Opened since among told start (world.keep (start.cells.size + position) outcome) := by
  have least := family.room inside
  refine ⟨?_, ?_, ?_, ?_⟩
  · exact family.beside opened.inside (beside_keep (family.room opened.inside) (by omega) outcome)
  · rw [size_keep]
    exact opened.room
  · intro cell slot beyond found
    obtain ⟨there, -⟩ := Array.getElem?_eq_some_iff.1 found
    rw [World.keep, Array.getElem?_setIfInBounds, if_neg (by omega)]
    exact opened.spared cell slot beyond found
  · intro other otherAbout otherListed kept found
    rw [kept?_keep] at found
    split at found
    · rename_i here
      obtain rfl : position = other := by omega
      cases found
      rw [listed] at otherListed
      cases otherListed
      exact same
    · exact opened.keeps other otherAbout otherListed kept found

end World

namespace Evaluate

variable {host : Host σ} {since : Nat} {among : World σ → Prop} {told : List Account}
  {start : World σ}

/-- A command that leaves the worlds of a family as they are, and answers the same in all of them. -/
theorem steadily_of_step (family : World.Family since among) {command : Command} {outcome : Outcome}
    (runs : ∀ depth world, among world →
      (step host (run host depth) (callLine (run host depth)) command [] [.string]).run.run world =
        some (outcome, world)) :
    Eval.Steadily since among heard (fun depth => run host depth command [] [.string])
      (ExceptT.mk (some (heard outcome))) :=
  ((Eval.steadily_of_run runs).recorded family).deeper

/-- What spares the cells from `since` on is as steady when arguments were put in some of them. -/
theorem steadily_opened (family : World.Family since among) (inside : among start)
    {view : Except CommandError α → Except Bool β} {action : Nat → Eval σ α} {said : Said β}
    (steady : Eval.Steadily since among view action said) (told : List Account) :
    Eval.Steadily (start.cells.size + told.length) (World.Opened since among told start) view action
      said := by
  intro world opened
  obtain ⟨ended, comes, same, leaves⟩ := steady world opened.inside
  refine ⟨ended, comes, same, ?_⟩
  intro result after found
  obtain ⟨stays, spares⟩ := leaves result after found
  have least := family.room inside
  exact ⟨opened.later family inside stays spares, spares.mono (by omega)⟩

/-- An argument in a cell says what it would say itself, whether it has run or not. -/
theorem lazy_steadily (family : World.Family since among) (inside : among start)
    {position : Nat} {about : Account} (listed : told[position]? = some about) {command : Command}
    (steady : Eval.Steadily since among heard (fun depth => run host depth command [] [.string])
      about.2) :
    Eval.Steadily (start.cells.size + told.length) (World.Opened since among told start) heard
      (fun depth => run host depth (.lazy (start.cells.size + position) command) [] [.string])
        about.2 := by
  have least := family.room inside
  obtain ⟨short, -⟩ := List.getElem?_eq_some_iff.1 listed
  refine (Eval.Steadily.recorded (family.opened inside told) ?_).deeper
  intro world opened
  cases kept : world.kept? (start.cells.size + position) with
  | some outcome =>
    refine ⟨some (replay (command.describe world.bot.groups) outcome [.string], world), ?_, ?_, ?_⟩
    · exact Eval.comes_of_run fun depth => by simp only [step, run_callLazy, kept]
    · rw [Option.map_some, heard_replay]
      exact opened.keeps position about listed outcome kept
    · rintro result after ⟨⟩
      exact ⟨opened, World.spares_of_cells rfl⟩
  | none =>
    -- Nothing is kept, so this is the first request, and the argument itself runs.
    have begun := family.beside opened.inside (World.beside_record (family.room opened.inside)
      (.evaluated (start.cells.size + position) world.context.frames))
    obtain ⟨ended, comes, same, leaves⟩ := steady _ begun
    refine ⟨_, comes.congr fun _ => run_callLazy_of_unsettled kept [] [.string], ?_, ?_⟩
    · rw [← same, Option.map_map]
      simp only [Function.comp_def, heard_replay]
    · intro result last finished
      obtain ⟨⟨made, middle⟩, found, ⟨⟩⟩ := Option.map_eq_some_iff.1 finished
      obtain ⟨stays, spares⟩ := leaves made middle found
      have spared : world.Spares since middle := spares
      have later := opened.later family inside stays spared
      rw [found] at same
      refine ⟨later.keep family inside listed same, ?_⟩
      intro cell slot beyond there
      rw [World.keep, Array.getElem?_setIfInBounds, if_neg (by omega)]
      exact spared cell slot (by omega) there

/-- Arguments in cells of their own say what they would say themselves. -/
theorem Speak.shared (family : World.Family since among) (inside : among start)
    {commands : List Command} (speak : Speak host since among commands told) :
    Speak host (start.cells.size + told.length) (World.Opened since among told start)
      (Command.sharedFrom start.cells.size commands) told := by
  -- The induction is on the arguments that are left; `before` tells how many cells lie before theirs.
  have part : ∀ (before : List Account) {later : List Account} {rest : List Command},
      told = before ++ later → Speak host since among rest later →
        Speak host (start.cells.size + told.length) (World.Opened since among told start)
          (Command.sharedFrom (start.cells.size + before.length) rest) later := by
    intro before later rest parts speak
    induction speak generalizing before with
    | nil => exact .nil
    | @cons command about rest later first _ ih =>
      obtain ⟨bare, steady⟩ := first
      have listed : told[before.length]? = some about := by
        rw [parts, List.getElem?_append_right (Nat.le_refl _), Nat.sub_self]
        rfl
      refine .cons ⟨bare, lazy_steadily family inside listed steady⟩ ?_
      have next := ih (before ++ [about]) (by rw [parts, List.append_cons])
      rwa [List.length_append, List.length_singleton, ← Nat.add_assoc] at next
  exact part [] rfl speak

theorem Speak.length_eq {commands : List Command} (speak : Speak host since among commands told) :
    commands.length = told.length :=
  List.Forall₂.length_eq speak

theorem Speak.bareAll_eq {commands : List Command} (speak : Speak host since among commands told) :
    bareAll commands = told.map Prod.fst := by
  induction speak with
  | nil => rfl
  | cons first _ ih => rw [bareAll, ih, first.1, List.map_cons]

end Evaluate

end ChatLine
