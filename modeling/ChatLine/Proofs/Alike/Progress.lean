import ChatLine.Proofs.Alike.Calls
import ChatLine.Proofs.Termination.Approximation

set_option autoImplicit false

namespace ChatLine

variable {σ : Type} {states : Matching → σ → σ → Prop} {base : Nat} {matching : Matching}
  {host : Host σ}

open Command

/-- A new cell around a command that has run: the command in it is said to run, and answers the text
that was kept before. -/
theorem Evaluate.run_text_of_tells {world : World σ} {inner : Command} {text : String} {cell : Nat}
    (tells : world.Tells inner text) (unsettled : world.kept? cell = none) (depth : Nat) :
    (Eval.text (run host (depth + 2)) (.lazy cell inner)).run.run world =
      some (.ok text,
        (world.record (.evaluated cell world.context.frames)).keep cell (.ok (.text text))) := by
  apply Eval.run_text_of_answer
  have begun : (world.record (.evaluated cell world.context.frames)).Tells inner text := tells
  rw [run, Eval.run_recorded, step, run_callLazy, unsettled]
  dsimp only
  rw [run_of_tells begun depth]
  rfl

/-- New cells around commands that have run make no difference but for the texts that are known. -/
theorem World.Alike.wrap_all {world other : World σ} (persistent : Persistent states)
    (host : Host σ) (alike : world.Alike states base matching other) {bound given : List Command}
    {texts : List String} (tell : List.Forall₂ world.Tells bound texts) {cell otherCell : Nat}
    (otherTell : List.Forall₂ other.Tells (sharedFrom otherCell given) texts)
    (titles : List.Forall₂ SameTitle bound given)
    (fresh : world.Fresh matching cell bound.length) :
    ∃ later after,
      (∀ depth, (Eval.texts (Evaluate.run host (depth + 2)) (sharedFrom cell bound)).run.run world =
        some (.ok texts, after)) ∧
      matching.Learns later ∧ after.Alike states base later other ∧
      AllAlike later (sharedFrom cell bound) (sharedFrom otherCell given) ∧
      after.cells.size = world.cells.size ∧
      ∀ next, cell + bound.length ≤ next → after.kept? next = world.kept? next := by
  induction bound generalizing world matching cell otherCell given texts with
  | nil =>
    cases tell
    cases titles
    exact ⟨matching, world, fun depth => rfl, .refl matching, alike, .nil, rfl, fun _ _ => rfl⟩
  | cons inner bound ih =>
    cases titles with
    | cons title titles =>
      cases tell with
      | @cons _ text _ texts tells rest =>
        obtain ⟨otherTells, otherRest⟩ := List.forall₂_cons.1 otherTell
        obtain ⟨_, _, same, otherKept⟩ := otherTells
        cases same
        rw [List.length_cons] at fresh
        obtain ⟨there, unsettled, unmatched⟩ := fresh cell (Nat.le_refl _) (by omega)
        have wrapped := alike.wrap persistent there unsettled unmatched otherKept
          world.context.frames
        have learns := matching.learn_learns cell otherCell
        have keeps := World.lasting_keeps.keep (.ok (.text text)) unsettled
          (World.lasting_keeps.refl _)
        have others : World.Fresh
            ((world.record (.evaluated cell world.context.frames)).keep cell (.ok (.text text)))
            (matching.learn cell otherCell) (cell + 1) bound.length := by
          intro next beyond inside
          rw [size_keep, kept?_keep, if_neg (by omega)]
          exact fresh next (by omega) (by omega)
        obtain ⟨later, after, runs, learnsMore, alike, allAlike, size, kept⟩ :=
          ih wrapped (keeps.tell rest) otherRest titles others
        refine ⟨later, after, ?_, learns.trans learnsMore, alike, ?_, size.trans (size_keep ..), ?_⟩
        · intro depth
          simp only [sharedFrom, Eval.texts, Eval.run_bind, runs depth, Eval.run_pure,
            Evaluate.run_text_of_tells tells unsettled depth]
        · exact .cons (.known (learnsMore.known (.inr ⟨rfl, rfl⟩)) title) allAlike
        · intro next beyond
          rw [List.length_cons] at beyond
          rw [kept next (by omega), kept?_keep, if_neg (by omega)]
          rfl

/-- How far a function has come with the arguments `given`. `bound` are the arguments it was answered
with, and `owned` the cells in which they were first put. The direct call from `start` evaluated the
same texts, and left `other` with cells for so many more arguments. -/
structure Progress (states : Matching → σ → σ → Prop) (host : Host σ) (f : Function) (start : World σ)
    (given : List Command) (owned : List Nat) (bound : List Command) (world : World σ) (extra : Nat)
    (matching : Matching) (other : World σ) (texts : List String) : Prop where
  evaluated : ∃ depth, (Eval.texts (Evaluate.run host depth)
    (sharedFrom start.cells.size given)).run.run (start.grow (given.length + extra)) =
      some (.ok texts, other)
  reads : Formal.Reads f.formals texts
  tell : List.Forall₂ world.Tells bound texts
  titles : List.Forall₂ SameTitle bound given
  alike : world.Alike states start.cells.size matching other
  spare : ∀ cell, start.cells.size + given.length ≤ cell →
    cell < start.cells.size + given.length + extra → matching.spare cell
  owned : List.Forall₂ matching.live owned (List.range' start.cells.size given.length)

namespace Progress

variable {f : Function} {start world other : World σ} {given bound chunk : List Command}
  {owned : List Nat} {extra : Nat} {texts : List String}

/-- Before the first call no argument was given. -/
theorem begin (closed : start.Closed) (f : Function) (extra : Nat)
    (application : states (.start start.cells.size extra) start.application start.application) :
    Progress states host f start [] [] [] start extra (.start start.cells.size extra)
      (start.grow extra) [] where
  evaluated := by
    refine ⟨0, ?_⟩
    rw [List.length_nil, Nat.zero_add]
    rfl
  reads := Formal.reads_nil f.formals
  tell := .nil
  titles := .nil
  alike := closed.alike extra application
  spare := fun cell new inside => ⟨new, inside⟩
  owned := .nil

theorem otherTell
    (progress : Progress states host f start given owned bound world extra matching other texts) :
    List.Forall₂ other.Tells (sharedFrom start.cells.size given) texts := by
  obtain ⟨depth, evaluated⟩ := progress.evaluated
  apply Eval.tell_of_texts evaluated
  rw [World.size_grow, ← Nat.add_assoc]
  exact Nat.le_add_right _ _

/-- A call on more arguments puts all of them in new cells. What it is like when the arguments from
before were asked again for their texts: the new arguments belong to those of the direct call. -/
structure Aligned (states : Matching → σ → σ → Prop) (host : Host σ) (start : World σ)
    (given : List Command) (owned : List Nat) (bound : List Command) (world : World σ)
    (chunk : List Command) (extra : Nat) (other : World σ) (texts : List String)
    (aligned : Matching) (opened : World σ) : Prop where
  replayed : ∀ depth, (Eval.texts (Evaluate.run host (depth + 2))
    (sharedFrom world.cells.size bound)).run.run (world.grow (bound ++ chunk).length) =
      some (.ok texts, opened)
  alike : opened.Alike states start.cells.size aligned other
  before : AllAlike aligned (sharedFrom world.cells.size bound) (sharedFrom start.cells.size given)
  new : AllAlike aligned (sharedFrom (world.cells.size + bound.length) chunk)
    (sharedFrom (start.cells.size + given.length) chunk)
  spare : ∀ cell, start.cells.size + (given ++ chunk).length ≤ cell →
    cell < start.cells.size + (given ++ chunk).length + extra → aligned.spare cell
  owned : List.Forall₂ aligned.live
    (owned ++ List.range' (world.cells.size + bound.length) chunk.length)
    (List.range' start.cells.size (given ++ chunk).length)

theorem align (persistent : Persistent states)
    (progress : Progress states host f start given owned bound world (chunk.length + extra) matching other
      texts) (within : ∀ argument ∈ chunk, argument.Within start.cells.size) :
    ∃ aligned opened,
      Aligned states host start given owned bound world chunk extra other texts aligned opened := by
  have grown := progress.alike.grow (bound ++ chunk).length 0
  rw [World.grow_zero] at grown
  have fresh := progress.alike.fresh_grow (bound ++ chunk).length
  have tell := (World.lasting_keeps.grow world (bound ++ chunk).length).tell progress.tell
  rw [List.length_append] at fresh
  obtain ⟨later, opened, replayed, learns, alike, before, size, kept⟩ :=
    grown.wrap_all persistent host tell progress.otherTell progress.titles
      fun cell new inside => by
        rw [List.length_append]
        exact fresh cell new (by omega)
  have unsettled : opened.Fresh later (world.cells.size + bound.length) chunk.length := by
    intro cell new inside
    rw [size, kept cell new, List.length_append, learns.live]
    exact fresh cell (by omega) (by omega)
  have reserved : ∀ cell, start.cells.size + given.length ≤ cell →
      cell < start.cells.size + given.length + chunk.length → later.spare cell := by
    intro cell new inside
    rw [learns.spare]
    exact progress.spare cell new (by omega)
  have adopted := alike.adopt persistent unsettled reserved
  have grows := (later.use (start.cells.size + given.length) chunk.length).join_grows
    (world.cells.size + bound.length) (start.cells.size + given.length) chunk.length
  have le := (later.use_le (start.cells.size + given.length) chunk.length).trans grows.le
  refine ⟨_, opened, replayed, adopted, AllAlike.mono le before, ?_, ?_, ?_⟩
  · apply alike_sharedFrom (allAlike_of_within adopted.own within)
    exact fun position inside => Matching.join_pair _ _ _ inside
  · intro cell new inside
    rw [List.length_append] at new inside
    refine ⟨?_, by omega⟩
    show later.spare cell
    rw [learns.spare]
    exact progress.spare cell (by omega) (by omega)
  · rw [List.length_append, ← List.range'_append_1]
    apply List.rel_append
    · exact progress.owned.imp fun _ _ pair => le.live (learns.le.live pair)
    · exact Matching.join_cells _ _ _ _

theorem Aligned.tell {aligned : Matching} {opened : World σ}
    (align : Aligned states host start given owned bound world chunk extra other texts aligned
      opened) : List.Forall₂ opened.Tells (sharedFrom world.cells.size bound) texts := by
  apply Eval.tell_of_texts (align.replayed 0)
  rw [World.size_grow, List.length_append]
  exact Nat.add_le_add_left (Nat.le_add_right _ _) _

theorem Aligned.all {aligned : Matching} {opened : World σ}
    (align : Aligned states host start given owned bound world chunk extra other texts aligned
      opened) :
    AllAlike aligned (sharedFrom world.cells.size (bound ++ chunk))
      (sharedFrom start.cells.size (given ++ chunk)) := by
  rw [sharedFrom_append, sharedFrom_append]
  exact List.rel_append align.before align.new

/-- A call that defers brings the function further: the direct call would have evaluated the same
arguments for the same texts. -/
theorem next (persistent : Persistent states) (blind : host.Blind states start.cells.size)
    (progress : Progress states host f start given owned bound world (chunk.length + extra) matching
      other texts) (within : ∀ argument ∈ chunk, argument.Within start.cells.size)
    {kinds : List Kind} (defers : f.defers (given ++ chunk).length kinds = true) {depth : Nat}
    {line : LineCaller σ} {reply : Reply} {after : World σ}
    (runs : (Evaluate.callFunction host (Evaluate.run host depth) line f (bound ++ chunk)
      kinds).run.run world = some (.ok reply, after)) :
    reply = .command (f.curry (sharedFrom world.cells.size (bound ++ chunk))) ∧
      ∃ later last contents, Progress states host f start (given ++ chunk)
        (owned ++ List.range' (world.cells.size + bound.length) chunk.length)
        (sharedFrom world.cells.size (bound ++ chunk)) after extra later last contents := by
  rw [List.length_append, ← progress.titles.length_eq, ← List.length_append] at defers
  obtain ⟨rfl, contents, evaluated, reads⟩ := Evaluate.answer_of_defers defers runs
  refine ⟨rfl, ?_⟩
  obtain ⟨aligned, opened, align⟩ := progress.align persistent within
  obtain ⟨less, before⟩ := progress.evaluated
  -- All of it again, at a depth that is enough for both worlds.
  have calls := Evaluate.run_agrees persistent blind (depth + less + 2)
  have deep : (Evaluate.run host depth).Approximates (Evaluate.run host (depth + less + 2)) :=
    Evaluate.run_approximates (by omega)
  have otherDeep : (Evaluate.run host less).Approximates (Evaluate.run host (depth + less + 2)) :=
    Evaluate.run_approximates (by omega)
  replace before := Eval.congruence_approximates.texts otherDeep _ _ _ before
  have again := Eval.congruence_approximates.texts deep _ _ _ evaluated
  rw [sharedFrom_append] at again
  obtain ⟨others, new, rfl⟩ := Eval.exists_of_run_texts (align.replayed (depth + less)) again
  obtain ⟨_, last, otherNew, later, grows, alike, ended⟩ :=
    (Eval.texts_agree calls align.alike align.new).there new
  cases ended with
  | ok same =>
    cases same
    have all := Eval.run_texts_of_parts before otherNew
    rw [← sharedFrom_append, ← Nat.add_assoc, ← List.length_append] at all
    refine ⟨later, last, texts ++ others, ⟨_, all⟩, reads, ?_, ?_, alike, ?_, ?_⟩
    · exact Eval.tell_of_texts evaluated (Nat.le_of_eq (World.size_grow _ _).symm)
    · have same : List.Forall₂ SameTitle chunk chunk :=
        List.forall₂_same.2 fun _ _ _ => ⟨rfl, rfl⟩
      exact sameTitle_sharedFrom (List.rel_append progress.titles same)
    · rw [grows.spare]
      exact align.spare
    · exact align.owned.imp fun _ _ pair => grows.live pair

end Progress

end ChatLine
