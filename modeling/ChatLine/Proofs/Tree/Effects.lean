import ChatLine.Bot.Registry

set_option autoImplicit false

namespace ChatLine.Effects

variable {ε σ α β : Type}

theorem run_bind (first : ExceptT ε (StateM σ) α) (next : α → ExceptT ε (StateM σ) β) (state : σ) :
    (first >>= next).run.run state =
      match first.run.run state with
      | (.ok value, after) => (next value).run.run after
      | (.error error, after) => (.error error, after) := by
  simp only [bind, ExceptT.bind, ExceptT.run, ExceptT.mk, ExceptT.bindCont, StateT.bind, StateT.run]
  rcases first state with ⟨_ | _, _⟩ <;> rfl

theorem run_get (state : σ) :
    (get : ExceptT ε (StateM σ) σ).run.run state = (.ok state, state) := rfl

theorem run_set (state other : σ) :
    (set other : ExceptT ε (StateM σ) PUnit).run.run state = (.ok ⟨⟩, other) := rfl

theorem run_ofExcept (result : Except ε α) (state : σ) :
    (liftM result : ExceptT ε (StateM σ) α).run.run state = (result, state) := by
  cases result <;> rfl

theorem run_tryCatch (first : ExceptT ε (StateM σ) α) (handler : ε → ExceptT ε (StateM σ) α)
    (state : σ) :
    (tryCatch first handler).run.run state =
      match first.run.run state with
      | (.ok value, after) => (.ok value, after)
      | (.error error, after) => (handler error).run.run after := by
  simp only [tryCatch, tryCatchThe, MonadExceptOf.tryCatch, ExceptT.tryCatch, ExceptT.run,
    ExceptT.mk,
    StateT.run, bind, StateT.bind]
  rcases first state with ⟨_ | _, _⟩ <;> rfl

end ChatLine.Effects

namespace ChatLine.Change

open Effects

theorem run_childGroup (name : String) (absorb : Bool) (growth : Growth) :
    (childGroup name absorb).run.run growth =
      match growth.children.get? name with
      | some (.group id children) => (.ok (id, children), growth)
      | some (.leaf command) =>
        if absorb then (newGroup name [("", .leaf command)]).run.run growth
        else (.error (.invalidPath name "a command already exists at this name"), growth)
      | none => (newGroup name []).run.run growth := by
  unfold childGroup
  rw [run_bind, run_get]
  dsimp only
  cases growth.children.get? name with
  | none => rfl
  | some node =>
    cases node with
    | leaf command => cases absorb <;> rfl
    | group id children => rfl

theorem run_within {α : Type} (name : String) (absorb : Bool) (change : Change α)
    (growth : Growth) :
    (within name absorb change).run.run growth =
      match (childGroup name absorb).run.run growth with
      | (.error error, after) => (.error error, after)
      | (.ok (id, children), outer) =>
        let (result, inner) := change.run.run { outer with children := children }
        (result,
          { inner with children := outer.children.set name (.group id inner.children) }) := by
  unfold within
  rw [run_bind]
  rcases (childGroup name absorb).run.run growth with ⟨_ | ⟨id, children⟩, outer⟩
  · rfl
  · dsimp only
    rw [run_bind, run_get]
    dsimp only
    rcases change.run.run { outer with children := children } with ⟨_ | _, inner⟩ <;> rfl

theorem run_insert (name : String) (node : Node) (growth : Growth) :
    (insert name node).run.run growth =
      if growth.children.has name then (.error (.duplicateCommand name), growth)
      else (.ok (), { growth with children := growth.children.set name node }) := by
  unfold insert
  rw [run_bind, run_get]
  dsimp only
  split <;> rfl

theorem run_removeAt (path : List String) (growth : Growth) :
    (removeAt path).run.run growth =
      (.ok (growth.children.removeAt path).1, { growth with
        children := (growth.children.removeAt path).2
        dropped := (growth.children.removeAt path).1.toList ++ growth.dropped }) := rfl

end ChatLine.Change
