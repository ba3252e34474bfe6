import ChatLine.Proofs.Overloads.Shared

set_option autoImplicit false

namespace ChatLine

variable {σ α β γ δ : Type}

namespace Function

/-- What is noted of binding a formal parameter, and what is told of the arguments after those that it
takes. -/
def noteFormal (kinds : List Kind) (all : List Command) (formal : Formal) (rest : List Account) :
    Said (Binding × List Account) := do
  match formal with
  | .context => return (.context, rest)
  | .arguments => return (.arguments all, rest)
  | .kinds => return (.kinds kinds, rest)
  | .tail => return (.tail (← rest.mapM Prod.snd), [])
  | .plain type =>
    match rest with
    | [] => return (.absent type, [])
    | about :: rest =>
      let text ← about.2
      return (← Said.ofExcept (Binding.coerce text type), rest)

/-- What is noted of binding formal parameters, and the arguments that none of them takes. -/
def noteFormals (kinds : List Kind) (all : List Command) :
    List Formal → List Account → Said (Bindings × List Command)
  | [], rest => return ([], rest.map Prod.fst)
  | formal :: formals, rest => do
    let (binding, rest) ← noteFormal kinds all formal rest
    let (bindings, left) ← noteFormals kinds all formals rest
    return (binding :: bindings, left)

/-- What is noted of a call of a function, if `results` is noted of its code. -/
def noteCall (f : Function) (results : Bindings → Said Value) (kinds : List Kind)
    (told : List Account) : Said Reply := do
  let arguments := told.map Prod.fst
  let bound ← noteFormals kinds arguments f.formals told
  if f.defers told.length kinds then return .command (f.curry arguments)
  else
    let bindings ← Said.ofExcept (f.accept told.length kinds bound)
    let value ← results bindings
    Said.ofExcept (value.deliver f kinds)

/-- Whether code runs on what is bound is a matter of how many arguments are left. -/
theorem accept_map (f : Function) (count : Nat) (kinds : List Kind) (change : Binding → Binding)
    {bound : Bindings × List Command} {left : List Command}
    (size : left.length = bound.2.length) :
    (f.accept count kinds bound).map (List.map change) =
      f.accept count kinds (bound.1.map change, left) := by
  unfold accept
  simp only [size]
  split
  · rfl
  · split <;> rfl

end Function

namespace Evaluate

variable {host : Host σ} {since : Nat} {among : World σ → Prop} {kinds : List Kind}

/-- The code of a function comes to the same on the same bindings, cells aside, in every world of a
family, and leaves every cell as it was: in particular it executes none of the arguments. -/
def Reliable (host : Host σ) (since : Nat) (among : World σ → Prop) (f : Function)
    (results : Bindings → Said Value) : Prop :=
  ∀ bindings, Eval.Steadily since among (note Value.bare)
    (fun depth => invoke host (run host depth) (callLine (run host depth)) f bindings)
      (results (bindings.map Binding.bare))

/-- Code that makes no requests is reliable if cells make no difference to it. -/
theorem reliable_of_done {f : Function} (result : Bindings → Except Failure Value)
    (code : ∀ bindings, host.codeOf f.code bindings = ExceptT.mk (.done (result bindings)))
    (same : ∀ bindings, (result bindings).map Value.bare = result (bindings.map Binding.bare)) :
    Reliable host since among f fun bindings =>
      Said.ofExcept ((result bindings).mapError Failure.toError) := by
  intro bindings
  have runs : ∀ depth, invoke host (run host depth) (callLine (run host depth)) f bindings =
      Eval.ofExcept ((result bindings).mapError Failure.toError) := by
    intro depth
    rw [invoke, code]
    apply Eval.ext
    intro world
    cases result bindings <;> simp [Program.run, Except.mapError]
  simp only [runs]
  apply Eval.steadily_ofExcept
  rw [← same]
  cases result bindings <;> rfl

/-- A call that comes to the same when its arguments are in new cells, in which they say the same,
comes to the same. -/
theorem shared_steadily (family : World.Family since among) {arguments : List Command}
    {told : List Account} (speak : Speak host since among arguments told) {view : α → β}
    {next : Nat → List Command → Eval σ α} {said : Said β}
    (rest : ∀ start, among start →
      Eval.Steadily (start.cells.size + told.length) (World.Opened since among told start) (note view)
        (fun depth => next depth (Command.sharedFrom start.cells.size arguments)) said) :
    Eval.Steadily since among (note view) (fun depth => Eval.share arguments >>= next depth) said := by
  intro world inside
  have opened := World.opened_grow family inside told
  obtain ⟨ended, comes, same, leaves⟩ := rest world inside _ opened
  refine ⟨ended, ?_, same, fun result after found => ?_⟩
  · obtain ⟨enough, runs⟩ := comes
    refine ⟨enough, fun depth deep => ?_⟩
    rw [Eval.run_bind, Eval.run_share, speak.length_eq]
    exact runs depth deep
  · obtain ⟨stays, -⟩ := leaves result after found
    exact ⟨stays.inside, stays.spared⟩

theorem run_text (call : Caller σ) (command : Command) (world : World σ) :
    (Eval.text call command).run.run world =
      ((call command [] [.string]).run.run world).map fun made =>
        (made.1.bind fun reply => reply.requireText (Command.describe made.2.bot.groups) command,
          made.2) := by
  rw [Eval.text, Eval.run_bind]
  rcases (call command [] [.string]).run.run world with _ | ⟨error | reply, after⟩ <;> rfl

theorem text_steadily {command : Command} {said : Said String}
    (steady : Eval.Steadily since among heard (fun depth => run host depth command [] [.string])
      said) :
    Eval.Steadily since among (note id) (fun depth => Eval.text (run host depth) command) said := by
  apply steady.finish fun depth world => run_text (run host depth) command world
  · exact fun made => note_requireText made.1 _ command
  · exact fun made inside => ⟨inside, World.spares_of_cells rfl⟩

theorem texts_steadily {commands : List Command} {told : List Account}
    (speak : Speak host since among commands told) :
    Eval.Steadily since among (note id) (fun depth => Eval.texts (run host depth) commands)
      (told.mapM Prod.snd) := by
  induction speak with
  | nil => exact Eval.steadily_pure id []
  | cons first _ ih =>
    rw [List.mapM_cons]
    apply (text_steadily first.2).bind
    intro text
    apply ih.bind
    exact fun texts => Eval.steadily_pure id (text :: texts)

/-- Binding a parameter, and going on with the arguments that are left. -/
theorem bindFormal_steadily {all rest : List Command} {told : List Account}
    (speak : Speak host since among rest told) (formal : Formal) {view : α → β}
    {next : Nat → Binding × List Command → Eval σ α} {follow : Binding × List Account → Said β}
    (others : ∀ binding left leftTold, Speak host since among left leftTold →
      Eval.Steadily since among (note view) (fun depth => next depth (binding, left))
        (follow (binding.bare, leftTold))) :
    Eval.Steadily since among (note view)
      (fun depth => Function.bindFormal (run host depth) kinds all formal rest >>= next depth)
      (Function.noteFormal kinds (bareAll all) formal told >>= follow) := by
  cases formal with
  | context => exact others .context rest told speak
  | arguments => exact others (.arguments all) rest told speak
  | kinds => exact others (.kinds kinds) rest told speak
  | tail =>
    simp only [Function.bindFormal, Function.noteFormal, bind_assoc, pure_bind]
    apply (texts_steadily speak).bind
    exact fun texts => others (.tail texts) [] [] .nil
  | plain type =>
    cases speak with
    | nil =>
      have absent := others (.absent type) [] [] .nil
      rw [Binding.bare_absent] at absent
      exact absent
    | @cons argument about rest told first speak =>
      simp only [Function.bindFormal, Function.noteFormal, bind_assoc, pure_bind]
      apply (text_steadily first.2).bind
      intro text
      have read : (Binding.coerce text type).map Binding.bare = Binding.coerce text type := by
        cases found : Binding.coerce text type with
        | error error => rfl
        | ok binding => exact congrArg Except.ok (Binding.bare_of_coerce found)
      apply (Eval.steadily_ofExcept _ read).bind
      exact fun binding => others binding rest told speak

theorem bindFormals_steadily {all rest bares : List Command} {told : List Account}
    (speak : Speak host since among rest told) (given : bareAll all = bares) (kinds : List Kind)
    (formals : List Formal) :
    Eval.Steadily since among
      (note fun bound : Bindings × List Command => (bound.1.map Binding.bare, bareAll bound.2))
      (fun depth => Function.bindFormals (run host depth) kinds all formals rest)
      (Function.noteFormals kinds bares formals told) := by
  subst given
  induction formals generalizing rest told with
  | nil =>
    rw [Function.noteFormals, ← speak.bareAll_eq]
    exact Eval.steadily_pure _ (([], rest) : Bindings × List Command)
  | cons formal formals ih =>
    apply bindFormal_steadily speak formal
    intro binding left leftTold speak
    apply (ih speak).bind
    exact fun bound => Eval.steadily_pure _ (binding :: bound.1, bound.2)

/-- A call of a function with reliable code, on arguments that say the same whenever they are called,
comes to what is noted of it. -/
theorem callFunction_steadily (family : World.Family since among) {f : Function}
    {results : Bindings → Said Value} (reliable : Reliable host since among f results)
    {arguments : List Command} {told : List Account}
    (speak : Speak host since among arguments told) (kinds : List Kind) :
    Eval.Steadily since among (note Reply.bare)
      (fun depth => callFunction host (run host depth) (callLine (run host depth)) f arguments kinds)
      (f.noteCall results kinds told) := by
  have count := speak.length_eq
  -- Whichever cells the call takes for its arguments, they are the same without them.
  have given : ∀ cell, bareAll (Command.sharedFrom cell arguments) = told.map Prod.fst := by
    intro cell
    rw [bareAll_sharedFrom, speak.bareAll_eq]
  unfold Function.noteCall
  cases defers : f.defers told.length kinds with
  | true =>
    simp only [callFunction_of_defers (count ▸ defers)]
    apply shared_steadily family speak
    intro start inside
    apply (bindFormals_steadily (speak.shared family inside) (given _) kinds f.formals).bind
    intro bound
    have bare : Reply.bare (.command (f.curry (Command.sharedFrom start.cells.size arguments))) =
        .command (f.curry (told.map Prod.fst)) := by
      rw [Reply.bare, Function.bare_curry, given]
    show Eval.Steadily _ _ _ _ (pure (Reply.command (f.curry (told.map Prod.fst))))
    rw [← bare]
    exact Eval.steadily_pure Reply.bare _
  | false =>
    simp only [callFunction_of_not_defers (count ▸ defers), prepare, bind_assoc]
    apply shared_steadily family speak
    intro start inside
    apply (bindFormals_steadily (speak.shared family inside) (given _) kinds f.formals).bind
    intro bound
    have accepts := f.accept_map told.length kinds Binding.bare
      (bareAll_eq_map bound.2 ▸ List.length_map Command.bare)
    rw [Command.length_sharedFrom, count]
    apply (Eval.steadily_ofExcept _ accepts).bind
    intro bindings
    apply (steadily_opened family inside (reliable bindings) told).bind
    exact fun value => Eval.steadily_ofExcept _ (value.deliver_bare f kinds).symm

end Evaluate

end ChatLine
