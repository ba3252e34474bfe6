import ChatLine.Proofs.Calls.Steps
import ChatLine.Proofs.Parallel.Journal

set_option autoImplicit false

namespace ChatLine

variable {σ α : Type}

def Binding.asking (kinds : List Kind) : Binding → Binding
  | .kinds _ => .kinds kinds
  | other => other

def Bindings.asking (bindings : Bindings) (kinds : List Kind) : Bindings :=
  bindings.map (Binding.asking kinds)

theorem Binding.asking_of_coerce {text : String} {type : ParamType} {binding : Binding}
    (found : coerce text type = .ok binding) (kinds : List Kind) : binding.asking kinds = binding := by
  obtain ⟨value, rfl⟩ | ⟨value, rfl⟩ | rfl := exists_of_coerce found <;> rfl

/-- The code of the function does not look at the kinds that the caller wants. -/
def Function.IgnoresKinds (host : Host σ) (f : Function) : Prop :=
  .kinds ∈ f.formals → ∀ bindings kinds,
    host.codeOf f.code (bindings.asking kinds) = host.codeOf f.code bindings

/-- What becomes of an outcome when a command may be the answer too. -/
inductive Outcome.Widens : Outcome → Outcome → Prop
  | answered (reply : Reply) : Widens (.ok reply) (.ok reply)
  | failed {error other : CommandError}
      (alike : error = .budgetExhausted ↔ other = .budgetExhausted) :
      Widens (.error error) (.error other)
  | handedBack {error : CommandError} (paid : error ≠ .budgetExhausted) (command : Command) :
      Widens (.error error) (.ok (.command command))

theorem Outcome.Widens.refl (outcome : Outcome) : Widens outcome outcome := by
  cases outcome with
  | ok reply => exact .answered reply
  | error error => exact .failed Iff.rfl

/-- In worlds that are the same but for the journal, the second computation ends as the first, except
that it may answer with a command where the first fails. -/
def Eval.Widens (first second : Eval σ Reply) : Prop :=
  ∀ world other, World.UpToJournal world other →
    Option.Rel (fun made twin => Outcome.Widens made.1 twin.1 ∧ made.2.UpToJournal twin.2)
      (first.run.run world) (second.run.run other)

namespace Eval

theorem Parallel.widens {first second : Eval σ Reply}
    (parallel : first.Parallel World.UpToJournal second) : first.Widens second := by
  intro world other same
  have both := parallel world other same
  unfold ParallelAt at both
  generalize first.run.run world = made at both ⊢
  generalize second.run.run other = twin at both ⊢
  cases both with
  | none => exact .none
  | @some made twin both =>
    refine .some ⟨?_, both.2⟩
    rw [both.1]
    exact .refl twin.1

theorem Parallel.bind_widens {first second : Eval σ α} {next following : α → Eval σ Reply}
    (parts : first.Parallel World.UpToJournal second)
    (rests : ∀ value, (next value).Widens (following value)) :
    (first >>= next).Widens (second >>= following) := by
  intro world other same
  have both := parts world other same
  unfold ParallelAt at both
  rw [run_bind, run_bind]
  generalize first.run.run world = made at both ⊢
  generalize second.run.run other = twin at both ⊢
  cases both with
  | none => exact .none
  | @some made twin both =>
    obtain ⟨error | value, after⟩ := made
    · obtain ⟨_, later⟩ := twin
      obtain ⟨rfl, same⟩ := both
      exact .some ⟨.failed Iff.rfl, same⟩
    · obtain ⟨_, later⟩ := twin
      obtain ⟨rfl, same⟩ := both
      exact rests value after later same

theorem Widens.exists_of_run {first second : Eval σ Reply} (widens : first.Widens second)
    {world other after : World σ} {outcome : Outcome}
    (runs : first.run.run world = some (outcome, after)) (same : world.UpToJournal other) :
    ∃ outcome' later, second.run.run other = some (outcome', later) ∧
      Outcome.Widens outcome outcome' ∧ after.UpToJournal later := by
  have both := widens world other same
  rw [runs] at both
  generalize second.run.run other = twin at both
  cases both with
  | @some _ twin both => exact ⟨twin.1, twin.2, rfl, both⟩

theorem widens_ofExcept {made twin : Outcome} (widens : Outcome.Widens made twin) :
    (ofExcept made : Eval σ Reply).Widens (ofExcept twin) := by
  intro world other same
  rw [run_ofExcept, run_ofExcept]
  exact .some ⟨widens, same⟩

theorem widens_throw {error other : CommandError}
    (alike : error = .budgetExhausted ↔ other = .budgetExhausted) :
    (throw error : Eval σ Reply).Widens (throw other) :=
  widens_ofExcept (.failed alike)

theorem widens_handedBack {error : CommandError} (paid : error ≠ .budgetExhausted)
    (command : Command) :
    (throw error : Eval σ Reply).Widens (pure (.command command)) :=
  widens_ofExcept (.handedBack paid command)

theorem Widens.recorded {first second : Eval σ Reply} (widens : first.Widens second) :
    (Eval.recorded first).Widens (Eval.recorded second) := by
  intro world other same
  have both := widens world other same
  rw [run_recorded, run_recorded]
  generalize first.run.run world = made at both ⊢
  generalize second.run.run other = twin at both ⊢
  cases both with
  | none => exact .none
  | @some made twin both =>
    obtain ⟨outcome, after⟩ := made
    obtain ⟨outcome', later⟩ := twin
    obtain ⟨widens, same⟩ := both
    have failed (error : CommandError) := World.upToJournal_record after
      (.failed error after.attempts)
    have failedToo (error : CommandError) := World.upToJournal_record later
      (.failed error later.attempts)
    cases widens with
    | answered reply => exact .some ⟨.answered reply, same⟩
    | failed alike => exact .some ⟨.failed alike, ((failed _).symm.trans same).trans (failedToo _)⟩
    | handedBack paid command => exact .some ⟨.handedBack paid command, (failed _).symm.trans same⟩

end Eval

namespace Function

variable {call : Caller σ}

theorem bindFormal_asking (kinds others : List Kind) (all : List Command) (formal : Formal)
    (rest : List Command) :
    bindFormal call others all formal rest =
      Prod.map (Binding.asking others) id <$> bindFormal call kinds all formal rest := by
  cases formal with
  | context => rfl
  | arguments => rfl
  | kinds => rfl
  | tail =>
    simp only [bindFormal, map_bind, map_pure]
    rfl
  | plain type =>
    cases rest with
    | nil => cases type <;> rfl
    | cons argument rest =>
      simp only [bindFormal, map_bind, map_pure]
      congr 1
      funext text
      cases found : Binding.coerce text type with
      | error error => rfl
      | ok binding =>
        show (pure (binding, rest) : Eval σ _) = pure (binding.asking others, rest)
        rw [Binding.asking_of_coerce found]

/-- Who asks for other kinds has the same bindings, but for the kinds. -/
theorem bindFormals_asking (kinds others : List Kind) (all : List Command) (formals : List Formal)
    (rest : List Command) :
    bindFormals call others all formals rest =
      Prod.map (Bindings.asking · others) id <$> bindFormals call kinds all formals rest := by
  induction formals generalizing rest with
  | nil => rfl
  | cons formal formals ih =>
    simp only [bindFormals, bindFormal_asking kinds others, ih, map_bind, bind_map_left, map_pure]
    rfl

/-- Without a parameter for the kinds, the bindings are the same whatever is asked for. -/
theorem bindFormals_of_not_mem {formals : List Formal} (absent : .kinds ∉ formals)
    (kinds others : List Kind) (all rest : List Command) :
    bindFormals call others all formals rest = bindFormals call kinds all formals rest := by
  induction formals generalizing rest with
  | nil => rfl
  | cons formal formals ih =>
    rw [List.mem_cons, not_or] at absent
    have same (rest : List Command) :
        bindFormal call others all formal rest = bindFormal call kinds all formal rest := by
      cases formal with
      | kinds => exact absurd rfl absent.1
      | _ => rfl
    simp only [bindFormals, same, ih absent.2]

end Function

theorem Reply.fits_append {reply : Reply} {kinds : List Kind} (fits : reply.fits kinds)
    (others : List Kind) : reply.fits (kinds ++ others) :=
  (reply.fits_iff _).2 (List.mem_append_left others ((reply.fits_iff kinds).1 fits))

theorem Reply.require_widens (reply : Reply) (kinds : List Kind) (what : String) :
    Outcome.Widens (reply.require kinds what) (reply.require (kinds ++ [.command]) what) := by
  unfold require
  by_cases fits : reply.fits kinds
  · rw [if_pos fits, if_pos (fits_append fits _)]
    exact .answered reply
  · rw [if_neg fits]
    split
    · rename_i more
      have last : reply.kind = .command :=
        List.mem_singleton.1 ((List.mem_append.1 ((reply.fits_iff _).1 more)).resolve_left
          fun among => fits ((reply.fits_iff kinds).2 among))
      cases reply with
      | command command => exact .handedBack (by nofun) command
      | _ => cases last
    · exact .failed ⟨by nofun, by nofun⟩

/-- A value that can be given to one who asks for some kinds is given to one who would take a command
too. -/
theorem Value.deliver_widens (value : Value) (f : Function) (kinds : List Kind) :
    Outcome.Widens (value.deliver f kinds) (value.deliver f (kinds ++ [.command])) := by
  -- No value that is not a reply can be a command.
  have answer : (kinds ++ [Kind.command]).findSome? value.answer? =
      kinds.findSome? value.answer? := by
    rw [List.findSome?_append]
    exact Option.or_none
  have text : (kinds ++ [Kind.command]).contains .string = kinds.contains .string := by
    simp
  cases value with
  | reply complete => exact complete.require_widens kinds f.name
  | _ =>
    simp only [deliver, answer, text]
    split
    · exact .answered _
    · split
      · exact .answered _
      · exact .failed ⟨by nofun, by nofun⟩

/-- Whoever asks for a command last sees the same bindings, up to a change that the code of the
function does not notice. -/
theorem Function.IgnoresKinds.bindFormals {host : Host σ} {f : Function}
    (ignores : f.IgnoresKinds host) (call : Caller σ) (kinds others : List Kind)
    (all rest : List Command) :
    ∃ change : Bindings → Bindings,
      Function.bindFormals call others all f.formals rest =
        Prod.map change id <$> Function.bindFormals call kinds all f.formals rest ∧
      ∀ bindings, host.codeOf f.code (change bindings) = host.codeOf f.code bindings := by
  by_cases looks : .kinds ∈ f.formals
  · exact ⟨_, bindFormals_asking kinds others all f.formals rest,
      fun bindings => ignores looks bindings others⟩
  · refine ⟨id, ?_, fun _ => rfl⟩
    rw [Prod.map_id, id_map]
    exact bindFormals_of_not_mem looks kinds others all rest

namespace Evaluate

/-- One of the functions that fail before any answers would answer with a command, if asked for one
last. -/
inductive Displaces (call : Caller σ) (arguments : List Command) (kinds : List Kind) :
    World σ → List Function → Prop
  | here {world after later : World σ} {f : Function} {rest : List Function} {error : CommandError}
      {command : Command}
      (fails : (call (.function f) arguments kinds).run.run
        { world with attempts := world.attempts + 1 } = some (.error error, after))
      (answers : (call (.function f) arguments (kinds ++ [.command])).run.run
        { world with attempts := world.attempts + 1 } = some (.ok (.command command), later)) :
      Displaces call arguments kinds world (f :: rest)
  | later {world after : World σ} {f : Function} {rest : List Function} {error : CommandError}
      (fails : (call (.function f) arguments kinds).run.run
        { world with attempts := world.attempts + 1 } = some (.error error, after))
      (among : Displaces call arguments kinds { after with attempts := after.attempts - 1 } rest) :
      Displaces call arguments kinds world (f :: rest)

variable {host : Host σ} {call : Caller σ} {line : LineCaller σ} {kinds : List Kind}

/-- A function that answers gives the same answer to one who would take a command as well. -/
theorem callFunction_widens (twice : call.Parallel World.UpToJournal call)
    (linesTwice : line.Parallel World.UpToJournal line) {f : Function}
    (ignores : f.IgnoresKinds host) (without : .command ∉ kinds) (arguments : List Command) :
    (callFunction host call line f arguments kinds).Widens
      (callFunction host call line f arguments (kinds ++ [.command])) := by
  have coherent : World.Coherent (World.UpToJournal : World σ → World σ → Prop) :=
    World.coherent_upToJournal
  unfold callFunction
  apply (Eval.parallel_share coherent arguments).bind_widens
  intro shared
  obtain ⟨change, bound, blind⟩ := ignores.bindFormals call kinds (kinds ++ [.command]) shared shared
  rw [bound, bind_map_left]
  have congruence := Eval.congruence_parallel coherent
  apply (congruence.bindFormals twice kinds shared f.formals shared).bind_widens
  rintro ⟨bindings, rest⟩
  have invoked : invoke host call line f (change bindings) = invoke host call line f bindings := by
    unfold invoke
    rw [blind]
  dsimp only [Prod.map, id]
  rw [invoked]
  have wanted : (kinds ++ [Kind.command]).contains .command := by simp
  have unwanted : ¬ kinds.contains .command := by simpa using without
  by_cases few : shared.length - rest.length < f.required
  · rw [if_pos few, if_pos few, if_neg unwanted, if_pos wanted]
    exact Eval.widens_handedBack (by nofun) _
  · rw [if_neg few, if_neg few]
    generalize (f.hasTail || decide (shared.length - rest.length < f.positionalCount)) = takesMore
    -- The head of the kinds decides whether the code runs, and a command at the end is never the head
    -- unless nothing else is asked for.
    have plain : kinds.filter (fun kind => takesMore || kind != .command) = kinds := by
      rw [List.filter_eq_self]
      intro kind among
      have other : kind ≠ .command := fun same => without (same ▸ among)
      simp [other]
    rw [List.filter_append, plain]
    cases kinds with
    | nil =>
      cases takesMore with
      | true => exact Eval.widens_handedBack (by nofun) _
      | false => exact Eval.widens_throw ⟨by nofun, by nofun⟩
    | cons kind others =>
      have answers : (do Eval.ofExcept ((← invoke host call line f bindings).deliver f
            (kind :: others)) : Eval σ Reply).Widens
          (do Eval.ofExcept ((← invoke host call line f bindings).deliver f
            (kind :: others ++ [.command]))) :=
        (invoke_parallel coherent twice linesTwice (.inr World.spending_upToJournal) f
          bindings).bind_widens fun value =>
            Eval.widens_ofExcept (value.deliver_widens f (kind :: others))
      cases kind with
      | command => exact absurd List.mem_cons_self without
      | _ => exact answers

theorem callLiteral_widens (text : String) (kinds : List Kind) :
    Outcome.Widens (callLiteral text kinds) (callLiteral text (kinds ++ [.command])) := by
  have wanted : (kinds ++ [Kind.command]).contains .string = kinds.contains .string := by simp
  unfold callLiteral
  rw [wanted]
  split
  · exact .answered _
  · exact .failed Iff.rfl

/-- A command of the application that does not look at the kinds ends in the same way whatever is
asked for. -/
theorem callForeign_widens (twice : call.Parallel World.UpToJournal call)
    (linesTwice : line.Parallel World.UpToJournal line) {index : Nat}
    (ignores : ∀ code, host.foreign index = some code → ∀ arguments kinds others,
      code arguments kinds = code arguments others)
    (label : String) (arguments : List Command) :
    (callForeign host call line label index arguments kinds).Widens
      (callForeign host call line label index arguments (kinds ++ [.command])) := by
  have blind : callForeign host call line label index arguments (kinds ++ [.command]) =
      callForeign host call line label index arguments kinds := by
    unfold callForeign
    cases found : host.foreign index with
    | none => rfl
    | some code =>
      dsimp only
      rw [ignores code found arguments kinds (kinds ++ [.command])]
  rw [blind]
  exact (callForeign_parallel World.coherent_upToJournal twice linesTwice
    (.inr World.spending_upToJournal) label index arguments kinds).widens

/-- The overload that answers still does, unless one that was tried before it would rather answer
with a command. -/
theorem callFirst_widens (twice : call.Parallel World.UpToJournal call)
    {arguments : List Command} {functions : List Function}
    (widens : ∀ f ∈ functions, (call (.function f) arguments kinds).Widens
      (call (.function f) arguments (kinds ++ [.command]))) {reply : Reply}
    {world other after : World σ} (same : world.UpToJournal other)
    (runs : (callFirst call arguments kinds functions).run.run world = some (.ok reply, after)) :
    (∃ later, (callFirst call arguments (kinds ++ [.command]) functions).run.run other =
        some (.ok reply, later) ∧ after.UpToJournal later) ∨
      Displaces call arguments kinds world functions := by
  -- Each failure is recorded with the kinds that were asked for, so that the worlds in which the next
  -- function is tried are the same only up to the journal.
  induction functions generalizing world other with
  | nil => cases runs
  | cons f rest ih =>
    have begun : World.UpToJournal { world with attempts := world.attempts + 1 }
        { other with attempts := other.attempts + 1 } :=
      same.change (World.aside_attempts (· + 1))
    cases found : (call (.function f) arguments kinds).run.run
        { world with attempts := world.attempts + 1 } with
    | none =>
      rw [run_callFirst, found] at runs
      cases runs
    | some made =>
      obtain ⟨outcome, tried⟩ := made
      obtain ⟨outcome', triedToo, foundToo, both, tried_same⟩ :=
        (widens f List.mem_cons_self).exists_of_run found begun
      have ended : World.UpToJournal { tried with attempts := tried.attempts - 1 }
          { triedToo with attempts := triedToo.attempts - 1 } :=
        tried_same.change (World.aside_attempts (· - 1))
      cases both with
      | answered =>
        rw [run_callFirst, found] at runs
        rw [run_callFirst, foundToo]
        cases runs
        exact .inl ⟨_, rfl, ended⟩
      | @failed error error' alike =>
        by_cases exhausted : error = .budgetExhausted
        · rw [exhausted] at found
          rw [run_callFirst, found] at runs
          cases runs
        · rw [run_callFirst_of_error found exhausted] at runs
          rw [run_callFirst_of_error foundToo (exhausted ∘ alike.2)]
          rcases ih (fun f among => widens f (List.mem_cons_of_mem _ among)) ended runs with
            answered | displaces
          · exact .inl answered
          · exact .inr (.later found displaces)
      | handedBack paid command =>
        -- The answer in the other world, carried back to the one that the attempt is told of.
        obtain ⟨later, answers, -⟩ := (twice (.function f) arguments
          (kinds ++ [.command])).run_eq_some foundToo begun.symm
        exact .inr (.here found answers)

end Evaluate

end ChatLine
