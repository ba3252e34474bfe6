import ChatLine.Proofs.Calls.Ensures

set_option autoImplicit false

namespace ChatLine

variable {σ α β : Type} (call : Caller σ) (line : LineCaller σ)

namespace Eval

theorem ext {first second : Eval σ α}
    (same : ∀ world, first.run.run world = second.run.run world) : first = second := by
  apply ExceptT.ext
  apply StateT.ext
  exact same

end Eval

namespace Program

/-- Running a program and what follows on it is running the one after the other. -/
theorem run_bind (program : Program σ α) (next : α → Program σ β) :
    (program.bind next).run call line =
      program.run call line >>= fun value => (next value).run call line := by
  induction program with
  | done value => rfl
  | call scopes command arguments kinds after ih =>
    simp only [bind, run, ih, bind_assoc]
  | line text kinds after ih => simp only [bind, run, ih, bind_assoc]
  | look after ih => simp only [bind, run, ih, bind_assoc]
  | spend tokens after ih =>
    simp only [bind, run, ih, bind_assoc]
    congr 1
    funext world
    split
    · rfl
    · rw [bind_assoc]
  | administrator after ih => simp only [bind, run, ih, bind_assoc]
  | draw low high after ih => simp only [bind, run, ih, bind_assoc]
  | addAlias name text after ih => simp only [bind, run, ih, bind_assoc]
  | removeAlias name after ih => simp only [bind, run, ih, bind_assoc]
  | change update after ih => simp only [bind, run, ih, bind_assoc]

end Program

namespace Native

def runWith (native : Native σ α) : Eval σ (Except Failure α) :=
  native.run.run call line

variable {call line}

theorem runWith_bind (native : Native σ α) (next : α → Native σ β) :
    (native >>= next).runWith call line =
      native.runWith call line >>= fun
        | .ok value => (next value).runWith call line
        | .error failure => pure (.error failure) := by
  apply (Program.run_bind call line native.run _).trans
  congr 1
  funext result
  cases result <;> rfl

theorem runWith_discard (native : Native σ α) :
    (discard native).runWith call line =
      native.runWith call line >>= fun result => pure (result.map fun _ => ⟨⟩) := by
  apply (Program.run_bind call line native.run _).trans
  congr 1
  funext result
  cases result <;> rfl

theorem runWith_callLine (text : String) (kinds : List Kind) :
    (callLine text kinds).runWith call line =
      Eval.outcome (line text kinds) >>= fun outcome =>
        (ofExcept outcome : Native σ Reply).runWith call line := rfl

theorem runWith_callWithin (scopes : List Scope) (command : Command) (arguments : List Command)
    (kinds : List Kind) :
    (callWithin scopes command arguments kinds).runWith call line =
      Eval.outcome (Eval.inScopes scopes (call command arguments kinds)) >>= fun outcome =>
        (ofExcept outcome : Native σ Reply).runWith call line := rfl

end Native

end ChatLine
