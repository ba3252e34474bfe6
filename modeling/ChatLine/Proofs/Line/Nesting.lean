import ChatLine.Proofs.Line.Reading

set_option autoImplicit false

namespace ChatLine

namespace Expr

/-- Something holds of a part and of all parts in it. -/
def Everywhere (holds : Expr → Prop) (expr : Expr) : Prop :=
  ∀ path node, expr.at? path = some node → holds node

theorem everywhere_of_parameters {holds : Expr → Prop} {expr : Expr} (here : holds expr)
    (below : ∀ parameter ∈ expr.parameters, parameter.Everywhere holds) :
    expr.Everywhere holds := by
  intro path node reached
  cases path with
  | nil =>
    cases reached
    exact here
  | cons index path =>
    simp only [at?] at reached
    split at reached
    · rename_i parameter same
      exact below parameter (List.mem_of_getElem? same) path node reached
    · cases reached

/-- The stretch of a part lies in the line, those of its parameters lie in it, and each parameter
ends before the next one begins. -/
structure Nests (source : String) (expr : Expr) : Prop where
  source_eq : expr.span.source = source
  inside : expr.span.stop ≤ source.toList.length
  encloses : ∀ parameter ∈ expr.parameters,
    expr.span.position ≤ parameter.span.position ∧ parameter.span.stop ≤ expr.span.stop
  apart : expr.parameters.Pairwise fun first second => first.span.stop < second.span.position

/-- Parts that stand one after the other and end up to the position `last`, with parts in them that
nest. -/
structure Row (source : String) (last : Nat) (exprs : List Expr) : Prop where
  nest : ∀ expr ∈ exprs, expr.Everywhere (Nests source)
  ends : ∀ expr ∈ exprs, expr.span.stop ≤ last
  apart : exprs.Pairwise fun first second => first.span.stop < second.span.position

variable {source : String} {last start stop : Nat} {expr : Expr} {exprs : List Expr}

theorem stop_of_le (source : String) (ordered : start ≤ stop) :
    Span.stop ⟨source, start, stop - start⟩ = stop :=
  Nat.add_sub_of_le ordered

theorem Row.nil : Row source last [] :=
  ⟨List.forall_mem_nil _, List.forall_mem_nil _, .nil⟩

theorem Row.cons (nests : expr.Everywhere (Nests source)) (ends : expr.span.stop ≤ last)
    (before : ∀ other ∈ exprs, expr.span.stop < other.span.position) (row : Row source last exprs) :
    Row source last (expr :: exprs) :=
  ⟨List.forall_mem_cons.2 ⟨nests, row.nest⟩, List.forall_mem_cons.2 ⟨ends, row.ends⟩,
    .cons before row.apart⟩

theorem everywhere_nests_text {value : String} {position length : Nat}
    (inside : position + length ≤ source.toList.length) :
    (text value ⟨source, position, length⟩).Everywhere (Nests source) :=
  everywhere_of_parameters ⟨rfl, inside, List.forall_mem_nil _, .nil⟩ (List.forall_mem_nil _)

theorem Row.call (row : Row source stop exprs) (ordered : start ≤ stop)
    (begins : ∀ expr ∈ exprs, start ≤ expr.span.position) (inside : stop ≤ source.toList.length) :
    (call exprs ⟨source, start, stop - start⟩).Everywhere (Nests source) := by
  have whole := stop_of_le source ordered
  refine everywhere_of_parameters ⟨rfl, ?_, fun expr member => ⟨begins expr member, ?_⟩, row.apart⟩
    row.nest
  · show Span.stop ⟨source, start, stop - start⟩ ≤ _
    rw [whole]
    exact inside
  · show expr.span.stop ≤ Span.stop ⟨source, start, stop - start⟩
    rw [whole]
    exact row.ends expr member

end Expr

namespace Grammar

open ChatLine.Expr

variable {source : String} {position stop : Nat} {chars : List Char} {exprs : List Expr}
  {left : Option (List Char)}

theorem Placed.stop_le (placed : Placed source position chars exprs stop left)
    (here : StandsAt source position chars) : stop ≤ source.toList.length := by
  have behind := (placed.standsAt here).length
  omega

theorem Placed.row (placed : Placed source position chars exprs stop left)
    (here : StandsAt source position chars) : Row source stop exprs := by
  induction placed with
  | ended position => exact .nil
  | closed position rest => exact .nil
  | blank white after ih => exact ih here.tail
  | @quoted position stop raw rest exprs left escaped closes after ih =>
    have later := here.quoted
    have bound := later.length
    have longer := after.le_stop
    refine .cons (everywhere_nests_text (by omega)) ?_ ?_ (ih later)
    · show position + 1 + raw.length ≤ stop
      omega
    · intro other member
      have begins := after.position_le other member
      show position + 1 + raw.length < other.span.position
      omega
  | @quotedToEnd position raw escaped =>
    have bound := here.tail.length
    refine .cons (everywhere_nests_text (by omega)) ?_ (List.forall_mem_nil _) .nil
    show position + 1 + raw.length ≤ position + raw.length + 1
    omega
  | @call position closing stop inside rest parameters exprs left within after within_ih ih =>
    have inner := here.tail.tail
    have later := (within.standsAt inner).tail
    have ordered := within.le_stop
    have longer := after.le_stop
    have ends := stop_of_le source (show position + 1 ≤ closing by omega)
    refine .cons ((within_ih inner).call (by omega) ?_ (within.stop_le inner)) ?_ ?_ (ih later)
    · intro parameter member
      exact Nat.le_of_succ_le (within.position_le parameter member)
    · show Span.stop ⟨source, position + 1, closing - (position + 1)⟩ ≤ stop
      omega
    · intro other member
      have begins := after.position_le other member
      show Span.stop ⟨source, position + 1, closing - (position + 1)⟩ < other.span.position
      rw [ends]
      exact begins
  | @callToEnd position stop inside parameters within within_ih =>
    have inner := here.tail.tail
    have ended : stop = source.toList.length := (within.standsAt inner).length
    have ordered := within.le_stop
    rw [← ended]
    refine .cons ((within_ih inner).call (by omega) ?_ (within.stop_le inner)) ?_
      (List.forall_mem_nil _) .nil
    · intro parameter member
      exact Nat.le_of_succ_le (within.position_le parameter member)
    · exact Nat.le_of_eq (stop_of_le source (by omega))
  | @free position stop word rest exprs left present unquoted unbroken ends after ih =>
    have later := here.after
    have bound := later.length
    -- what ends the text stands between it and the next parameter
    exact .cons (everywhere_nests_text (by omega)) after.le_stop (after.position_lt ends) (ih later)

theorem PlacedLine.nests {line : String} {expr : Expr} (placed : PlacedLine line expr) :
    expr.Everywhere (Nests line) := by
  cases placed with
  | marked begins parameters =>
    have here : StandsAt line 1 _ := ⟨['!'], begins, rfl⟩
    exact (parameters.row here).call (Nat.zero_le _) (fun _ _ => Nat.zero_le _)
      (parameters.stop_le here)
  | unmarked bare parameters =>
    have here := standsAt_start line
    exact (parameters.row here).call (Nat.zero_le _) (fun _ _ => Nat.zero_le _)
      (parameters.stop_le here)

end Grammar

/-- The stretches of a line nest: that of every part lies in the line, those of the parameters of a
call lie in that of the call, and parameters that follow each other are apart. -/
theorem Expr.spans_nest {line : String} {path : List Nat} {node : Expr}
    (reached : (Expr.read line).at? path = some node) :
    node.span.source = line ∧ node.span.position + node.span.length ≤ line.toList.length ∧
      (∀ parameter ∈ node.parameters, node.span.position ≤ parameter.span.position ∧
        parameter.span.position + parameter.span.length ≤ node.span.position + node.span.length) ∧
      node.parameters.Pairwise fun first second =>
        first.span.position + first.span.length < second.span.position := by
  have nests := (Expr.placedLine_read line).nests path node reached
  exact ⟨nests.source_eq, nests.inside, nests.encloses, nests.apart⟩

/-- A call that is open at the end of the line, with parameters that touch: a text, a call and a
quote that is not closed. -/
theorem Expr.spans_nest_unclosed :
    (Expr.read "(!b(!)\"e").at? [0] =
        some (.call [.text "b" ⟨"(!b(!)\"e", 2, 1⟩, .call [] ⟨"(!b(!)\"e", 4, 1⟩,
          .text "e" ⟨"(!b(!)\"e", 7, 1⟩] ⟨"(!b(!)\"e", 1, 7⟩) ∧
      1 + 7 ≤ "(!b(!)\"e".toList.length ∧
      [Expr.text "b" ⟨"(!b(!)\"e", 2, 1⟩, .call [] ⟨"(!b(!)\"e", 4, 1⟩,
        .text "e" ⟨"(!b(!)\"e", 7, 1⟩].Pairwise fun first second =>
          first.span.position + first.span.length < second.span.position := by
  have reached : (Expr.read "(!b(!)\"e").at? [0] =
      some (.call [.text "b" ⟨"(!b(!)\"e", 2, 1⟩, .call [] ⟨"(!b(!)\"e", 4, 1⟩,
        .text "e" ⟨"(!b(!)\"e", 7, 1⟩] ⟨"(!b(!)\"e", 1, 7⟩) := by decide +kernel
  have nests := Expr.spans_nest reached
  exact ⟨reached, nests.2.1, nests.2.2.2⟩

end ChatLine
