import ChatLine.Text.Quoted

set_option autoImplicit false

namespace ChatLine

/-- A stretch of a line, counted in characters. -/
structure Span where
  source : String
  position : Nat
  length : Nat
  deriving DecidableEq, Repr, Inhabited

/-- The characters of a stretch; one that leaves the line ends with it. -/
def Span.text (span : Span) : String :=
  String.ofList ((span.source.toList.drop span.position).take span.length)

/-- A part of a line. -/
inductive Expr where
  /-- A call; the first parameter names the command. -/
  | call (parameters : List Expr) (span : Span)
  /-- A text, free or quoted. -/
  | text (value : String) (span : Span)
  /-- A complaint about a part of a line. No line is read as one. -/
  | fault (description : String) (span : Span)
  deriving Repr, Inhabited

namespace Expr

def span : Expr → Span
  | call _ span => span
  | text _ span => span
  | fault _ span => span

def parameters : Expr → List Expr
  | call parameters _ => parameters
  | _ => []

def at? (expr : Expr) : List Nat → Option Expr
  | [] => some expr
  | index :: path =>
    match expr.parameters[index]? with
    | some parameter => parameter.at? path
    | none => none

mutual

def preorder (depth : Nat) : Expr → List (Nat × Expr)
  | call parameters span => (depth, call parameters span) :: preorderAll (depth + 1) parameters
  | text value span => [(depth, text value span)]
  | fault description span => [(depth, fault description span)]

def preorderAll (depth : Nat) : List Expr → List (Nat × Expr)
  | [] => []
  | expr :: rest => expr.preorder depth ++ preorderAll depth rest

end

mutual

def renderAfter (before : String) : Expr → String
  | call parameters _ => renderAllAfter (before ++ "(cmd") parameters ++ ")"
  | text value _ => before ++ Text.quote value
  | fault description _ => before ++ "(error " ++ Text.quote description ++ ")"

def renderAllAfter (before : String) : List Expr → String
  | [] => before
  | expr :: rest => renderAllAfter (expr.renderAfter (before ++ " ")) rest

end

def render (expr : Expr) : String := expr.renderAfter ""

def renderAll (exprs : List Expr) : String := renderAllAfter "" exprs

mutual

theorem renderAfter_eq (before : String) (expr : Expr) :
    expr.renderAfter before = before ++ expr.render := by
  match expr with
  | call parameters span =>
    simp only [render, renderAfter]
    rw [renderAllAfter_eq (before ++ "(cmd"), renderAllAfter_eq ("" ++ "(cmd")]
    simp only [String.append_assoc, String.empty_append]
  | text value span => simp only [render, renderAfter, String.empty_append]
  | fault description span =>
    simp only [render, renderAfter, String.empty_append, String.append_assoc]

theorem renderAllAfter_eq (before : String) (exprs : List Expr) :
    renderAllAfter before exprs = before ++ renderAll exprs := by
  match exprs with
  | [] => simp only [renderAll, renderAllAfter, String.append_empty]
  | expr :: rest =>
    simp only [renderAll, renderAllAfter]
    rw [renderAllAfter_eq (expr.renderAfter (before ++ " ")),
      renderAllAfter_eq (expr.renderAfter ("" ++ " ")), renderAfter_eq (before ++ " "),
      renderAfter_eq ("" ++ " ")]
    simp only [String.append_assoc, String.empty_append]

end

theorem render_call (parameters : List Expr) (span : Span) :
    (call parameters span).render = "(cmd" ++ renderAll parameters ++ ")" := by
  simp only [render, renderAfter, String.empty_append]
  rw [renderAllAfter_eq]

theorem render_text (value : String) (span : Span) :
    (text value span).render = Text.quote value := by
  simp only [render, renderAfter, String.empty_append]

theorem render_fault (description : String) (span : Span) :
    (fault description span).render = "(error " ++ Text.quote description ++ ")" := by
  simp only [render, renderAfter, String.empty_append]

theorem renderAll_nil : renderAll [] = "" := by
  simp only [renderAll, renderAllAfter]

theorem renderAll_cons (expr : Expr) (rest : List Expr) :
    renderAll (expr :: rest) = " " ++ expr.render ++ renderAll rest := by
  simp only [renderAll, renderAllAfter]
  rw [renderAllAfter_eq, renderAfter_eq]
  simp only [String.empty_append, renderAll]

def complaint (expr : Expr) (description : String) : Expr :=
  fault description expr.span

end Expr

/-- The complaint as shown to the user: the line, a mark under the stretch and the description. The
mark begins with a point where the stretch starts at the second character. -/
def Span.diagnostic (span : Span) (description : String) : String :=
  let indent :=
    match span.position with
    | 0 => ""
    | 1 => "."
    | position => String.ofList (List.replicate position ' ')
  span.source ++ "\n" ++ indent ++ String.ofList (List.replicate span.length '~') ++ "^\nError: "
    ++ description ++ "\n"

end ChatLine
