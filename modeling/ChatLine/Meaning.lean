import ChatLine.Command
import ChatLine.Line.Reader

set_option autoImplicit false

namespace ChatLine.Expr

mutual

def toCommand : Expr → Except CommandError Command
  | call parameters _ => do return .applied .root (← toCommands parameters)
  | text value _ => .ok (.literal value)
  | fault description _ => .error (.internal ("cannot execute an error node: " ++ description))

/-- The commands that parts of a line mean, up to the first that means nothing. -/
def toCommands : List Expr → Except CommandError (List Command)
  | [] => .ok []
  | expr :: rest => do
    let command ← expr.toCommand
    return command :: (← toCommands rest)

end

end ChatLine.Expr
