import ChatLine.Program

set_option autoImplicit false

namespace ChatLine.Builtin.Eval

def documentation : Documentation :=
  ((Documentation.ofPath "eval").describedAs "Executes a given command or string").withUsage
      "<command> <arguments...>" "Executes the given command on arguments"
    |>.withUsage "<strings...>"
      "Concat the strings and execute them with the command system"

def run {σ : Type} (arguments : List Command) (kinds : List Kind) : Native σ Reply := do
  match arguments with
  | [] => Native.fail (.arity "need at least one argument to evaluate")
  | first :: rest =>
    match ← Native.call first [] Kind.commandOrText with
    | .command command => Native.call command rest kinds
    | .text head =>
      let others ← Native.texts rest
      Native.callLine (" ".intercalate (head :: others)) kinds
    | other =>
      Native.fail (Reply.mismatch "got" "eval argument" other.kind Kind.commandOrText)

def code {σ : Type} (bindings : Bindings) : Native σ Value := do
  let arguments ← Native.ofExcept (bindings.arguments 1)
  let kinds ← Native.ofExcept (bindings.kinds 2)
  return .reply (← run arguments kinds)

end ChatLine.Builtin.Eval
