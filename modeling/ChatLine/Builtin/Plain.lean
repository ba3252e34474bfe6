import ChatLine.Program

set_option autoImplicit false

namespace ChatLine.Builtin

namespace Print

def documentation : Documentation :=
  (Documentation.ofPath "print").describedAs "Lets you format multiple parameter to one."

def code {σ : Type} (bindings : Bindings) : Native σ Value := do
  return .string (String.join (← Native.ofExcept (bindings.tail 0)))

end Print

namespace Random

def documentation : Documentation :=
  ((Documentation.ofPath "rng").describedAs "Gets a random number.").withUsage
      "" "Gets a number between 0 and 2147483647"
    |>.withUsage "<max>" "Gets a number between 0 and <max>"
    |>.withUsage "<min> <max>" "Gets a number between <min> and <max>"

/-- The least number that can be drawn and the first that cannot. -/
def bounds (first second : Option Int) : Except CommandError (Int × Int) :=
  match first, second with
  | some a, some b => .ok (min a b, max a b)
  | some limit, none =>
    if limit ≤ 0 then .error (.native "value must be 0 or positive") else .ok (0, limit)
  | none, _ => .ok (0, 2147483647)

/-- The code of the command. Equal bounds leave nothing to draw. -/
def code {σ : Type} (bindings : Bindings) : Native σ Value := do
  let first ← Native.ofExcept (bindings.int? 0)
  let second ← Native.ofExcept (bindings.int? 1)
  let (low, high) ← Native.ofExcept (bounds first second)
  if low = high then return .int low else return .int (← Native.draw low high)

end Random

namespace ShowTree

def documentation : Documentation :=
  ((Documentation.ofPath "parse command").describedAs
      "Displays the parsed tree of a command line.").withUsage
    "<line>" "The command line to parse, starting with !"

/-- The tree of a line that begins with the command mark. -/
def show? (line : String) : Except CommandError String :=
  if (Text.trimStart line).toList.head? = some Scan.commandMark then .ok (Expr.read line).render
  else .error (.native "this is not a command")

def code {σ : Type} (bindings : Bindings) : Native σ Value := do
  let line ← Native.ofExcept (bindings.text 0)
  return .string (← Native.ofExcept (show? line))

end ShowTree

namespace RunAll

def documentation : Documentation :=
  ((Documentation.ofPath "xecute").describedAs "Evaluates all parameter.").withUsage
    "<commands...>" "Runs each command, discarding the results"

/-- The kinds that the arguments are asked for: any will do, and none at best. -/
def anyKind : List Kind := [.empty, .string, .enumerable, .command]

/-- Runs commands one after the other, up to the first that fails. -/
def run {σ : Type} : List Command → Native σ Unit
  | [] => pure ()
  | command :: rest => do
    discard (Native.call command [] anyKind)
    run rest

def code {σ : Type} (bindings : Bindings) : Native σ Value := do
  run (← Native.ofExcept (bindings.arguments 1))
  return .unit

end RunAll

end ChatLine.Builtin
