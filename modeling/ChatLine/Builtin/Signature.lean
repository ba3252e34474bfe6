import ChatLine.Function

set_option autoImplicit false

namespace ChatLine.Builtin

def path : Builtin → String
  | eval => "eval"
  | choose => "if"
  | take => "take"
  | print => "print"
  | random => "rng"
  | help _ => "help"
  | parameter => "param"
  | showTree => "parse command"
  | runAll => "xecute"
  | aliasAdd => "alias add"
  | aliasRemove => "alias remove"
  | aliasShow => "alias show"
  | aliasList => "alias list"

def formals : Builtin → List Formal
  | eval => [.context, .arguments, .kinds]
  | choose => [.context, .arguments, .kinds]
  | take => [.context, .arguments, .kinds]
  | print => [.tail]
  | random => [.plain .int, .plain .int]
  | help _ => [.tail]
  | parameter => [.context, .plain .int, .kinds]
  | showTree => [.plain .string]
  | runAll => [.context, .arguments]
  | aliasAdd => [.plain .string, .tail]
  | aliasRemove => [.plain .string]
  | aliasShow => [.plain .string]
  | aliasList => []

/-- How many positional arguments a built-in command needs. -/
def required : Builtin → Nat
  | eval => 0
  | choose => 0
  | take => 0
  | print => 0
  | random => 0
  | help _ => 0
  | parameter => 1
  | showTree => 1
  | runAll => 0
  | aliasAdd => 2
  | aliasRemove => 1
  | aliasShow => 1
  | aliasList => 0

theorem tailIsLast_formals (builtin : Builtin) : Formal.tailIsLast builtin.formals = true := by
  cases builtin <;> rfl

theorem required_le_positional (builtin : Builtin) :
    builtin.required ≤ (Formal.positional builtin.formals).length := by
  cases builtin <;> exact Nat.le_of_ble_eq_true rfl

def function (builtin : Builtin) : Function where
  name := builtin.path
  formals := builtin.formals
  required := builtin.required
  code := .builtin builtin
  tail_last := builtin.tailIsLast_formals
  required_le := builtin.required_le_positional

end ChatLine.Builtin
