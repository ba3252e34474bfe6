import ChatLine.Documentation

set_option autoImplicit false

namespace ChatLine

inductive ParamType where
  | int
  /-- Single precision. -/
  | float
  | double
  | string
  /-- A type that the code itself reads from the text. -/
  | other (name : String)
  deriving DecidableEq, Repr, Inhabited

namespace ParamType

/-- How special a type is: overloads with lower ranks are tried first. -/
def rank : ParamType → Nat
  | int => 0
  | float => 1
  | double => 2
  | string => 3
  | other _ => 4

def name : ParamType → String
  | int => "int"
  | float => "float"
  | double => "double"
  | string => "string"
  | other name => name

end ParamType

/-- A formal parameter. -/
inductive Formal where
  /-- Marks code that reads the context; it takes no argument. -/
  | context
  /-- All arguments of the call, not evaluated; it takes none of them away. -/
  | arguments
  /-- The kinds that the caller wants; it takes no argument. -/
  | kinds
  /-- The next argument, read as a type. -/
  | plain (type : ParamType)
  /-- All arguments that are left, as texts. -/
  | tail
  deriving DecidableEq, Repr, Inhabited

namespace Formal

def isPositional : Formal → Bool
  | plain _ => true
  | tail => true
  | _ => false

def type? : Formal → Option ParamType
  | plain type => some type
  | tail => some .string
  | _ => none

def word? : Formal → Option String
  | plain type => some type.name
  | tail => some "string[]"
  | _ => none

def positional (formals : List Formal) : List Formal :=
  formals.filter isPositional

def tailIsLast (formals : List Formal) : Bool :=
  !(positional formals).dropLast.contains tail

end Formal

/-- The commands that every bot starts with, unless it is told otherwise. -/
inductive Builtin where
  | eval
  | choose
  | take
  | print
  | random
  /-- The help, with the name of the bot. -/
  | help (bot : String)
  | parameter
  | showTree
  | runAll
  | aliasAdd
  | aliasRemove
  | aliasShow
  | aliasList
  deriving DecidableEq, Repr, Inhabited

/-- The code of a function: one of the built-in commands, or code of the application by its number. -/
inductive Code where
  | builtin (builtin : Builtin)
  | host (index : Nat)
  deriving DecidableEq, Repr, Inhabited

/-- A function. -/
structure Function where
  name : String
  formals : List Formal
  /-- How many positional arguments a call needs. -/
  required : Nat
  code : Code
  tail_last : Formal.tailIsLast formals = true := by decide
  required_le : required ≤ (Formal.positional formals).length := by decide
  deriving DecidableEq, Repr

inductive FunctionError where
  | tailNotLast (function : String)
  | tooManyRequired (function : String) (required positional : Nat)
  deriving DecidableEq, Repr

def FunctionError.message : FunctionError → String
  | tailNotLast name =>
    "function " ++ name ++ ": ArrayTail must be the last positional parameter"
  | tooManyRequired name required positional =>
    "function " ++ name ++ ": " ++ toString required ++ " required arguments but only "
      ++ toString positional ++ " positional parameters"

namespace Function

/-- A function that requires an argument for every positional parameter. -/
def ofFormals (name : String) (formals : List Formal) (code : Code) :
    Except FunctionError Function :=
  if last : Formal.tailIsLast formals = true then
    .ok { name, formals, code, required := (Formal.positional formals).length,
          tail_last := last, required_le := Nat.le_refl _ }
  else .error (.tailNotLast name)

def requiring (f : Function) (required : Nat) : Except FunctionError Function :=
  if enough : required ≤ (Formal.positional f.formals).length then
    .ok { f with required := required, required_le := enough }
  else .error (.tooManyRequired f.name required (Formal.positional f.formals).length)

/-- How many arguments the plain parameters and the tail take; the tail counts once. -/
def positionalCount (f : Function) : Nat :=
  (Formal.positional f.formals).length

def hasTail (f : Function) : Bool :=
  f.formals.contains .tail

def types (f : Function) : List ParamType :=
  f.formals.filterMap Formal.type?

def describe (f : Function) : String :=
  f.name ++ "(" ++ ", ".intercalate (f.types.map ParamType.name) ++ ")"

end Function

structure Documented where
  documentation : Documentation
  function : Function
  deriving DecidableEq, Repr

namespace Documented

def path (command : Documented) : String :=
  command.documentation.path

/-- The path and the parameters, by which commands of one bot are told apart. -/
def fullName (command : Documented) : String :=
  command.path ++ " (" ++ ", ".intercalate (command.function.formals.filterMap Formal.word?) ++ ")"

def helpText (command : Documented) : String :=
  command.documentation.helpText

def help? (command : Documented) : Option String :=
  if command.helpText.isEmpty then none else some command.helpText

end Documented

end ChatLine
