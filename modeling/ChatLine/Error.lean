set_option autoImplicit false

namespace ChatLine

/-- The cause of a failure. -/
inductive CommandError where
  /-- Several command names match equally well. -/
  | ambiguousName (candidates : List String)
  /-- No command has a matching name. -/
  | nameNotFound (name : String)
  /-- A call has too few arguments. -/
  | arity (text : String)
  /-- An argument cannot be read as the type of its parameter. -/
  | typeCoercion (value : String) (target : String)
  /-- A number is outside the range of its type. -/
  | numberTooBig (value : String)
  /-- Every overload failed. -/
  | noMatchingOverload
  /-- A command cannot answer with any of the wanted kinds. -/
  | noMatchingKind (what : String)
  /-- The body of a function failed. -/
  | native (text : String)
  /-- The tokens of the call are spent. -/
  | budgetExhausted
  /-- Something already sits at the path. -/
  | duplicateCommand (path : String)
  /-- The path is malformed, or the tree has a command where it needs a group. -/
  | invalidPath (path : String) (text : String)
  /-- A value was asked for in a shape it does not have. -/
  | internal (text : String)
  deriving DecidableEq, Repr, Inhabited

/-- The class of an error. -/
inductive Reason where
  | ambiguousName
  | nameNotFound
  | arity
  | typeCoercion
  | noMatchingOverload
  | noMatchingKind
  | native
  | budgetExhausted
  | registration
  | internal
  deriving DecidableEq, Repr, Inhabited

namespace CommandError

def budgetMessage : String := "the command is too complex to execute"

def message : CommandError → String
  | ambiguousName candidates =>
    "ambiguous command, possible names: " ++ ", ".intercalate candidates
  | nameNotFound name => "no command found for \"" ++ name ++ "\""
  | arity text => text
  | typeCoercion value target => "could not convert \"" ++ value ++ "\" to " ++ target
  | numberTooBig value => "the number \"" ++ value ++ "\" is too big"
  | noMatchingOverload => "no matching function overload could be found"
  | noMatchingKind what => "no matching return type for " ++ what
  | native text => text
  | budgetExhausted => budgetMessage
  | duplicateCommand path => "a command already exists at \"" ++ path ++ "\""
  | invalidPath path text => "invalid command path \"" ++ path ++ "\": " ++ text
  | internal text => "internal error: " ++ text

def reason : CommandError → Reason
  | ambiguousName _ => .ambiguousName
  | nameNotFound _ => .nameNotFound
  | arity _ => .arity
  | typeCoercion _ _ => .typeCoercion
  | numberTooBig _ => .typeCoercion
  | noMatchingOverload => .noMatchingOverload
  | noMatchingKind _ => .noMatchingKind
  | native _ => .native
  | budgetExhausted => .budgetExhausted
  | duplicateCommand _ => .registration
  | invalidPath _ _ => .registration
  | internal _ => .internal

end CommandError

namespace Reason

def name : Reason → String
  | ambiguousName => "ambiguous_name"
  | nameNotFound => "name_not_found"
  | arity => "arity_error"
  | typeCoercion => "type_coercion_error"
  | noMatchingOverload => "no_matching_overload"
  | noMatchingKind => "no_matching_return_kind"
  | native => "native_invocation_error"
  | budgetExhausted => "budget_exhausted"
  | registration => "registration"
  | internal => "internal"

end Reason

end ChatLine
