import ChatLine.CaseFile.Basic

set_option autoImplicit false

namespace ChatLine

structure CaseFailure where
  name : String
  line : Nat
  expected : String
  actual : String
  deriving DecidableEq, Repr

structure Summary where
  passed : Nat
  skipped : Nat
  /-- The cases that failed, in order. -/
  failures : List CaseFailure
  deriving DecidableEq, Repr

namespace Summary

def empty : Summary := ⟨0, 0, []⟩

def record (summary : Summary) (name : String) (line : Nat) : CaseResult → Summary
  | .pass => { summary with passed := summary.passed + 1 }
  | .skip _ => { summary with skipped := summary.skipped + 1 }
  | .fail expected actual =>
    { summary with failures := summary.failures ++ [⟨name, line, expected, actual⟩] }

def failed (summary : Summary) : Nat :=
  summary.failures.length

def total (summary : Summary) : Nat :=
  summary.passed + summary.failed + summary.skipped

def allPassed (summary : Summary) : Bool :=
  summary.failed = 0

def bar : String :=
  String.ofList (List.replicate 60 '=')

def failureText (failure : CaseFailure) : String :=
  "\n  " ++ failure.name ++ " (line " ++ toString failure.line ++ ")\n    expected: "
    ++ failure.expected ++ "\n    actual:   " ++ failure.actual ++ "\n"

def text (summary : Summary) : String :=
  "\n" ++ bar ++ "\n" ++ toString summary.total ++ " total: " ++ toString summary.passed
    ++ " passed, " ++ toString summary.failed ++ " failed, " ++ toString summary.skipped
    ++ " skipped\n" ++ String.join (summary.failures.map failureText) ++ bar ++ "\n"

def ofCases (cases : List Case) : Summary :=
  cases.foldl (fun summary case => summary.record case.name case.line case.run) empty

end Summary

end ChatLine
