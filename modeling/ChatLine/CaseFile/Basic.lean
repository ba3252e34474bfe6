import ChatLine.Line.Reader
import ChatLine.Text.Pieces

set_option autoImplicit false

namespace ChatLine

/-- A case: an input and the tree that it should be read as. -/
structure Case where
  name : String
  /-- The number of the line with the name, counted from one. -/
  line : Nat
  input : String
  expected : String
  skip : Option String
  deriving DecidableEq, Repr

namespace CaseFile

def nameMark : String := "# test:"

def skipMark : String := "# skip:"

def ruler : String := "---"

def closer : String := "==="

def isMark (mark line : String) : Bool :=
  Text.trim line == mark

/-- What follows `mark` in a line that begins with it, without white space around. -/
def marked? (mark line : String) : Option String :=
  (Text.afterStart? mark (Text.trim line)).map Text.trim

/-- The lines before the first one that is `mark`, and those after it. -/
def cutAtMark (mark : String) (lines : List String) : List String × List String :=
  let before := lines.takeWhile fun line => !isMark mark line
  (before, lines.drop (before.length + 1))

def skipReason? (header : List String) : Option String :=
  (header.filterMap (marked? skipMark)).getLast?

theorem cutAtMark_rest_length (mark : String) (lines : List String) :
    (cutAtMark mark lines).2.length ≤ lines.length := by
  simp only [cutAtMark, List.length_drop]
  omega

/-- Reads a case whose name stands in the line with the number `number`, from the lines after that
one, and leaves the lines after the case. -/
def readCase (name : String) (number : Nat) (lines : List String) : Case × List String :=
  let header := cutAtMark ruler lines
  let input := cutAtMark ruler header.2
  let expected := cutAtMark closer input.2
  ({ name, line := number
     input := "\n".intercalate input.1
     expected := Text.trim ("\n".intercalate expected.1)
     skip := skipReason? header.1 }, expected.2)

theorem readCase_rest_length (name : String) (number : Nat) (lines : List String) :
    (readCase name number lines).2.length ≤ lines.length :=
  Nat.le_trans (cutAtMark_rest_length closer _)
    (Nat.le_trans (cutAtMark_rest_length ruler _) (cutAtMark_rest_length ruler lines))

/-- Reads the cases of the last lines of a file of `total` lines; `name?` tells the name of a case from
a line that has one. -/
def casesOf (name? : String → Option String) (total : Nat) : List String → List Case
  | [] => []
  | line :: rest =>
    match name? line with
    | none => casesOf name? total rest
    | some name =>
      let found := readCase name (total - rest.length) rest
      found.1 :: casesOf name? total found.2
termination_by lines => lines.length
decreasing_by
  · simp
  · exact Nat.lt_succ_of_le (readCase_rest_length name _ rest)

def cases (content : String) : List Case :=
  casesOf (marked? nameMark) (Text.lines content).length (Text.lines content)

end CaseFile

inductive CaseResult where
  | pass
  | fail (expected actual : String)
  | skip (reason : String)
  deriving DecidableEq, Repr

namespace CaseResult

def isPass : CaseResult → Bool
  | pass => true
  | _ => false

def isFail : CaseResult → Bool
  | fail _ _ => true
  | _ => false

end CaseResult

namespace Case

/-- A text with one space in the place of each run of white space, and none at its ends. -/
def collapse (text : String) : String :=
  " ".intercalate (Text.words text)

/-- Runs a case: the tree of its input must be the expected one but for white space. -/
def run (case : Case) : CaseResult :=
  match case.skip with
  | some reason => .skip reason
  | none =>
    let actual := (Expr.read case.input).render
    if collapse actual == collapse case.expected then .pass else .fail case.expected actual

end Case

end ChatLine
