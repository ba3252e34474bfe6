import ChatLine.Line.Expr
import ChatLine.Line.Scan

set_option autoImplicit false

namespace ChatLine

/-- A call that is not closed yet, with its parameters so far, the last one first. -/
structure OpenCall where
  start : Nat
  parameters : List Expr

namespace OpenCall

def push (call : OpenCall) (parameter : Expr) : OpenCall :=
  ⟨call.start, parameter :: call.parameters⟩

def close (source : String) (call : OpenCall) (stop : Nat) : Expr :=
  .call call.parameters.reverse ⟨source, call.start, stop - call.start⟩

end OpenCall

inductive Stage where
  /-- A call begins, with its mark if it has one. -/
  | command
  /-- White space is skipped, and the character after it decides. -/
  | select
  | free
  | quoted
  /-- The reading is over. -/
  | finish
  deriving DecidableEq, Repr

/-- A reader at a place of its line. Every line is read as one call, and what is open at its end is
closed there. -/
structure Reader where
  stage : Stage
  position : Nat
  /-- The characters from the place on. -/
  rest : List Char
  /-- The open calls, the innermost first. -/
  opened : List OpenCall
  /-- The outermost call, once it is closed. -/
  root? : Option Expr

namespace Reader

def start (line : List Char) : Reader := ⟨.command, 0, line, [], none⟩

def push (reader : Reader) (parameter : Expr) : Reader :=
  match reader.opened with
  | [] => reader
  | call :: others => { reader with opened := call.push parameter :: others }

/-- Closes the innermost open call before a position: it becomes a parameter of the call around it, or
the root. -/
def close (source : String) (stop : Nat) (reader : Reader) : Reader :=
  match reader.opened with
  | [] => reader
  | [call] => { reader with opened := [], root? := some (call.close source stop) }
  | call :: outer :: others =>
    { reader with opened := outer.push (call.close source stop) :: others }

def command (reader : Reader) : Reader :=
  let opened := ⟨reader.position, []⟩ :: reader.opened
  match reader.rest with
  | '!' :: rest =>
    { reader with stage := .select, position := reader.position + 1, rest := rest, opened := opened }
  | _ => { reader with stage := .select, opened := opened }

def skipBlank (reader : Reader) : Reader :=
  { reader with
    position := reader.position + (reader.rest.takeWhile Text.isBlank).length
    rest := reader.rest.dropWhile Text.isBlank }

def select (source : String) (reader : Reader) : Reader :=
  let reader := reader.skipBlank
  match reader.rest with
  | [] => { reader with stage := .finish }
  | '"' :: _ => { reader with stage := .quoted }
  | '(' :: '!' :: rest =>
    { reader with stage := .command, position := reader.position + 1, rest := '!' :: rest }
  | ')' :: rest =>
    let closed := reader.close source reader.position
    { closed with
      stage := if closed.opened.isEmpty then .finish else .select
      position := reader.position + 1
      rest := rest }
  | _ => { reader with stage := .free }

def free (source : String) (reader : Reader) : Reader :=
  let found := Scan.scanFree reader.rest
  { reader.push (.text (String.ofList found.value) ⟨source, reader.position, found.length⟩) with
    stage := .select
    position := reader.position + found.length
    rest := found.rest }

/-- Reads a quoted text. Its stretch of the line is that between the quotes. -/
def quoted (source : String) (reader : Reader) : Reader :=
  let found := Scan.scanQuoted [] 0 false (reader.rest.drop 1)
  { reader.push (.text (String.ofList found.value) ⟨source, reader.position + 1, found.length⟩) with
    stage := .select
    position := reader.position + 1 + found.length + (found.rest.take 1).length
    rest := found.rest.drop 1 }

def step (source : String) (reader : Reader) : Reader :=
  match reader.stage with
  | .command => reader.command
  | .select => reader.select source
  | .free => reader.free source
  | .quoted => reader.quoted source
  | .finish => reader

/-- How far the reading is from its end. Most stages go ahead in the line. A stage that does not leads
to one that is nearer to going ahead, because the character at its place decides which it is. -/
def distance (reader : Reader) : Nat :=
  4 * reader.rest.length +
    match reader.stage, reader.rest with
    | .finish, _ => 0
    | .select, _ => 2
    | .command, _ => 3
    | .free, c :: rest => if Scan.endsFree c rest then 3 else 1
    | .free, [] => 3
    | .quoted, rest => if rest.isEmpty then 3 else 1

theorem distance_le (reader : Reader) : reader.distance ≤ 4 * reader.rest.length + 3 := by
  unfold distance
  split
  case h_4 => split <;> omega
  case h_6 => split <;> omega
  all_goals omega

theorem distance_command (reader : Reader) (inside : reader.stage = .command) :
    reader.command.distance < reader.distance := by
  unfold command distance
  split
  · rename_i same
    simp only [inside, same, List.length_cons]
    omega
  · simp only [inside]
    omega

theorem distance_select (source : String) (reader : Reader) (inside : reader.stage = .select) :
    (reader.select source).distance < reader.distance := by
  have shorter : reader.skipBlank.rest.length ≤ reader.rest.length :=
    (List.dropWhile_suffix Text.isBlank).length_le
  have visible : ∀ c rest, reader.skipBlank.rest = c :: rest → Text.isBlank c = false := by
    intro c rest same
    have head := List.head?_dropWhile_not Text.isBlank reader.rest
    simp only [skipBlank] at same
    simpa [same] using head
  have before : reader.distance = 4 * reader.rest.length + 2 := by
    simp only [distance, inside]
  rw [before]
  unfold select
  dsimp only
  split
  · simp only [distance]
    omega
  · rename_i same
    simp only [distance, same, List.isEmpty_cons, Bool.false_eq_true, ↓reduceIte]
    rw [← same]
    omega
  · rename_i same
    rw [same] at shorter
    simp only [List.length_cons] at shorter
    simp only [distance, List.length_cons]
    omega
  · rename_i same
    rw [same] at shorter
    simp only [List.length_cons] at shorter
    refine Nat.lt_of_le_of_lt (distance_le _) ?_
    dsimp only
    omega
  · rename_i present unquoted unnested unclosed
    cases same : reader.skipBlank.rest with
    | nil => exact absurd same present
    | cons c rest =>
      have goes_on : Scan.endsFree c rest = false := by
        have unopened : Scan.opensCall (c :: rest) = false := by
          unfold Scan.opensCall
          split
          · rename_i opening
            exact absurd (same.trans opening) (unnested _)
          · rfl
        have open_still : c ≠ ')' := by
          rintro rfl
          exact unclosed _ same
        simp [Scan.endsFree, open_still, visible c rest same, unopened]
      simp only [distance, goes_on, Bool.false_eq_true, ↓reduceIte]
      rw [← same]
      omega

theorem distance_free (source : String) (reader : Reader) (inside : reader.stage = .free) :
    (reader.free source).distance < reader.distance := by
  have after : (reader.free source).distance
      = 4 * (Scan.scanFree reader.rest).rest.length + 2 := rfl
  rw [after]
  cases same : reader.rest with
  | nil =>
    simp only [distance, inside, same, Scan.scanFree]
    omega
  | cons c rest =>
    simp only [distance, inside, same]
    by_cases ends : Scan.endsFree c rest
    · simp only [Scan.scanFree, ends, ↓reduceIte]
      omega
    · have shorter := Scan.scanFree_rest_length_lt ends
      simp only [ends, Bool.false_eq_true, ↓reduceIte]
      omega

theorem distance_quoted (source : String) (reader : Reader) (inside : reader.stage = .quoted) :
    (reader.quoted source).distance < reader.distance := by
  have after : (reader.quoted source).distance
      = 4 * ((Scan.scanQuoted [] 0 false (reader.rest.drop 1)).rest.drop 1).length + 2 := rfl
  have shorter := Scan.scanQuoted_rest_length [] 0 false (reader.rest.drop 1)
  rw [after, List.length_drop]
  cases same : reader.rest with
  | nil =>
    simp only [same, List.drop_nil, List.length_nil] at shorter
    simp only [distance, inside, same, List.drop_nil, List.isEmpty_nil, ↓reduceIte]
    omega
  | cons c rest =>
    simp only [same, List.drop_succ_cons, List.drop_zero] at shorter
    simp only [distance, inside, same, List.drop_succ_cons, List.drop_zero, List.length_cons,
      List.isEmpty_cons, Bool.false_eq_true, ↓reduceIte]
    omega

/-- Whatever a reader does, it comes nearer to the end of its reading. -/
theorem distance_step (source : String) (reader : Reader) (going : reader.stage ≠ .finish) :
    (reader.step source).distance < reader.distance := by
  unfold step
  split
  · rename_i inside
    exact distance_command reader inside
  · rename_i inside
    exact distance_select source reader inside
  · rename_i inside
    exact distance_free source reader inside
  · rename_i inside
    exact distance_quoted source reader inside
  · rename_i finished
    exact absurd finished going

def run (source : String) (reader : Reader) : Reader :=
  if reader.stage = .finish then reader else run source (reader.step source)
termination_by reader.distance
decreasing_by exact distance_step source reader ‹_›

theorem opened_length_close (source : String) (stop : Nat) (reader : Reader) :
    (reader.close source stop).opened.length = reader.opened.length - 1 := by
  unfold close
  split
  · rename_i none_open
    simp only [none_open, List.length_nil]
  · rename_i last
    simp only [last, List.length_cons, List.length_nil]
  · rename_i several
    simp only [several, List.length_cons]
    omega

def closeAll (source : String) (stop : Nat) (reader : Reader) : Reader :=
  if reader.opened.isEmpty then reader else closeAll source stop (reader.close source stop)
termination_by reader.opened.length
decreasing_by
  rename_i some_open
  have present : 0 < reader.opened.length :=
    List.length_pos_iff.2 fun none_open => some_open (by simp [none_open])
  rw [opened_length_close]
  omega

/-- What was read: the outermost call, where the calls that are open are closed at the end of the
line. -/
def tree (source : String) (reader : Reader) : Expr :=
  match (reader.closeAll source source.toList.length).root? with
  | some root => root
  | none => .call [] ⟨source, 0, 0⟩

end Reader

def Expr.read (line : String) : Expr :=
  ((Reader.start line.toList).run line).tree line

end ChatLine
