import ChatLine.Budget
import ChatLine.Command

set_option autoImplicit false

namespace ChatLine

/-- The arguments of a running stored line. -/
abbrev Frame := List Command

/-- The frames of the running stored lines, the innermost first. -/
abbrev Frames := List Frame

def Frames.render (frames : Frames) : String :=
  "ArgumentFrames \x7b frames: ["
    ++ ", ".intercalate (frames.reverse.map fun frame => toString frame.length) ++ "] \x7d"

/-- Whether the caller is an administrator: the answer of the application's check, which is asked at
most once, and how often it was asked. Without a check nobody is. -/
structure Administrator where
  check : Option Bool
  known : Option Bool
  asked : Nat
  deriving DecidableEq, Repr

namespace Administrator

def ofCheck (check : Option Bool) : Administrator := ⟨check, none, 0⟩

/-- Whether the caller is an administrator, remembered for the next time. -/
def ask (admin : Administrator) : Bool × Administrator :=
  match admin.known with
  | some answer => (answer, admin)
  | none =>
    match admin.check with
    | some answer => (answer, ⟨admin.check, some answer, admin.asked + 1⟩)
    | none => (false, ⟨none, some false, admin.asked⟩)

end Administrator

/-- The types of the values that an application can add to a context. -/
inductive Slot where
  | text
  | flag
  | number
  deriving DecidableEq, Repr

abbrev Slot.Value : Slot → Type
  | text => String
  | flag => Bool
  | number => Int

/-- The values that an application added: at most one for each slot. -/
structure Extensions where
  get? : (slot : Slot) → Option slot.Value

namespace Extensions

def empty : Extensions := ⟨fun _ => none⟩

def insert (values : Extensions) (slot : Slot) (value : slot.Value) : Extensions :=
  ⟨fun other => if same : slot = other then some (same ▸ value) else values.get? other⟩

def count (values : Extensions) : Nat :=
  (values.get? .text).toList.length + (values.get? .flag).toList.length
    + (values.get? .number).toList.length

end Extensions

/-- The surroundings of a call. -/
structure Context where
  frames : Frames
  budget : Budget
  administrator : Administrator
  extensions : Extensions

namespace Context

def fresh (budget : Budget) (check : Option Bool) : Context :=
  ⟨[], budget, .ofCheck check, .empty⟩

def push (context : Context) (frame : Frame) : Context :=
  { context with frames := frame :: context.frames }

def pop (context : Context) : Context :=
  { context with frames := context.frames.tail }

def renderOption (text : Option String) : String :=
  match text with
  | none => "None"
  | some value => "Some(" ++ value ++ ")"

def render (context : Context) : String :=
  "ExecContext \x7b frames: " ++ Frames.render context.frames
    ++ ", budget: " ++ renderOption (context.budget.remaining.map toString)
    ++ ", admin: " ++ renderOption (context.administrator.known.map toString)
    ++ ", extensions: " ++ toString context.extensions.count ++ " \x7d"

end Context

end ChatLine
