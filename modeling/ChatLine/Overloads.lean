import ChatLine.Function

set_option autoImplicit false

namespace ChatLine

/-- Compares signatures: the first position with different ranks decides, and where one signature
begins the other, the longer comes first. -/
def compareSignatures : List ParamType → List ParamType → Ordering
  | [], [] => .eq
  | [], _ :: _ => .gt
  | _ :: _, [] => .lt
  | a :: first, b :: second =>
    match compare a.rank b.rank with
    | .eq => compareSignatures first second
    | order => order

/-- Functions in the order in which a call tries them, with the help for all of them. -/
structure Overloads where
  functions : List Function
  help? : Option String
  deriving DecidableEq, Repr

namespace Overloads

def tryBefore (f g : Function) : Bool :=
  compareSignatures f.types g.types != .gt

/-- The overloads of a list of functions; equal signatures keep their order. -/
def ofList (functions : List Function) : Overloads :=
  ⟨functions.mergeSort tryBefore, none⟩

def withHelp (set : Overloads) (help : String) : Overloads :=
  { set with help? := some help }

def insert (set : Overloads) (f : Function) : Overloads :=
  { ofList (set.functions ++ [f]) with help? := set.help? }

def describe (set : Overloads) : String :=
  " | ".intercalate (set.functions.map Function.describe)

end Overloads

theorem compareSignatures_self (types : List ParamType) : compareSignatures types types = .eq := by
  induction types with
  | nil => rfl
  | cons a rest ih => simp [compareSignatures, ih]

theorem compareSignatures_swap (first second : List ParamType) :
    (compareSignatures first second).swap = compareSignatures second first := by
  induction first generalizing second with
  | nil => cases second <;> rfl
  | cons a first ih =>
    cases second with
    | nil => rfl
    | cons b second =>
      simp only [compareSignatures]
      rw [← Nat.compare_swap a.rank b.rank]
      cases compare a.rank b.rank with
      | lt => rfl
      | eq => exact ih second
      | gt => rfl

end ChatLine
