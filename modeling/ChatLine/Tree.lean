import ChatLine.Abbreviation
import ChatLine.Command
import ChatLine.NameMap

set_option autoImplicit false

namespace ChatLine

/-- What a name of a group stands for. A command value refers to a group by its number. -/
inductive Node where
  | leaf (command : Command)
  | group (id : Nat) (children : List (String × Node))
  deriving Repr, Inhabited

abbrev Children := NameMap Node

namespace Node

def command : Node → Command
  | leaf command => command
  | group id _ => .group id

def isGroup : Node → Bool
  | leaf _ => false
  | group _ _ => true

mutual

/-- The names of the group with a number, at this node or below it. -/
def childrenOf? (id : Nat) : Node → Option (List (String × Node))
  | leaf _ => none
  | group own children => if own = id then some children else childrenBelow? id children

/-- The names of the group with a number, at or below one of some names. -/
def childrenBelow? (id : Nat) : List (String × Node) → Option (List (String × Node))
  | [] => none
  | (_, node) :: rest =>
    match node.childrenOf? id with
    | some children => some children
    | none => childrenBelow? id rest

end

end Node

namespace Children

def at? (children : Children) : List String → Option Node
  | [] => none
  | [name] => children.get? name
  | name :: next :: rest =>
    match children.get? name with
    | some (.group _ below) => at? below (next :: rest)
    | _ => none

/-- The child that an abbreviated name stands for, with its full name. -/
def resolve (children : Children) (name : String) : Except CommandError (String × Node) :=
  match bestMatches children.names name with
  | [] => .error (.nameNotFound name)
  | [single] =>
    match children.get? single with
    | some node => .ok (single, node)
    | none => .error (.internal ("filtered name \"" ++ single ++ "\" vanished"))
  | candidates => .error (.ambiguousName candidates)

/-- The children without the node at a path, and that node. Groups that become empty on the way go
too. -/
def removeAt (children : Children) : List String → Option Node × Children
  | [] => (none, children)
  | [name] => (children.get? name, children.erase name)
  | name :: next :: rest =>
    match children.get? name with
    | some (.group id below) =>
      match removeAt below (next :: rest) with
      | (none, _) => (none, children)
      | (some removed, left) =>
        if left.isEmpty then (some removed, children.erase name)
        else (some removed, children.set name (.group id left))
    | _ => (none, children)

end Children

/-- A group under change, with the next free number and the nodes that changes have dropped. -/
structure Growth where
  children : Children
  next : Nat
  dropped : List Node

/-- A change of a group. What it did before it failed stays done. -/
abbrev Change := ExceptT CommandError (StateM Growth)

namespace Change

def insert (name : String) (node : Node) : Change Unit := do
  let growth ← get
  if growth.children.has name then throw (.duplicateCommand name)
  else set { growth with children := growth.children.set name node }

def replace (name : String) (node : Node) : Change (Option Node) := do
  let growth ← get
  let old := growth.children.get? name
  set { growth with
    children := growth.children.set name node
    dropped := old.toList ++ growth.dropped }
  return old

def remove (name : String) : Change (Option Node) := do
  let growth ← get
  let old := growth.children.get? name
  set { growth with children := growth.children.erase name, dropped := old.toList ++ growth.dropped }
  return old

/-- Adds a group under a name, with the children it has from the start. -/
def newGroup (name : String) (children : Children) : Change (Nat × Children) := do
  let growth ← get
  set { growth with
    children := growth.children.set name (.group growth.next children), next := growth.next + 1 }
  return (growth.next, children)

/-- The group under a name, made if there is none. A command in the way is an error, unless it may be
absorbed: then it moves into the new group under the empty name. -/
def childGroup (name : String) (absorb : Bool) : Change (Nat × Children) := do
  match (← get).children.get? name with
  | some (.group id children) => return (id, children)
  | some (.leaf command) =>
    if absorb then newGroup name [("", .leaf command)]
    else throw (.invalidPath name "a command already exists at this name")
  | none => newGroup name []

/-- Makes a change inside the group under a name. -/
def within {α : Type} (name : String) (absorb : Bool) (change : Change α) : Change α := do
  let (id, children) ← childGroup name absorb
  let outer ← get
  let (result, inner) := change.run.run { outer with children := children }
  set { inner with children := outer.children.set name (.group id inner.children) }
  result

/-- Goes down a path to the group at its end, and makes a change there. -/
def descend {α : Type} (absorb : Bool) (change : Change α) : List String → Change α
  | [] => change
  | name :: rest => within name absorb (descend absorb change rest)

/-- Adds a command at a path of names. -/
def addAt (path : List String) (command : Command) : Change Unit :=
  match path.getLast? with
  | none => throw (.invalidPath "" "empty path")
  | some last =>
    let taken : CommandError := .duplicateCommand (" ".intercalate path)
    descend false (tryCatch (insert last (.leaf command)) fun _ => throw taken) path.dropLast

/-- Sets the command at a name of a group. A `fresh` command must find the name free. -/
def settleAt (path : String) (command : Command) (fresh : Bool) (slot : String) : Change Unit := do
  if fresh && (← get).children.has slot then throw (.duplicateCommand path)
  else discard (replace slot (.leaf command))

/-- Sets the command at a name of a group, or at the empty name below when the name is a group
itself. -/
def settle (path last : String) (command : Command) (fresh : Bool) : Change Unit := do
  match (← get).children.get? last with
  | some (.group _ _) => within last false (settleAt path command fresh "")
  | _ => settleAt path command fresh last

/-- Sets the command at a path; commands on the way become groups. -/
def place (path : String) (command : Command) (fresh : Bool) : Change Unit :=
  let names := Text.spaced path
  match names.getLast? with
  | none => throw (.invalidPath path "empty path")
  | some last => descend true (settle path last command fresh) names.dropLast

/-- Drops the node at a path, and the groups that become empty by it. -/
def removeAt (path : List String) : Change (Option Node) := do
  let growth ← get
  let (removed, left) := growth.children.removeAt path
  set { growth with children := left, dropped := removed.toList ++ growth.dropped }
  return removed

end Change

/-- The groups of a bot: its tree, and the nodes outside of it that command values may refer to. -/
structure Groups where
  top : Children
  next : Nat
  dropped : List Node

namespace Groups

def empty : Groups := ⟨[], 1, []⟩

def topId : Nat := 0

/-- The names of the group with a number. A group that is nowhere has lost all its names. -/
def children (groups : Groups) (id : Nat) : Children :=
  if id = topId then groups.top
  else
    match Node.childrenBelow? id groups.top with
    | some children => children
    | none => (groups.dropped.findSome? fun node => node.childrenOf? id).getD []

def change {α : Type} (groups : Groups) (change : Change α) : Except CommandError α × Groups :=
  let (result, growth) := change.run.run ⟨groups.top, groups.next, groups.dropped⟩
  (result, ⟨growth.children, growth.next, growth.dropped⟩)

def addLoose (groups : Groups) (children : Children) : Nat × Groups :=
  (groups.next, { groups with
    next := groups.next + 1, dropped := .group groups.next children :: groups.dropped })

end Groups

mutual

def Command.describe (groups : Groups) : Command → String
  | .literal text => "\"" ++ text ++ "\""
  | .function function => function.describe
  | .documented command => command.fullName
  | .overloads set => set.describe
  | .stored text _ => "alias \"" ++ text ++ "\""
  | .lazy _ inner => inner.describe groups
  | .applied callee bound =>
    callee.describe groups ++ " applied to ["
      ++ ", ".intercalate (describeAll groups bound) ++ "]"
  | .group id => "group [" ++ ", ".intercalate (groups.children id).names ++ "]"
  | .root => "root"
  | .orphan => "root"
  | .foreign label _ => label

def describeAll (groups : Groups) : List Command → List String
  | [] => []
  | command :: rest => command.describe groups :: describeAll groups rest

end

def Children.helpText (children : Children) : String :=
  "The command contains the following subfunctions: "
    ++ ", ".intercalate (children.names.filter fun name => !name.isEmpty)

def Command.help? (groups : Groups) : Command → Option String
  | .documented command => command.help?
  | .overloads set => set.help?
  | .stored text _ => some ("Alias for: " ++ text)
  | .lazy _ inner => inner.help? groups
  | .applied callee _ => callee.help? groups
  | .group id => some (groups.children id).helpText
  | _ => none

end ChatLine
