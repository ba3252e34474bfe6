import ChatLine.Builtin.Help
import ChatLine.Proofs.Tree.Numbers

set_option autoImplicit false

namespace ChatLine

mutual

def Node.withLeaves (leaves : Command → Command) : Node → Node
  | .leaf command => .leaf (leaves command)
  | .group id children => .group id (withLeavesBelow leaves children)

def withLeavesBelow (leaves : Command → Command) : List (String × Node) → List (String × Node)
  | [] => []
  | (name, node) :: rest => (name, node.withLeaves leaves) :: withLeavesBelow leaves rest

end

def Groups.withLeaves (groups : Groups) (leaves : Command → Command) : Groups :=
  { groups with top := withLeavesBelow leaves groups.top }

mutual

theorem Node.withLeaves_id (node : Node) : node.withLeaves id = node := by
  match node with
  | .leaf command => rfl
  | .group number children => exact congrArg (Node.group number) (withLeavesBelow_id children)

theorem withLeavesBelow_id (children : List (String × Node)) :
    withLeavesBelow id children = children := by
  match children with
  | [] => rfl
  | (name, node) :: rest => rw [withLeavesBelow, Node.withLeaves_id node, withLeavesBelow_id rest]

end

variable (leaves : Command → Command)

namespace Children

theorem names_withLeavesBelow (children : Children) :
    NameMap.names (withLeavesBelow leaves children) = children.names := by
  induction children with
  | nil => rfl
  | cons entry rest ih => exact congrArg (entry.1 :: ·) ih

theorem get?_withLeavesBelow (children : Children) (name : String) :
    NameMap.get? (withLeavesBelow leaves children) name =
      (children.get? name).map (Node.withLeaves leaves) := by
  induction children with
  | nil => rfl
  | cons entry rest ih =>
    obtain ⟨key, node⟩ := entry
    rw [withLeavesBelow, NameMap.get?, NameMap.get?]
    split
    · rfl
    · exact ih

theorem resolve_withLeavesBelow (children : Children) (name : String) :
    resolve (withLeavesBelow leaves children) name =
      (children.resolve name).map fun found => (found.1, found.2.withLeaves leaves) := by
  unfold resolve
  rw [names_withLeavesBelow]
  split
  · rfl
  · rename_i single _
    rw [get?_withLeavesBelow]
    cases children.get? single <;> rfl
  · rfl

end Children

mutual

theorem Node.numbered_withLeaves (node : Node) :
    (node.withLeaves leaves).numbered =
      node.numbered.map fun group => (group.1, withLeavesBelow leaves group.2) := by
  match node with
  | .leaf command => rfl
  | .group id children =>
    exact congrArg ((id, withLeavesBelow leaves children) :: ·) (numberedBelow_withLeaves children)

theorem numberedBelow_withLeaves (children : List (String × Node)) :
    numberedBelow (withLeavesBelow leaves children) =
      (numberedBelow children).map fun group => (group.1, withLeavesBelow leaves group.2) := by
  match children with
  | [] => rfl
  | (name, node) :: rest =>
    rw [withLeavesBelow, numberedBelow, numberedBelow, Node.numbered_withLeaves node,
      numberedBelow_withLeaves rest, List.map_append]

end

theorem Groups.Numbered.withLeaves {groups : Groups} (numbered : groups.Numbered) :
    (groups.withLeaves leaves).Numbered := by
  have same : Children.numbers (groups.withLeaves leaves).top = groups.top.numbers := by
    rw [Children.numbers, Groups.withLeaves, numberedBelow_withLeaves, List.map_map]
    rfl
  exact {
    nodup := same ▸ numbered.nodup
    ne_top := same ▸ numbered.ne_top
    positive := numbered.positive
    lt_next := same ▸ numbered.lt_next }

namespace Builtin.Help

variable {leaves} {walked names : List String} {node : Node} {error : CommandError}

theorem follow_withLeaves (walked : List String) (node : Node) (names : List String) :
    follow walked (node.withLeaves leaves) names =
      (follow walked node names).map fun found => (found.1, found.2.withLeaves leaves) := by
  induction names generalizing walked node with
  | nil => rfl
  | cons part rest ih =>
    cases node with
    | leaf command => rfl
    | group id children =>
      simp only [Node.withLeaves, follow, Children.resolve_withLeavesBelow]
      cases Children.resolve children part with
      | error error => rfl
      | ok found => exact ih _ _

theorem follow_append (walked : List String) (node : Node) (first second : List String) :
    follow walked node (first ++ second) =
      follow walked node first >>= fun found => follow found.1 found.2 second := by
  induction first generalizing walked node with
  | nil => rfl
  | cons part rest ih =>
    cases node with
    | leaf command => rfl
    | group id children =>
      simp only [List.cons_append, follow]
      cases Children.resolve children part with
      | error error => rfl
      | ok found => exact ih _ _

/-- The part at a position is the first that cannot be resolved: the parts before it lead to a group,
in which there is none or more than one best match for it. -/
def LosesAt (node : Node) (names : List String) (position : Nat) (error : CommandError) : Prop :=
  ∃ before part after walked id below, names = before ++ part :: after ∧
    before.length = position ∧ follow [] node before = .ok (walked, .group id below) ∧
    Children.resolve below part = .error error

/-- What cannot be followed goes on after a leaf, or has a part that cannot be resolved. -/
theorem exists_of_follow_eq_error (fails : follow walked node names = .error error) :
    ∃ before part after passed found, names = before ++ part :: after ∧
      follow walked node before = .ok (passed, found) ∧
      ((∃ command message, found = .leaf command ∧ error = .native message) ∨
        ∃ id below, found = .group id below ∧ Children.resolve below part = .error error) := by
  induction names generalizing walked node with
  | nil => cases fails
  | cons part rest ih =>
    cases node with
    | leaf command =>
      cases fails
      exact ⟨[], part, rest, walked, _, rfl, rfl, .inl ⟨command, _, rfl, rfl⟩⟩
    | group id children =>
      cases resolved : Children.resolve children part with
      | error cause =>
        simp only [follow, resolved] at fails
        cases fails
        exact ⟨[], part, rest, walked, _, rfl, rfl, .inr ⟨id, children, rfl, resolved⟩⟩
      | ok found =>
        simp only [follow, resolved] at fails
        obtain ⟨before, lost, after, passed, last, rfl, reached, stops⟩ := ih fails
        refine ⟨part :: before, lost, after, passed, last, rfl, ?_, stops⟩
        simp only [follow, resolved]
        exact reached

theorem losesAt_withLeaves {position : Nat} :
    LosesAt (node.withLeaves leaves) names position error ↔ LosesAt node names position error := by
  constructor
  · rintro ⟨before, part, after, walked, id, below, rfl, length, reached, lost⟩
    rw [follow_withLeaves] at reached
    cases found : follow [] node before with
    | error cause =>
      rw [found] at reached
      cases reached
    | ok last =>
      rw [found] at reached
      obtain ⟨passed, last⟩ := last
      cases last with
      | leaf command => cases reached
      | group own children =>
        cases reached
        refine ⟨before, part, after, _, id, children, rfl, length, found, ?_⟩
        rw [Children.resolve_withLeavesBelow] at lost
        cases resolved : Children.resolve children part with
        | error cause =>
          rw [resolved] at lost
          cases lost
          rfl
        | ok child =>
          rw [resolved] at lost
          cases lost
  · rintro ⟨before, part, after, walked, id, below, rfl, length, reached, lost⟩
    refine ⟨before, part, after, walked, id, withLeavesBelow leaves below, rfl, length, ?_, ?_⟩
    · rw [follow_withLeaves, reached]
      rfl
    · rw [Children.resolve_withLeavesBelow, lost]
      rfl

end Builtin.Help

end ChatLine
