import ChatLine.Proofs.Calls.Cells

set_option autoImplicit false

/- How much work a call can make before it enters a stored line or runs a text. The work of a command
is measured by what it is called on: by how many arguments there are, and by the most that one of
them costs. A command that runs at most once costs next to nothing when its outcome is kept, so work
only ever shrinks while a call goes on.

A stored line costs nothing here, because entering it takes a token. -/
namespace ChatLine

variable {σ : Type}

/-- The work of code on arguments. Only `eval` hands its arguments on to a command that it is
answered, so only there does their number count. -/
def Function.cost (f : Function) (count peak : Nat) : Nat :=
  if f.code = .builtin .eval then peak + 5 * count + 2 else peak + 2

namespace Command

mutual

/-- The work of a call of a command on `count` arguments of which none costs more than `peak`;
`kept` tells which cells have an outcome. -/
def cost (kept : Nat → Bool) : Command → Nat → Nat → Nat
  | literal _, _, _ => 1
  | function f, count, peak => f.cost count peak
  | documented command, count, peak => command.function.cost count peak
  | overloads _, count, peak => peak + 5 * count + 4
  | stored _ _, _, _ => 0
  | .lazy cell inner, count, peak => if kept cell then 1 else inner.cost kept count peak + 1
  | applied callee bound, count, peak =>
    callee.cost kept (bound.length + count) (max (peakOf kept bound) peak) + 1
  | group _, count, peak => peak + 5 * count + 5
  | root, count, peak => peak + 5 * count + 5
  | orphan, _, _ => 0
  | foreign _ _, _, _ => 0

/-- The most that one of some commands costs when it is called without arguments. -/
def peakOf (kept : Nat → Bool) : List Command → Nat
  | [] => 0
  | command :: rest => max (command.cost kept 0 0) (peakOf kept rest)

end

/-- What the frames of the running stored lines can still cost. -/
def standing (kept : Nat → Bool) : Frames → Nat
  | [] => 0
  | frame :: rest => peakOf kept frame + standing kept rest

end Command

theorem Function.cost_mono (f : Function) {count more peak higher : Nat} (counts : count ≤ more)
    (peaks : peak ≤ higher) : f.cost count peak ≤ f.cost more higher := by
  unfold Function.cost
  split <;> omega

theorem Function.cost_le (f : Function) (count peak : Nat) :
    f.cost count peak ≤ peak + 5 * count + 2 := by
  unfold Function.cost
  split <;> omega

theorem Function.lt_cost (f : Function) (count peak : Nat) : peak + 1 < f.cost count peak := by
  unfold Function.cost
  split <;> omega

namespace Command

mutual

/-- Work shrinks with the arguments, and with every outcome that is kept. -/
theorem cost_mono {kept later : Nat → Bool} (stays : ∀ cell, kept cell = true → later cell = true)
    (command : Command) {count more peak higher : Nat} (counts : count ≤ more)
    (peaks : peak ≤ higher) : command.cost later count peak ≤ command.cost kept more higher := by
  match command with
  | literal text => exact Nat.le_refl _
  | function f => exact f.cost_mono counts peaks
  | documented command => exact command.function.cost_mono counts peaks
  | overloads set =>
    simp only [cost]
    omega
  | stored text body => exact Nat.le_refl _
  | .lazy cell inner =>
    have below := cost_mono stays inner counts peaks
    have keeps := stays cell
    simp only [cost]
    split
    · split <;> omega
    · rename_i absent
      rw [if_neg fun already => absent (keeps already)]
      omega
  | applied callee bound =>
    have peaksBound := peakOf_mono stays bound
    have below := cost_mono stays callee (Nat.add_le_add_left counts bound.length)
      (show max (peakOf later bound) peak ≤ max (peakOf kept bound) higher by omega)
    simp only [cost]
    omega
  | group id =>
    simp only [cost]
    omega
  | root =>
    simp only [cost]
    omega
  | orphan => exact Nat.le_refl _
  | foreign label index => exact Nat.le_refl _

theorem peakOf_mono {kept later : Nat → Bool} (stays : ∀ cell, kept cell = true → later cell = true)
    (commands : List Command) : peakOf later commands ≤ peakOf kept commands := by
  match commands with
  | [] => exact Nat.le_refl _
  | command :: rest =>
    have first := cost_mono stays command (Nat.le_refl 0) (Nat.le_refl 0)
    have others := peakOf_mono stays rest
    simp only [peakOf]
    omega

end

theorem standing_mono {kept later : Nat → Bool}
    (stays : ∀ cell, kept cell = true → later cell = true) (frames : Frames) :
    standing later frames ≤ standing kept frames := by
  induction frames with
  | nil => exact Nat.le_refl _
  | cons frame rest ih =>
    have first := peakOf_mono stays frame
    simp only [standing]
    omega

theorem cost_le_peakOf (kept : Nat → Bool) {command : Command} {commands : List Command}
    (among : command ∈ commands) : command.cost kept 0 0 ≤ peakOf kept commands := by
  induction commands with
  | nil => cases among
  | cons first rest ih =>
    simp only [peakOf]
    rcases List.mem_cons.1 among with rfl | inRest
    · omega
    · have below := ih inRest
      omega

theorem peakOf_le {kept : Nat → Bool} {commands : List Command} {bound : Nat}
    (below : ∀ command ∈ commands, command.cost kept 0 0 ≤ bound) :
    peakOf kept commands ≤ bound := by
  induction commands with
  | nil => exact Nat.zero_le _
  | cons first rest ih =>
    have firstBelow := below first List.mem_cons_self
    have restBelow := ih fun command inRest => below command (List.mem_cons_of_mem _ inRest)
    simp only [peakOf]
    omega

theorem peakOf_append (kept : Nat → Bool) (first second : List Command) :
    peakOf kept (first ++ second) = max (peakOf kept first) (peakOf kept second) := by
  induction first with
  | nil => simp only [List.nil_append, peakOf, Nat.zero_max]
  | cons command rest ih =>
    simp only [List.cons_append, peakOf, ih]
    omega

end Command

namespace World

def tokens (world : World σ) : Nat :=
  world.context.budget.remaining.getD 0

/-- What the running stored lines can still cost. -/
def standing (world : World σ) : Nat :=
  Command.standing world.isKept world.context.frames

/-- The work of a call in a world. -/
def work (world : World σ) (command : Command) (arguments : List Command) : Nat :=
  command.cost world.isKept arguments.length (Command.peakOf world.isKept arguments) +
    world.standing

end World

end ChatLine
