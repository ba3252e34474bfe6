import ChatLine.Proofs.Line.Meaning
import ChatLine.Proofs.Line.Nesting

set_option autoImplicit false

namespace ChatLine

namespace Expr

def description? : Expr → Option String
  | fault description _ => some description
  | _ => none

/-- What the first complaint says, among parts with their depths. -/
def firstFault? (parts : List (Nat × Expr)) : Option String :=
  parts.findSome? fun part => part.2.description?

/-- The error for a part that means nothing, by what its complaint says. -/
def refusal (description : String) : CommandError :=
  .internal ("cannot execute an error node: " ++ description)

def error? {α : Type} : Except CommandError α → Option CommandError
  | .ok _ => none
  | .error error => some error

theorem firstFault?_append (first second : List (Nat × Expr)) :
    firstFault? (first ++ second) = (firstFault? first).or (firstFault? second) :=
  List.findSome?_append

theorem error?_eq_some_iff {α : Type} {result : Except CommandError α} {error : CommandError} :
    error? result = some error ↔ result = .error error := by
  cases result <;> simp [error?]

theorem error?_toCommand_call (parameters : List Expr) (span : Span) :
    error? (call parameters span).toCommand = error? (toCommands parameters) := by
  simp only [toCommand]
  cases toCommands parameters <;> rfl

theorem error?_toCommands_cons (expr : Expr) (rest : List Expr) :
    error? (toCommands (expr :: rest)) = (error? expr.toCommand).or (error? (toCommands rest)) := by
  simp only [toCommands]
  cases expr.toCommand with
  | error error => rfl
  | ok command => cases toCommands rest <;> rfl

mutual

/-- The error of a part is that for its first complaint in preorder. -/
theorem error?_toCommand (expr : Expr) (depth : Nat) :
    error? expr.toCommand = (firstFault? (expr.preorder depth)).map refusal := by
  match expr with
  | .text value span => rfl
  | .fault description span => rfl
  | .call parameters span =>
    have inside := error?_toCommands parameters (depth + 1)
    rw [error?_toCommand_call, inside]
    -- a call stands before its parameters, but it is no complaint itself
    rfl

theorem error?_toCommands (exprs : List Expr) (depth : Nat) :
    error? (toCommands exprs) = (firstFault? (preorderAll depth exprs)).map refusal := by
  match exprs with
  | [] => rfl
  | expr :: rest =>
    rw [error?_toCommands_cons, error?_toCommand expr depth, error?_toCommands rest depth,
      preorderAll, firstFault?_append, Option.map_or]

end

/-- A part that means nothing fails with what its first complaint in preorder says. -/
theorem toCommand_eq_error_iff (expr : Expr) (error : CommandError) :
    expr.toCommand = .error error ↔
      ∃ description, firstFault? (expr.preorder 0) = some description ∧
        error = refusal description := by
  rw [← error?_eq_some_iff, error?_toCommand expr 0, Option.map_eq_some_iff]
  simp only [eq_comm]

/-- A complaint inside of a parameter comes before one that is a later parameter. -/
example (span : Span) :
    (call [call [text "a" span, fault "inner" span] span, fault "outer" span] span).toCommand =
      .error (refusal "inner") := rfl

theorem preorderAll_eq_flatMap (depth : Nat) (exprs : List Expr) :
    preorderAll depth exprs = exprs.flatMap (preorder depth) := by
  induction exprs with
  | nil => rfl
  | cons expr rest ih => rw [preorderAll, ih, List.flatMap_cons]

theorem preorder_eq_cons (depth : Nat) (expr : Expr) :
    expr.preorder depth = (depth, expr) :: preorderAll (depth + 1) expr.parameters := by
  cases expr <;> rfl

theorem mem_preorder_of_at? {expr node : Expr} {path : List Nat}
    (reached : expr.at? path = some node) (depth : Nat) :
    (depth + path.length, node) ∈ expr.preorder depth := by
  induction path generalizing expr depth with
  | nil =>
    cases reached
    rw [preorder_eq_cons]
    exact List.mem_cons_self
  | cons index path ih =>
    simp only [at?] at reached
    split at reached
    · rename_i parameter same
      have inside := ih reached (depth + 1)
      rw [preorder_eq_cons, preorderAll_eq_flatMap, List.length_cons, Nat.add_comm path.length,
        ← Nat.add_assoc]
      exact List.mem_cons_of_mem _
        (List.mem_flatMap.2 ⟨parameter, List.mem_of_getElem? same, inside⟩)
    · cases reached

mutual

theorem exists_at?_of_mem_preorder (expr : Expr) {depth : Nat} {entry : Nat × Expr}
    (listed : entry ∈ expr.preorder depth) :
    ∃ path, expr.at? path = some entry.2 ∧ entry.1 = depth + path.length := by
  match expr with
  | .text value span | .fault description span =>
    cases List.mem_singleton.1 listed
    exact ⟨[], rfl, rfl⟩
  | .call parameters span =>
    rcases List.mem_cons.1 listed with rfl | inside
    · exact ⟨[], rfl, rfl⟩
    · obtain ⟨index, parameter, path, same, reached, depth_eq⟩ :=
        exists_at?_of_mem_preorderAll parameters inside
      refine ⟨index :: path, ?_, ?_⟩
      · simp only [at?, Expr.parameters, same, reached]
      · rw [depth_eq, List.length_cons]
        omega

theorem exists_at?_of_mem_preorderAll (exprs : List Expr) {depth : Nat} {entry : Nat × Expr}
    (listed : entry ∈ preorderAll depth exprs) :
    ∃ (index : Nat) (expr : Expr) (path : List Nat), exprs[index]? = some expr ∧
      expr.at? path = some entry.2 ∧ entry.1 = depth + path.length := by
  match exprs with
  | [] => cases listed
  | expr :: rest =>
    rcases List.mem_append.1 listed with first | others
    · obtain ⟨path, reached, depth_eq⟩ := exists_at?_of_mem_preorder expr first
      exact ⟨0, expr, path, rfl, reached, depth_eq⟩
    · obtain ⟨index, other, path, same, reached⟩ := exists_at?_of_mem_preorderAll rest others
      exact ⟨index + 1, other, path, same, reached⟩

end

/-- The preorder lists the parts that paths lead to, and the length of a path is the depth. -/
theorem mem_preorder_iff {expr node : Expr} {depth place : Nat} :
    (place, node) ∈ expr.preorder depth ↔
      ∃ path, expr.at? path = some node ∧ place = depth + path.length := by
  constructor
  · exact exists_at?_of_mem_preorder expr
  · rintro ⟨path, reached, rfl⟩
    exact mem_preorder_of_at? reached depth

/-- There is no complaint in a part. -/
def Clean (expr : Expr) : Prop :=
  expr.Everywhere fun node => node.description? = none

theorem clean_iff {expr : Expr} :
    expr.Clean ↔ ∀ path description span, expr.at? path ≠ some (fault description span) := by
  constructor
  · intro clean path description span reached
    cases clean path _ reached
  · intro apart path node reached
    cases node with
    | call parameters span => rfl
    | text value span => rfl
    | fault description span => exact absurd reached (apart path description span)

theorem clean_text (value : String) (span : Span) : (text value span).Clean :=
  everywhere_of_parameters rfl (List.forall_mem_nil _)

theorem clean_call {parameters : List Expr} (clean : ∀ parameter ∈ parameters, parameter.Clean)
    (span : Span) : (call parameters span).Clean :=
  everywhere_of_parameters rfl clean

theorem firstFault?_eq_none_iff (expr : Expr) (depth : Nat) :
    firstFault? (expr.preorder depth) = none ↔ expr.Clean := by
  rw [firstFault?, List.findSome?_eq_none_iff]
  constructor
  · intro none_told path node reached
    exact none_told _ (mem_preorder_of_at? reached depth)
  · rintro clean ⟨place, node⟩ listed
    obtain ⟨path, reached, -⟩ := mem_preorder_iff.1 listed
    exact clean path node reached

/-- A part means nothing exactly if there is a complaint in it. -/
theorem exists_toCommand_eq_error_iff (expr : Expr) :
    (∃ error, expr.toCommand = .error error) ↔ ¬ expr.Clean := by
  rw [← firstFault?_eq_none_iff expr 0]
  constructor
  · rintro ⟨error, failed⟩ none_told
    obtain ⟨description, told, -⟩ := (toCommand_eq_error_iff expr error).1 failed
    rw [none_told] at told
    cases told
  · intro some_told
    obtain ⟨description, told⟩ := Option.ne_none_iff_exists'.1 some_told
    exact ⟨_, (toCommand_eq_error_iff expr _).2 ⟨description, told, rfl⟩⟩

theorem Clean.exists_means {expr : Expr} (clean : expr.Clean) : ∃ command, expr.Means command := by
  cases meant : expr.toCommand with
  | error error => exact absurd clean ((exists_toCommand_eq_error_iff expr).1 ⟨error, meant⟩)
  | ok command => exact ⟨command, (toCommand_eq_ok_iff expr command).1 meant⟩

end Expr

namespace OpenCall

/-- There is no complaint in the parameters of an open call. -/
def Clean (call : OpenCall) : Prop :=
  ∀ parameter ∈ call.parameters, parameter.Clean

variable {call : OpenCall}

theorem Clean.push (clean : call.Clean) {parameter : Expr} (next : parameter.Clean) :
    (call.push parameter).Clean :=
  List.forall_mem_cons.2 ⟨next, clean⟩

theorem Clean.close (clean : call.Clean) (source : String) (stop : Nat) :
    (call.close source stop).Clean :=
  Expr.clean_call (fun parameter inside => clean parameter (List.mem_reverse.1 inside)) _

end OpenCall

/-- A reader has made no complaint: there is none in the open calls, and none in the outermost call
once it is closed. -/
structure Reader.Clean (reader : Reader) : Prop where
  opened : ∀ call ∈ reader.opened, call.Clean
  root : ∀ root, reader.root? = some root → root.Clean

namespace Reader.Clean

variable {reader : Reader}

theorem start (line : List Char) : (Reader.start line).Clean :=
  ⟨List.forall_mem_nil _, nofun⟩

theorem congr {other : Reader} (clean : reader.Clean) (opened : other.opened = reader.opened)
    (root : other.root? = reader.root?) : other.Clean :=
  ⟨opened ▸ clean.opened, root ▸ clean.root⟩

theorem push (clean : reader.Clean) {parameter : Expr} (next : parameter.Clean) :
    (reader.push parameter).Clean := by
  unfold Reader.push
  split
  · exact clean
  · rename_i call others same
    have before := clean.opened
    rw [same, List.forall_mem_cons] at before
    exact ⟨List.forall_mem_cons.2 ⟨before.1.push next, before.2⟩, clean.root⟩

theorem close (clean : reader.Clean) (source : String) (stop : Nat) :
    (reader.close source stop).Clean := by
  have before := clean.opened
  unfold Reader.close
  split
  · exact clean
  · rename_i call same
    rw [same, List.forall_mem_singleton] at before
    refine ⟨List.forall_mem_nil _, ?_⟩
    rintro root ⟨⟩
    exact before.close source stop
  · rename_i call outer others same
    rw [same, List.forall_mem_cons, List.forall_mem_cons] at before
    obtain ⟨inner, around, beyond⟩ := before
    have attached := around.push (inner.close source stop)
    exact ⟨List.forall_mem_cons.2 ⟨attached, beyond⟩, clean.root⟩

theorem command (clean : reader.Clean) : reader.command.Clean := by
  have opened : ∀ call ∈ (⟨reader.position, []⟩ : OpenCall) :: reader.opened, call.Clean :=
    List.forall_mem_cons.2 ⟨List.forall_mem_nil _, clean.opened⟩
  unfold Reader.command
  split
  · exact ⟨opened, clean.root⟩
  · exact ⟨opened, clean.root⟩

theorem select (clean : reader.Clean) (source : String) : (reader.select source).Clean := by
  have skipped : reader.skipBlank.Clean := clean.congr rfl rfl
  unfold Reader.select
  dsimp only
  split
  -- only a closing parenthesis changes more than the stage and the place
  case h_4 => exact (skipped.close source _).congr rfl rfl
  all_goals exact skipped.congr rfl rfl

theorem step (clean : reader.Clean) (source : String) : (reader.step source).Clean := by
  unfold Reader.step
  split
  · exact clean.command
  · exact clean.select source
  · exact (clean.push (Expr.clean_text _ _)).congr rfl rfl
  · exact (clean.push (Expr.clean_text _ _)).congr rfl rfl
  · exact clean

theorem run (clean : reader.Clean) (source : String) : (reader.run source).Clean := by
  fun_induction Reader.run source reader with
  | case1 reader finished => exact clean
  | case2 reader going ih => exact ih (clean.step source)

theorem closeAll (clean : reader.Clean) (source : String) (stop : Nat) :
    (reader.closeAll source stop).Clean := by
  fun_induction Reader.closeAll source stop reader with
  | case1 reader closed => exact clean
  | case2 reader some_open ih => exact ih (clean.close source stop)

theorem tree (clean : reader.Clean) (source : String) : (reader.tree source).Clean := by
  unfold Reader.tree
  split
  · rename_i root found
    exact (clean.closeAll source _).root root found
  · exact Expr.clean_call (List.forall_mem_nil _) _

end Reader.Clean

/-- There is no complaint in what is read from a line. -/
theorem Expr.clean_read (line : String) : (Expr.read line).Clean :=
  ((Reader.Clean.start line.toList).run line).tree line

end ChatLine
