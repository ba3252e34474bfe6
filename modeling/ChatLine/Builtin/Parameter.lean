import ChatLine.Program

set_option autoImplicit false

namespace ChatLine.Builtin.Parameter

def documentation : Documentation :=
  ((Documentation.ofPath "param").describedAs
      "Gets an argument of the alias this is used in.").withUsage
    "<index>" "The argument at <index>, starting with 0"

def find? (frame : Frame) (index : Int) : Option Command :=
  if index < 0 then none else frame[index.toNat]?

/-- Runs the argument with an index. It belongs to the caller of the line, so it runs with the frames
of that caller. -/
def run {σ : Type} (index : Int) (kinds : List Kind) : Native σ Reply := do
  match (← Native.context).frames with
  | [] => Native.fail (.native "param can only be used inside an alias")
  | frame :: _ =>
    match find? frame index with
    | some argument => Native.callWithin [.outer] argument [] kinds
    | none => Native.fail (.native ("the alias has no argument " ++ toString index))

def code {σ : Type} (bindings : Bindings) : Native σ Value := do
  let index ← Native.ofExcept (bindings.int 1)
  let kinds ← Native.ofExcept (bindings.kinds 2)
  return .reply (← run index kinds)

end ChatLine.Builtin.Parameter
