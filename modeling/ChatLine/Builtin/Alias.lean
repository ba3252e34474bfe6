import ChatLine.Program

set_option autoImplicit false

namespace ChatLine.Builtin

namespace AliasAdd

def documentation : Documentation :=
  ((Documentation.ofPath "alias add").describedAs
      "Adds a new command that runs a command line.").withUsage
    "<name> <command...>"
    "Runs <command> when !<name> is called; use !param <n> for arguments"

def code {σ : Type} (bindings : Bindings) : Native σ Value := do
  let name ← Native.ofExcept (bindings.text 0)
  let words ← Native.ofExcept (bindings.tail 1)
  Native.addAlias name (" ".intercalate words)
  return .unit

end AliasAdd

namespace AliasRemove

def documentation : Documentation :=
  ((Documentation.ofPath "alias remove").describedAs "Removes an alias.").withUsage
    "<name>" "The alias to remove"

def code {σ : Type} (bindings : Bindings) : Native σ Value := do
  discard (Native.removeAlias (← Native.ofExcept (bindings.text 0)))
  return .unit

end AliasRemove

namespace AliasShow

def documentation : Documentation :=
  ((Documentation.ofPath "alias show").describedAs
      "Shows the command line of an alias.").withUsage
    "<name>" "The alias to show"

def code {σ : Type} (bindings : Bindings) : Native σ Value := do
  let name ← Native.ofExcept (bindings.text 0)
  match (← Native.bot).aliases.get? name with
  | some text => return .string text
  | none => Native.fail (.nameNotFound name)

end AliasShow

namespace AliasList

def documentation : Documentation :=
  (Documentation.ofPath "alias list").describedAs "Lists all aliases."

def code {σ : Type} (_ : Bindings) : Native σ Value := do
  return .list (← Native.bot).aliases.names

end AliasList

end ChatLine.Builtin
