import ChatLine.Program

set_option autoImplicit false

namespace ChatLine.Builtin.Help

def documentation : Documentation :=
  ((Documentation.ofPath "help").describedAs
      "Shows all commands or detailed help about a specific command.").withUsage
    "[<command>]" "Any currently accepted command"

/-- The overview: a greeting and the names at the top of the tree. -/
def overview (bot : String) (tree : Children) : String :=
  "\n========= Welcome to " ++ bot ++ " ========="
    ++ "\nIf you need any help with a special command use !help <commandName>."
    ++ "\nHere are all possible commands:\n"
    ++ ", ".intercalate (tree.names.filter fun name => !name.isEmpty)

/-- The node at an abbreviated path below a node that `walked` names. -/
def follow (walked : List String) (node : Node) :
    List String → Except CommandError (List String × Node)
  | [] => .ok (walked, node)
  | part :: rest =>
    match node with
    | .leaf _ =>
      .error (.native ("the command has no further subfunctions after " ++ " ".intercalate walked))
    | .group _ children => do
      let (name, next) ← Children.resolve children part
      follow (walked ++ [name]) next rest

def describe (groups : Groups) (walked : List String) : Node → Except CommandError String
  | .group _ children => .ok (Children.helpText children)
  | .leaf command =>
    match command.help? groups with
    | some text => .ok text
    | none => .error (.native ("no help can be shown for " ++ " ".intercalate walked))

def text (bot : String) (groups : Groups) : List String → Except CommandError String
  | [] => .ok (overview bot groups.top)
  | first :: rest => do
    let (name, node) ← groups.top.resolve first
    let (walked, found) ← follow [name] node rest
    describe groups walked found

def code {σ : Type} (bot : String) (bindings : Bindings) : Native σ Value := do
  let path ← Native.ofExcept (bindings.tail 0)
  return .string (← Native.ofExcept (text bot (← Native.bot).groups path))

end ChatLine.Builtin.Help
