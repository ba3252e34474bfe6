import ChatLine.NameMap

set_option autoImplicit false

namespace ChatLine

/-- How a bot is set up. -/
structure Config where
  /-- The name of the bot, which its help shows. -/
  name : String
  /-- The tokens that one call may spend on stored lines. -/
  budget : Nat
  /-- The stored lines that the bot starts with, by their names. -/
  aliases : NameMap String
  /-- Whether the bot has the built-in commands. -/
  builtins : Bool
  deriving DecidableEq, Repr

namespace Config

def standard : Config := ⟨"chatcmd", 64, [], true⟩

def bare : Config := { standard with builtins := false }

def withName (config : Config) (name : String) : Config :=
  { config with name := name }

def withBudget (config : Config) (tokens : Nat) : Config :=
  { config with budget := tokens }

/-- The configuration with one more stored line, in place of one of the same name. -/
def withAlias (config : Config) (name text : String) : Config :=
  { config with aliases := config.aliases.set name text }

end Config

end ChatLine
