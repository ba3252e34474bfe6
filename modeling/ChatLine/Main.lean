import ChatLine.Config.Reader
import ChatLine.Console

set_option autoImplicit false

namespace ChatLine.Main

def configVariable : String := "CHATCMD_CONFIG"

def version : String := "0.1.0"

def defaultPath? (configHome home : Option String) : Option String :=
  let folder :=
    match configHome with
    | some path => if path.startsWith "/" then some path else home.map (· ++ "/.config")
    | none => home.map (· ++ "/.config")
  folder.map (· ++ "/chatcmd/config.json")

def readSource (path : Option String) : IO (Option ConfigSource) := do
  match path with
  | none => return some .unnamed
  | some path =>
    try
      return some (.file (← IO.FS.readBinFile path))
    catch
      | .noFileOrDirectory _ _ _ => return some .missing
      | _ => return none

/-- A text between the marks that make a terminal show it in a colour or weight. -/
def styled (on off text : String) : String :=
  "\x1b[" ++ on ++ "m" ++ text ++ "\x1b[" ++ off ++ "m"

def showText (text : String) : IO Unit :=
  IO.println (if text.startsWith "error: " then styled "31" "39" text else text)

def withoutLineEnd (line : String) : String :=
  let chars := line.toList
  let chars := if chars.getLast? = some '\n' then chars.dropLast else chars
  String.ofList (if chars.getLast? = some '\r' then chars.dropLast else chars)

partial def loop (console : Console Unit) : IO Unit := do
  IO.print "> "
  (← IO.getStdout).flush
  let line ← (← IO.getStdin).getLine
  if line.isEmpty then IO.println "^D"
  else
    let (response, console) := console.takeLine Host.none (withoutLineEnd line)
    match response with
    | .output text => showText text; loop console
    | .silent => loop console
    | .quit => return ()

def stop (reason : String) : IO UInt32 := do
  IO.eprintln ("Error: " ++ reason)
  return 1

def runConsole (config : Config) : IO UInt32 := do
  match Console.start config () (← IO.rand 0 4294967295) with
  | .error error => stop error.message
  | .ok console =>
    IO.println (styled "1" "0" "chatcmd" ++ " v" ++ version ++ ", bot \"" ++ config.name ++ "\"")
    IO.println "Type /help for meta-commands, /quit to exit.\n"
    loop console
    return 0

/-- Runs the console with the configuration in the named file, or in the default one. -/
def run : IO UInt32 := do
  let named ← IO.getEnv configVariable
  let fallback := defaultPath? (← IO.getEnv "XDG_CONFIG_HOME") (← IO.getEnv "HOME")
  let path := named.orElse fun _ => fallback
  let failure := "loading " ++ path.getD ""
  match ← readSource path with
  | none => stop (failure ++ ": failed to read config file")
  | some source =>
    match Config.load source named.isSome with
    | .error .unreadable => stop (failure ++ ": failed to read config file")
    | .error .malformed => stop (failure ++ ": invalid config")
    | .ok config => runConsole config

end ChatLine.Main

def main : IO UInt32 := ChatLine.Main.run
