import ChatLine.Text.Pieces

set_option autoImplicit false

namespace ChatLine

structure Usage where
  form : String
  help : String
  deriving DecidableEq, Repr, Inhabited

/-- The documentation of a command. -/
structure Documentation where
  /-- The words that call the command, with spaces between. -/
  path : String
  /-- The right that the application may ask of a caller. -/
  rights : String
  description : Option String
  usage : List Usage
  deriving DecidableEq, Repr, Inhabited

namespace Documentation

/-- The right that a path takes when no other is named: its words with points between. -/
def defaultRights (path : String) : String :=
  "cmd." ++ ".".intercalate (Text.spaced path)

/-- The documentation of a path with its default right and nothing else. -/
def ofPath (path : String) : Documentation :=
  ⟨path, defaultRights path, none, []⟩

def describedAs (doc : Documentation) (description : String) : Documentation :=
  { doc with description := some description }

def withUsage (doc : Documentation) (form help : String) : Documentation :=
  { doc with usage := doc.usage ++ [⟨form, help⟩] }

def withRights (doc : Documentation) (rights : String) : Documentation :=
  { doc with rights := rights }

/-- A usage line: the command mark and the path, and the help in the column `width`. -/
def usageLine (path : String) (width : Nat) (usage : Usage) : String :=
  "\n!" ++ path ++ " " ++ usage.form
    ++ String.ofList (List.replicate (width - usage.form.length) ' ') ++ usage.help

/-- The line with the description; there is none for an empty description. -/
def descriptionLine (doc : Documentation) : String :=
  match doc.description with
  | none => ""
  | some text => if text.isEmpty then "" else "\n!" ++ doc.path ++ ": " ++ text

/-- The help text: the description and then the usage lines, whose helps stand below each other. -/
def helpText (doc : Documentation) : String :=
  let width := (doc.usage.map fun usage => usage.form.length).foldl max 0 + 1
  doc.descriptionLine ++ String.join (doc.usage.map (usageLine doc.path width))

end Documentation

end ChatLine
