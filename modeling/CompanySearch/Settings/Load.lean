-- Loading settings: the defaults, over them a file, over it the environment.
import CompanySearch.Settings.Decode
import CompanySearch.Settings.EnvFile
import CompanySearch.Toml.Document

namespace CompanySearch.Settings

/-! ## Files -/

/-- The files of a directory, by name. -/
abbrev Directory := List (String × String)

/-- A path inside the directory without the parts that lead nowhere. A path from the root, or
one that ends in such a part, names no file here. -/
def plainPath? (path : String) : Option String :=
  let parts := path.splitOn "/"
  let leadsNowhere (part : String) : Bool := part.isEmpty || part == "."
  if path.startsWith "/" || parts.getLast?.any leadsNowhere then none
  else some ("/".intercalate (parts.filter fun part => !leadsNowhere part))

/-- The text of the file at a path. -/
def Directory.text? (files : Directory) (path : String) : Option String := do
  let plain ← plainPath? path
  (List.find? (·.1 == plain) files).map (·.2)

/-- Where a settings file is looked for: at its path, then with the usual ending. -/
def candidates (path : String) : List String := [path, path ++ ".toml"]

/-- The text of the settings file at a path. A missing file is as good as an empty one. -/
def Directory.settingsText (files : Directory) (path : String) : String :=
  ((candidates path).findSome? files.text?).getD ""

/-! ## Loading -/

/-- Why settings cannot be loaded. -/
inductive LoadFault where
  /-- The file is not well formed. -/
  | malformed (path : String)
  /-- A setting has a value of the wrong kind. -/
  | wrongKind
  deriving DecidableEq, Repr

def LoadFault.message : LoadFault → String
  | .malformed path => "Failed to read configuration (file: " ++ path ++ ")"
  | .wrongKind => "Failed to deserialize configuration"

/-- The settings in a file's text with the environment laid over it. -/
def fromText (path text : String) (vars : Variables) : Except LoadFault Settings :=
  match Toml.readFile? text with
  | none => .error (.malformed path)
  | some entries =>
    match ofTree? ((Tree.empty.lay entries).lay vars.settings) with
    | some s => .ok s
    | none => .error .wrongKind

/-- The settings with the file at a path. -/
def loadFrom (files : Directory) (vars : Variables) (path : String) : Except LoadFault Settings :=
  fromText path (files.settingsText path) vars

/-- The environment together with the variables that the directory's file for them adds. -/
def withEnvFile (files : Directory) (vars : Variables) : Variables :=
  match files.text? ".env" with
  | some text => EnvFile.load vars text
  | none => vars

def defaultPath : String := "config.toml"

/-- The path of the settings file, which the environment may give. -/
def configuredPath (vars : Variables) : String :=
  (vars.lookup "TALLY_CONFIG").getD defaultPath

/-- The settings as the service loads them when it starts. -/
def load (files : Directory) (vars : Variables) : Except LoadFault Settings :=
  let vars := withEnvFile files vars
  loadFrom files vars (configuredPath vars)

end CompanySearch.Settings
