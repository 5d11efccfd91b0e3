-- Where the log goes: standard output, and a file if the settings ask for one.
import CompanySearch.Log.Filter

namespace CompanySearch.Log

/-! ## Files -/

/-- The parts of a day and time that the names of log files show. -/
structure Stamp where
  day : String
  hour : String
  minute : String
  deriving DecidableEq, Repr

/-- The end of the name of a file begun at a time. -/
def stampText (rotation : String) (s : Stamp) : String :=
  match rotation with
  | "minutely" => s.day ++ "-" ++ s.hour ++ "-" ++ s.minute
  | "hourly" => s.day ++ "-" ++ s.hour
  | _ => s.day

/-- The name of a log file begun at a time. A file that is never replaced shows no time, and an
empty start of names leaves the time alone. -/
def fileName (settings : LoggingSettings) (s : Stamp) : String :=
  if settings.fileRotation = "never" then settings.filePrefix ++ ".log"
  else if settings.filePrefix.isEmpty then stampText settings.fileRotation s
  else settings.filePrefix ++ "." ++ stampText settings.fileRotation s

/-- The parts of a path that lead somewhere. -/
def pathParts (path : String) : List String :=
  (path.splitOn "/").filter fun part => !part.isEmpty && part != "."

/-- The path of a log file begun at a time, from the directory in which the service runs. -/
def filePath (settings : LoggingSettings) (s : Stamp) : String :=
  "/".intercalate (pathParts settings.fileDirectory ++ [fileName settings s])

/-- Why the directory for log files cannot be made. -/
inductive DirectoryFault where
  /-- A plain file has its name. -/
  | alreadyExists
  /-- A plain file stands on the way to it. -/
  | notADirectory
  deriving DecidableEq, Repr

/-- What keeps the directory from being made where there is a plain file of a name. -/
def directoryFault? (settings : LoggingSettings) (file : String) : Option DirectoryFault :=
  if !settings.fileEnabled then none
  else
    let directory := pathParts settings.fileDirectory
    let file := pathParts file
    if directory = file then some .alreadyExists
    else if file.isPrefixOf directory then some .notADirectory
    else none

/-! ## What is written -/

/-- The text of an event in the form that the settings ask for. -/
def written (settings : LoggingSettings) (time : String) (e : Event) : String :=
  if settings.json then (e.object time).write else e.line time

/-- The report that logging has begun. -/
def initialized (settings : LoggingSettings) : Event where
  level := .info
  target := "tally::logging"
  message := "Logging initialized"
  fields := [("service_name", .bare settings.serviceName),
    ("environment", .bare settings.deploymentEnvironment), ("json", .flag settings.json),
    ("file_enabled", .flag settings.fileEnabled)]
  span := none

end CompanySearch.Log
