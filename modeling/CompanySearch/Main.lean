-- The program: it launches the service, then answers requests that come in on standard input, one
-- a line, until the input ends. The log goes to standard output and, if asked for, to a file.
import CompanySearch.Log.Clock
import CompanySearch.Service.Launch
import CompanySearch.Service.Task
import Std.Time.DateTime.Timestamp

namespace CompanySearch.Program

open CompanySearch.Settings

/-! ## Surroundings -/

def fileText? (path : String) : IO (Option String) := do
  try
    return some (← IO.FS.readFile path)
  catch _ => return none

/-- The text of the first file that is there. -/
def firstText : List String → IO String
  | [] => return ""
  | path :: rest => do
    match ← fileText? path with
    | some text => return text
    | none => firstText rest

/-- The environment, with what the file for it adds. -/
def environment : IO Variables := do
  let vars := Variables.ofBlock ((← fileText? "/proc/self/environ").getD "")
  match ← fileText? ".env" with
  | some text => return EnvFile.load vars text
  | none => return vars

/-- The time in milliseconds since the start of 1970. -/
def currentMillis : IO Nat := do
  let now ← Std.Time.Timestamp.now
  return (now.toMillisecondsSinceUnixEpoch.val).toNat

/-- Makes the directory of the log files. -/
def makeLogDirectory (logging : LoggingSettings) : IO (Option Log.DirectoryFault) := do
  if !logging.fileEnabled || logging.fileDirectory.isEmpty then return none
  try
    IO.FS.createDirAll logging.fileDirectory
    return none
  catch _ =>
    if (← fileText? logging.fileDirectory).isSome then return some .alreadyExists
    else return some .notADirectory

/-! ## The log -/

/-- Writes events to the places that the settings name. -/
def writeEvents (filter : Log.Filter) (logging : LoggingSettings) (events : List Log.Event) :
    IO Unit := do
  let millis ← currentMillis
  for e in events.filterMap filter.view? do
    let text := Log.written logging (Log.timeText millis) e
    IO.println text
    if logging.fileEnabled then
      let path := logging.fileDirectory ++ "/" ++ Log.fileName logging (Log.stampAt millis)
      let file ← IO.FS.Handle.mk path .append
      file.putStrLn text

/-! ## Requests -/

/-- A line holds a method, a target and a body, with blanks between them. -/
def requestOfLine (line : String) : Web.Request :=
  let word := fun (s : List Char) => s.takeWhile (· != ' ')
  let after := fun (s : List Char) => (s.dropWhile (· != ' ')).drop 1
  let s := (Text.trim line).toList
  .make (String.ofList (word s)) (String.ofList (word (after s)))
    [("content-type", "application/json")] (Text.Utf8.encode (after (after s)))

def writeReply (r : Web.Reply) : IO Unit := do
  IO.println (toString r.status)
  for h in r.headers do
    IO.println (h.1 ++ ": " ++ h.2)
  IO.println ""
  IO.println r.body

/-- Answers requests until the input ends; `number` requests have been answered. -/
partial def serve (filter : Log.Filter) (logging : LoggingSettings) (launched number : Nat)
    (s : Service) : IO Unit := do
  let line ← (← IO.getStdin).getLine
  if line.isEmpty then return
  let s := s.elapse ((← currentMillis) - launched - s.now)
  let (after, result) := s.run (.exchange (requestOfLine line) (toString number))
  writeEvents filter logging
    (after.events.take (after.events.length - s.events.length)).reverse
  match result with
  | .replied r => writeReply r
  | _ => return
  serve filter logging launched (number + 1) after

/-! ## The start -/

/-- Launches the service with loaded settings and runs it; the exit code. -/
def runWith (vars : Variables) (settings : Settings) : IO UInt32 := do
  let logFault ←
    if settings.problem?.isSome then pure none else makeLogDirectory settings.logging
  let launched ← currentMillis
  let launch := Service.launchWith settings logFault fun time => Log.timeText (launched + time)
  let logging := settings.logging
  let filter := Log.serviceFilter logging (vars.lookup "RUST_LOG")
  writeEvents filter logging launch.events.reverse
  match launch.outcome with
  | .error fault =>
    fault.report.forM IO.eprintln
    return 1
  | .ok s =>
    serve filter logging launched 1 s
    writeEvents filter logging [Service.shutdownEvent]
    return 0

end CompanySearch.Program

open CompanySearch CompanySearch.Program in
def main : IO UInt32 := do
  let vars ← environment
  let path := Settings.configuredPath vars
  let text ← firstText (Settings.candidates path)
  match Settings.fromText path text vars with
  | .ok settings => runWith vars settings
  | .error fault =>
    (Service.LaunchFault.load fault).report.forM IO.eprintln
    return 1
