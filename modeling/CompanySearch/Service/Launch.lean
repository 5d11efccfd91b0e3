-- Launching the service: settings, log, address, store, web interface. Each step may fail, and
-- then the service ends with a report.
import CompanySearch.Database.Rows
import CompanySearch.Log.Output
import CompanySearch.Service.Start
import CompanySearch.Settings.Address
import CompanySearch.Settings.Load

namespace CompanySearch.Service

open CompanySearch.Settings

/-! ## Failures -/

/-- Why the service cannot be launched. -/
inductive LaunchFault where
  | load (fault : LoadFault)
  | settings (problem : Settings.Problem)
  | logging (fault : Log.DirectoryFault)
  | address (server : ServerSettings)
  /-- The store cannot be reached. -/
  | store
  /-- The address belongs to another machine. -/
  | bind (address : String)
  deriving DecidableEq, Repr

namespace LaunchFault

/-- Which step failed. -/
def summary : LaunchFault → String
  | .load _ => "Failed to load configuration"
  | .settings _ => "Invalid configuration"
  | .logging _ => "Failed to initialize logging"
  | .address _ => "Failed to determine socket address"
  | .store => "Failed to initialize application state"
  | .bind shown => "Failed to bind TCP listener on " ++ shown

/-- Why it failed. -/
def cause : LaunchFault → String
  | .load fault => fault.message
  | .settings problem => (Fault.validation problem.text).message
  | .logging .alreadyExists => "File exists (os error 17)"
  | .logging .notADirectory => "Not a directory (os error 20)"
  | .address server => "Invalid listen address " ++ server.host ++ ":" ++ toString server.port
  | .store => Database.connectFailure
  | .bind _ => "Cannot assign requested address (os error 99)"

/-- The lines of the report. -/
def report (f : LaunchFault) : List String :=
  ["Error: " ++ f.summary, "", "Caused by:", "    " ++ f.cause]

end LaunchFault

/-! ## Events -/

def launchEvent (message : String) (fields : Log.Fields) : Log.Event :=
  ⟨.info, "tally_server", message, fields, none⟩

/-- The version of the service. -/
def version : String := "0.1.0"

def startingEvent (logging : LoggingSettings) : Log.Event :=
  launchEvent "Starting Tally Server"
    [("version", .quoted version), ("environment", .bare logging.deploymentEnvironment)]

def settingsEvent (settings : Settings) (address : String) : Log.Event :=
  launchEvent "Configuration loaded"
    [("listen_addr", .bare address),
      ("cache_ttl_seconds", .number settings.cache.ttlSeconds.toNat),
      ("memory_store", .flag settings.database.isMemory)]

/-- Where the service can be reached. -/
def reachableEvents (address : String) : List Log.Event :=
  let root := "http://" ++ address
  [launchEvent ("Tally Server listening on " ++ root) [],
    launchEvent ("Health check: " ++ root ++ "/health") [],
    launchEvent ("API endpoint: " ++ root ++ "/api/companies") []]

/-- What is logged when a signal tells the service to end. -/
def signalEvent (signal : String) : Log.Event :=
  launchEvent (signal ++ " received, starting graceful shutdown...") []

/-- What is logged when the service has ended. -/
def shutdownEvent : Log.Event := launchEvent "Server shutdown complete" []

/-! ## Steps -/

/-- How far a launch has come: the settings once they are loaded, and what has been logged since
the log was opened, the latest first. -/
structure Launch where
  settings : Settings
  events : List Log.Event
  outcome : Except LaunchFault Service

/-- Refuses to launch before there is a log. -/
def Launch.refused (settings : Settings) (fault : LaunchFault) : Launch :=
  ⟨settings, [], .error fault⟩

/-- Whether an address belongs to this machine wherever it stands: to none in particular, or to
the machine itself. -/
def isOwnHost : Host → Bool
  | .short bytes => bytes == [0, 0, 0, 0] || bytes.head? == some 127
  | .long groups => groups.dropLast == List.replicate 7 0 && groups.getLast?.any (· ≤ 1)

/-- Opens the service over a store of its own in memory and makes it reachable. Other stores
would have to be reached first, and are not. -/
def openService (settings : Settings) (host : Host) (events : List Log.Event)
    (timeText : Nat → String) : Launch :=
  let address := addressText host settings.server.port
  let events := settingsEvent settings address :: events
  if !settings.database.isMemory then ⟨settings, events, .error .store⟩
  else
    match start settings (.inMemory []) (memoryEvent :: events) timeText with
    | .error _ => ⟨settings, memoryEvent :: events, .error .store⟩
    | .ok s =>
      let s := (s.openWeb settings.server).logAll (reachableEvents address)
      if isOwnHost host then ⟨settings, s.events, .ok s⟩
      else ⟨settings, s.events, .error (.bind address)⟩

/-- Launches the service with loaded settings, where something may keep the directory of its log
files from being made. -/
def launchWith (settings : Settings) (logFault : Option Log.DirectoryFault)
    (timeText : Nat → String) : Launch :=
  match settings.problem?, logFault with
  | some problem, _ => .refused settings (.settings problem)
  | none, some fault => .refused settings (.logging fault)
  | none, none =>
    let events := [startingEvent settings.logging, Log.initialized settings.logging]
    match Host.ofText? settings.server.host with
    | some host => openService settings host events timeText
    | none => ⟨settings, events, .error (.address settings.server)⟩

/-- Launches the service among the files of its directory and in an environment. -/
def launch (files : Directory) (vars : Variables) (timeText : Nat → String) : Launch :=
  match Settings.load files vars with
  | .error fault => .refused .default (.load fault)
  | .ok settings =>
    launchWith settings (files.findSome? fun f => Log.directoryFault? settings.logging f.1)
      timeText

/-- The filter of a launch's log, which the environment may give. -/
def launchFilter (files : Directory) (vars : Variables) (settings : Settings) : Log.Filter :=
  Log.serviceFilter settings.logging ((withEnvFile files vars).lookup "RUST_LOG")

end CompanySearch.Service
