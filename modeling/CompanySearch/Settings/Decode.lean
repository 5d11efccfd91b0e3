-- Settings out of structured data. Missing settings keep their defaults and unknown ones are
-- passed over; a section may also be a list of its settings in their order.
import CompanySearch.Json.Reader
import CompanySearch.Settings.Basic
import CompanySearch.Settings.Tree

namespace CompanySearch.Settings

-- Powers are those of the core library, whatever else is imported.
attribute [local instance (high)] instPowNat

/-! ## Kinds of data -/

/-- How values of one kind of data are looked at. -/
structure Reader (α : Type) where
  text? : α → Option String
  flag? : α → Option Bool
  natural? : α → Option Nat
  items? : α → Option (List α)
  members? : α → Option (List (String × α))
  /-- Whether a list may go on behind the last setting of a section. -/
  allowsMore : Bool

/-- Strict reading of the data format: every setting has its own kind. -/
def jsonReader : Reader Json where
  text?
    | .text s => some s
    | _ => none
  flag?
    | .bool b => some b
    | _ => none
  natural?
    | .number written =>
      if !written.isEmpty && written.toList.all Char.isDigit then
        (Json.number written).integer?.map Int.toNat
      else none
    | _ => none
  items?
    | .array items => some items
    | _ => none
  members?
    | .object members => some members.reverse
    | _ => none
  allowsMore := false

/-- Lenient reading of trees: flags, numbers and texts stand in for each other. -/
def treeReader : Reader Tree where
  text? := Tree.text?
  flag? := Tree.flag?
  natural? := Tree.natural?
  items?
    | .list items => some items
    | _ => none
  members?
    | .table entries => some entries
    | _ => none
  allowsMore := true

namespace Reader

/-! ## Sections -/

/-- How the settings of a section are found: by name, or by position in a list. -/
def finder (r : Reader α) (count : Nat) (v : α) : Option (Nat → String → Option α) :=
  match r.members? v with
  | some members => some fun _ name => (members.find? (·.1 == name)).map (·.2)
  | none =>
    match r.items? v with
    | some items =>
      if items.length ≤ count || r.allowsMore then some fun i _ => items[i]? else none
    | none => none

/-- The default where there is no value, and else what the value is read as. -/
def orDefault (default : β) (read : α → Option β) : Option α → Option β
  | none => some default
  | some v => read v

/-- A natural number below a bound. -/
def below? (r : Reader α) (bound : Nat) (v : α) : Option Nat :=
  (r.natural? v).filter (fun n => decide (n < bound))

def texts? (r : Reader α) (v : α) : Option (List String) := do
  (← r.items? v).mapM r.text?

def port? (r : Reader α) (v : α) : Option UInt16 := (r.below? (2 ^ (16 : Nat)) v).map .ofNat

def short? (r : Reader α) (v : α) : Option UInt32 := (r.below? (2 ^ (32 : Nat)) v).map .ofNat

def long? (r : Reader α) (v : α) : Option UInt64 := (r.below? (2 ^ (64 : Nat)) v).map .ofNat

def server? (r : Reader α) (v : α) : Option ServerSettings := do
  let find ← r.finder 4 v
  let d := ServerSettings.default
  return {
    host := ← orDefault d.host r.text? (find 0 "host")
    port := ← orDefault d.port r.port? (find 1 "port")
    corsOrigins := ← orDefault d.corsOrigins r.texts? (find 2 "cors_origins")
    maxBodySize := ← orDefault d.maxBodySize r.long? (find 3 "max_request_body_size") }

def database? (r : Reader α) (v : α) : Option DatabaseSettings := do
  let find ← r.finder 5 v
  let d := DatabaseSettings.default
  return {
    url := ← orDefault d.url r.text? (find 0 "url")
    poolMaxSize := ← orDefault d.poolMaxSize r.short? (find 1 "pool_max_size")
    poolMinSize := ← orDefault d.poolMinSize r.short? (find 2 "pool_min_size")
    poolTimeoutSeconds := ← orDefault d.poolTimeoutSeconds r.long? (find 3 "pool_timeout_seconds")
    runMigrations := ← orDefault d.runMigrations r.flag? (find 4 "run_migrations") }

def cache? (r : Reader α) (v : α) : Option CacheSettings := do
  let find ← r.finder 2 v
  let d := CacheSettings.default
  return {
    ttlSeconds := ← orDefault d.ttlSeconds r.long? (find 0 "ttl_seconds")
    warmOnStartup := ← orDefault d.warmOnStartup r.flag? (find 1 "warm_on_startup") }

def logging? (r : Reader α) (v : α) : Option LoggingSettings := do
  let find ← r.finder 8 v
  let d := LoggingSettings.default
  return {
    level := ← orDefault d.level r.text? (find 0 "level")
    json := ← orDefault d.json r.flag? (find 1 "json")
    fileEnabled := ← orDefault d.fileEnabled r.flag? (find 2 "file_enabled")
    fileDirectory := ← orDefault d.fileDirectory r.text? (find 3 "file_directory")
    filePrefix := ← orDefault d.filePrefix r.text? (find 4 "file_prefix")
    fileRotation := ← orDefault d.fileRotation r.text? (find 5 "file_rotation")
    serviceName := ← orDefault d.serviceName r.text? (find 6 "service_name")
    deploymentEnvironment :=
      ← orDefault d.deploymentEnvironment r.text? (find 7 "deployment_environment") }

/-- The settings that a value holds, unless one of them cannot be read. -/
def settings? (r : Reader α) (v : α) : Option Settings := do
  let find ← r.finder 4 v
  let d := Settings.default
  return {
    server := ← orDefault d.server r.server? (find 0 "server")
    database := ← orDefault d.database r.database? (find 1 "database")
    cache := ← orDefault d.cache r.cache? (find 2 "cache")
    logging := ← orDefault d.logging r.logging? (find 3 "logging") }

end Reader

/-- The settings in a value of the data format. -/
def ofJson? (v : Json) : Option Settings := jsonReader.settings? v

/-- The settings in a tree. -/
def ofTree? (t : Tree) : Option Settings := treeReader.settings? t

end CompanySearch.Settings
