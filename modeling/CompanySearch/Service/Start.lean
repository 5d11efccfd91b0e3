-- Starting the service: the settings are checked, the dataset is loaded ahead of the first request
-- if that is asked for, and the web interface is opened.
import CompanySearch.Service.State

namespace CompanySearch.Service

/-- Loads the dataset with nothing else under way. If that fails, the first request tries
again. -/
def warmUp (s : Service) : Service :=
  let call := s.cache.calls.length
  let warmed := { s with cache := s.cache.perform .warm }.reporting s.cache.journal.length none
  match warmed.outcome? call with
  | some (.failed fault) => warmed.log (coldStartEvent fault)
  | _ => warmed

/-- Starts a service with the given settings over the store at hand, which is used only once the
settings have been found fit, and then only to warm up. What has been logged before is kept, the
latest first. -/
def startOver (settings : Settings) (events : List Log.Event) (timeText : Nat → String) :
    EStateM Fault Cache.Store Service := do
  MonadExcept.ofExcept settings.validate
  let s := { ofStore (← get) settings.cache.ttl timeText with events := events }
  let s := if settings.cache.warmOnStartup then s.warmUp else s
  set s.cache.store
  return s

/-- A service with the given settings over a store, unless the settings are unfit. -/
def start (settings : Settings) (store : Cache.Store) (events : List Log.Event)
    (timeText : Nat → String) : Except Fault Service :=
  match (startOver settings events timeText).run store with
  | .ok s _ => .ok s
  | .error fault _ => .error fault

/-- Opens the web interface of a service. -/
def openWeb (s : Service) (server : ServerSettings) : Service :=
  { s with
    origins := .ofList server.corsOrigins
    bodyLimit := server.maxBodySize.toNat }.logAll
    ((Web.ignoredOrigins server.corsOrigins).map ignoredOriginEvent)

end CompanySearch.Service
