-- The service: the cache, the policies of its web interface, and what it has counted and logged.
import CompanySearch.Cache.Step
import CompanySearch.Metrics.Page
import CompanySearch.Service.Report
import CompanySearch.Settings.Basic
import CompanySearch.Web.Coding
import CompanySearch.Web.Dispatch
import CompanySearch.Web.Origins

namespace CompanySearch

/-- A running service. Lists hold the latest first. -/
structure Service where
  cache : Cache.State
  origins : Web.OriginPolicy
  /-- The largest body that is taken, in bytes. -/
  bodyLimit : Nat
  exchanges : List Metrics.Exchange
  events : List Log.Event
  /-- The text of a point in time of the service's clock. -/
  timeText : Nat → String

namespace Service

/-- A service over a store with nothing in its cache. -/
def ofStore (store : Cache.Store) (ttl : Nat) (timeText : Nat → String) : Service where
  cache := .start store ttl
  origins := .closed
  bodyLimit := ServerSettings.default.maxBodySize.toNat
  exchanges := []
  events := []
  timeText := timeText

def now (s : Service) : Nat := s.cache.now

def log (s : Service) (event : Log.Event) : Service := { s with events := event :: s.events }

def logAll (s : Service) (events : List Log.Event) : Service := events.foldl log s

def elapse (s : Service) (time : Nat) : Service := { s with cache := s.cache.elapse time }

def changeStore (s : Service) (change : Cache.Store.Change) : Service :=
  { s with cache := s.cache.changeStore change }

/-! ## Calls -/

/-- What the cache has reported beyond so many notices, the earliest first. -/
def newNotices (s : Service) (known : Nat) : List Cache.Notice :=
  ((s.cache.journal.take (s.cache.journal.length - known)).reverse).map Prod.snd

/-- Logs what the cache has reported beyond so many notices. -/
def reporting (s : Service) (known : Nat) (span : Option Log.Span) : Service :=
  s.logAll ((s.newNotices known).map (noticeEvent span))

/-- Takes a call of the cache as far as it gets, and logs what the cache reports. -/
def proceed (s : Service) (call : Nat) (span : Option Log.Span) : Service :=
  { s with cache := Cache.State.proceed call Cache.State.phases s.cache }.reporting
    s.cache.journal.length span

/-- What a call has come to, if it has finished. -/
def outcome? (s : Service) (call : Nat) : Option Cache.Outcome :=
  match s.cache.calls[call]? with
  | some ⟨_, _, .finished outcome _⟩ => some outcome
  | _ => none

/-- The rows that a call has come to. -/
def rows (s : Service) (call : Nat) : List Record :=
  (s.cache.calls[call]?.bind Cache.Call.rows?).getD []

/-! ## Replies -/

/-- The age of an entry in seconds, from milliseconds: whole seconds and the rest of them are
converted on their own. -/
def ageSeconds (age : Nat) : Number.Binary64 :=
  .ofDyadic false ((Number.Dyadic.ofNat (age / 1000)).add
    ((Number.Dyadic.ofNat (age % 1000 * 1000000)).div (Number.Dyadic.ofNat 1000000000)))

/-- What is said about the cache, as data. -/
def statusJson (timeText : Nat → String) (status : Cache.Status) : Json :=
  .object [
    ("populated", .bool status.populated),
    ("valid", .bool status.valid),
    ("records", .ofNat status.records),
    ("age_seconds", status.age.elim .null fun age => .number (ageSeconds age).dataText),
    ("refreshed_at", status.refreshedAt.elim .null fun time => .text (timeText time)),
    ("ttl_seconds", .ofNat (status.ttl / 1000))]

def rowsReply (rows : List Record) : Web.Reply := .ofJson 200 (.array (rows.map Record.toJson))

def invalidatedReply (status : Json) : Web.Reply :=
  .ofJson 200 (.object [("invalidated", .bool true), ("cache", status)])

def faultReply (fault : Fault) : Web.Reply := .ofJson fault.status fault.body

def pageReply (s : Service) : Web.Reply where
  status := 200
  headers := [("content-type", "text/plain; version=0.0.4; charset=utf-8")]
  body := Metrics.page s.cache.counters s.cache.gauge s.exchanges

/-- The header fields about the number of a request: its own, and the one that the client gave
it, if it is plain text. -/
def numberHeaders (request : Web.Request) (id : String) : Web.Headers :=
  ("x-request-id", id) ::
    ((request.headers.first? "x-request-id").filter Web.isVisible).toList.map
      (("x-correlation-id", ·))

/-- The reply as it is sent: numbered, coded as the client accepts it, with the header fields
about origins, and without its body if the client does not want it. -/
def finished (s : Service) (request : Web.Request) (id : String) (r : Web.Reply) : Web.Reply :=
  let r := { r with headers := r.headers ++ numberHeaders request id }
  let r := s.origins.apply request (Web.encoded request r)
  if request.method = "HEAD" then r.bare else r

/-- The answer to a client that asks what it may send. It is neither numbered nor counted. -/
def preflight (s : Service) (request : Web.Request) : Web.Reply :=
  let r := Web.preflightReply request
  s.origins.apply request { r with headers := r.headers ++ s.origins.preflightHeaders }

/-- Logs and counts the answer to a request that came in at a time. -/
def recordExchange (s : Service) (request : Web.Request) (span : Log.Span) (since status : Nat) :
    Service :=
  let took := s.now - since
  let s := s.log (completedEvent request span status took)
  { s with
    exchanges :=
      ⟨request.method, Web.countedPath request.path, status, took⟩ :: s.exchanges }

end Service

end CompanySearch
