-- What the service reports to the log.
import CompanySearch.Cache.State
import CompanySearch.Log.Event
import CompanySearch.Web.Message

namespace CompanySearch.Service

open CompanySearch.Log

/-! ## The cache -/

/-- The event of a notice of the cache. -/
def noticeEvent (span : Option Span) : Cache.Notice → Event
  | .joined => ⟨.debug, "tally::cache", "Dataset refreshed by a concurrent caller", [], span⟩
  | .refreshFailed backend error =>
    ⟨.warn, "tally::cache", "Dataset refresh failed",
      [("backend", .quoted backend), ("error", .bare error)], span⟩
  | .refreshed backend records took =>
    ⟨.info, "tally::cache", "Dataset refreshed",
      [("backend", .quoted backend), ("records", .number records), ("duration_ms", .number took)],
      span⟩
  | .warmed records =>
    ⟨.info, "tally::cache", "Dataset cache warmed", [("records", .number records)], span⟩
  | .invalidated hadEntry =>
    ⟨.info, "tally::cache", "Dataset cache invalidated", [("had_entry", .flag hadEntry)], span⟩
  | .searched s =>
    ⟨.debug, "tally::services::search", "Search completed",
      [("clauses", .number s.clauses), ("dataset", .number s.dataset),
        ("results", .number s.results), ("sort_field", .quoted s.field),
        ("algorithm", .quoted s.algorithm), ("direction", .quoted s.direction),
        ("elapsed_us", .number 0)],
      span⟩

/-! ## Requests -/

def requestTarget : String := "tally::api::middleware::request_id"

/-- The work on a request under its number. -/
def requestSpan (request : Web.Request) (id : String) : Span where
  name := "http_request"
  level := .info
  target := requestTarget
  fields := [("http.method", .bare request.method), ("http.route", .bare request.path),
    ("request_id", .quoted id)]

/-- The work once its status is known. -/
def answeredSpan (span : Span) (status : Nat) : Span :=
  { span with fields := span.fields ++ [("http.response.status_code", .number status)] }

def incomingEvent (request : Web.Request) (span : Span) : Event :=
  ⟨.debug, requestTarget, "Incoming request",
    [("method", .bare request.method), ("path", .bare request.path)], some span⟩

def completedEvent (request : Web.Request) (span : Span) (status took : Nat) : Event :=
  ⟨.info, requestTarget, "Request completed",
    [("method", .bare request.method), ("path", .bare request.path), ("status", .number status),
      ("duration_ms", .number took)],
    some (answeredSpan span status)⟩

def searchEvent (request : Search.Request) (span : Span) : Event :=
  ⟨.debug, "tally::api::handlers::search", "Search request",
    [("search_text", .bare request.text),
      ("sort_field", .bare (Text.quotedOption request.sortField)),
      ("sort_order", .bare (Text.quotedOption request.sortOrder)),
      ("algorithm", .bare (Text.quotedOption request.algorithm))],
    some span⟩

/-- What is reported of a failure that a client is told of: a failure inside the service in
full, and that the dataset is not there. -/
def faultEvent? (fault : Fault) (span : Option Span) : Option Event :=
  if fault.status = 500 then
    some ⟨.error, "tally::error", "Internal error: " ++ fault.message, [], span⟩
  else if fault.status = 503 then
    some ⟨.warn, "tally::error", "Request failed: " ++ fault.message, [], span⟩
  else none

/-! ## The start -/

def memoryEvent : Event :=
  ⟨.warn, "tally::state", "Using the in-memory record store; the dataset starts empty", [], none⟩

def coldStartEvent (fault : Fault) : Event :=
  ⟨.warn, "tally::state", "Dataset cache warm-up failed; will load on first request",
    [("error", .bare fault.message)], none⟩

def ignoredOriginEvent (origin : String) : Event :=
  ⟨.warn, "tally::api::middleware::layers", "Ignoring invalid CORS origin",
    [("origin", .bare origin)], none⟩

end CompanySearch.Service
