-- The steps of the cache. A step takes one call from one point where it gives way to the next,
-- so the orders in which steps may follow each other are the orders in which calls may mingle.
import CompanySearch.Cache.State

namespace CompanySearch.Cache.State

/-! ## Small changes -/

def setPhase (s : State) (i : Nat) (phase : Phase) : State :=
  { s with calls := s.calls.modify i (fun c => { c with phase := phase }) }

def note (s : State) (i : Nat) (notice : Notice) : State :=
  { s with journal := (i, notice) :: s.journal }

def finish (s : State) (i : Nat) (outcome : Outcome) : State :=
  s.setPhase i (.finished outcome s.now)

def countHit (s : State) : State :=
  { s with counters := { s.counters with hits := s.counters.hits + 1 } }

def countMiss (s : State) : State :=
  { s with counters := { s.counters with misses := s.counters.misses + 1 } }

def countFailure (s : State) : State :=
  { s with counters := { s.counters with failures := s.counters.failures + 1 } }

def countFetchTime (s : State) (took : Nat) : State :=
  { s with counters := { s.counters with fetchTimes := took :: s.counters.fetchTimes } }

def countSearch (s : State) (algorithm : String) (results : Nat) : State :=
  { s with
    counters := { s.counters with searches := (algorithm, results) :: s.counters.searches } }

/-- Puts an entry in place and reports its size. -/
def install (s : State) (entry : Entry) : State :=
  { s with
    entry := some entry
    gauge := entry.snapshot.records.length
    counters := { s.counters with refreshes := s.counters.refreshes + 1 } }

def release (s : State) : State := { s with refreshLock := none }

/-! ## Parts of a step -/

/-- Looks at the entry under the readers' guard, which is given back at once. -/
def look (s : State) : Option (Option Entry × State) := do
  let lock ← s.entryLock.enterReader
  let seen := s.validEntry
  return (seen, { s with entryLock := lock.leaveReader })

/-- Changes the cache under the writer's guard, which is given back at once. -/
def write (s : State) (change : State → State) : Option State := do
  let lock ← s.entryLock.enterWriter
  let changed := change { s with entryLock := lock }
  return { changed with entryLock := changed.entryLock.leaveWriter }

/-- Ends a call that has read an entry: a warming call reports the size, a search its result. -/
def conclude (s : State) (i : Nat) (kind : CallKind) (source : Source) (e : Entry) : State :=
  let s := s.finish i (.read source e)
  match kind with
  | .warm => s.note i (.warmed e.snapshot.records.length)
  | .search request =>
    let summary := Search.summary request e.snapshot.records
    (s.countSearch summary.algorithm summary.results).note i (.searched summary)
  | _ => s

/-! ## The steps of a call -/

/-- The first look. Without a valid entry the call goes on to queue for the refresh lock. -/
def firstLook (s : State) (i : Nat) (kind : CallKind) : Option State := do
  let (seen, s) ← s.look
  match seen with
  | some e => return s.countHit.conclude i kind .hit e
  | none => return s.countMiss.setPhase i .queued

/-- Takes the refresh lock if it is free. -/
def lockRefresh (s : State) (i : Nat) : Option State :=
  match s.refreshLock with
  | none => some ({ s with refreshLock := some i }.setPhase i .rechecking)
  | some _ => none

/-- The second look, with the refresh lock held. Without a valid entry a fetch starts. -/
def secondLook (s : State) (i : Nat) (kind : CallKind) : Option State := do
  let (seen, s) ← s.look
  match seen with
  | some e => return ((s.note i .joined).conclude i kind .joined e).release
  | none =>
    let number := s.store.fetches + 1
    let s := { s with store := { s.store with fetches := number } }
    return s.setPhase i (.fetching number s.now (s.now + s.store.latency.getD 0))

/-- The end of a fetch that is due. The snapshot gets its time here. Putting it in place needs the
writers' guard of the entry, so it is a step of its own, and other calls may come in between. -/
def endFetch (s : State) (i : Nat) (fetch startedAt due : Nat) : Option State :=
  if s.now < due then none
  else
    let took := s.now - startedAt
    let s := s.countFetchTime took
    match s.store.answer with
    | .error fault =>
      some (((s.countFailure.note i (.refreshFailed s.store.backend fault.message)).finish i
        (.failed (.dataUnavailable fault.message))).release)
    | .ok records => some (s.setPhase i (.installing ⟨⟨fetch, records⟩, s.now⟩ took))

/-- Puts what was fetched in place. -/
def putInPlace (s : State) (i : Nat) (kind : CallKind) (entry : Entry) (took : Nat) :
    Option State := do
  let s ← s.write (fun s => s.install entry)
  return ((s.note i (.refreshed s.store.backend entry.snapshot.records.length took)).conclude i
    kind .fetched entry).release

/-- Drops the entry. -/
def drop (s : State) (i : Nat) : Option State := do
  let hadEntry := s.entry.isSome
  let s ← s.write (fun s => { s with entry := none, gauge := 0 })
  return (s.note i (.invalidated hadEntry)).finish i .invalidated

/-- Describes the cache. -/
def describe (s : State) (i : Nat) : Option State := do
  let (_, s) ← s.look
  return s.finish i (.described s.status)

/-- Takes a call one step on; none if it has to wait or has finished. -/
def resume (s : State) (i : Nat) : Option State :=
  match s.calls[i]? with
  | none => none
  | some c =>
    match c.phase with
    | .starting =>
      match c.kind with
      | .invalidate => s.drop i
      | .status => s.describe i
      | kind => s.firstLook i kind
    | .queued => s.lockRefresh i
    | .rechecking => s.secondLook i c.kind
    | .fetching fetch startedAt due => s.endFetch i fetch startedAt due
    | .installing entry took => s.putInPlace i c.kind entry took
    | .finished _ _ => none

/-! ## Everything that can happen -/

/-- A new call; its number is the count of the calls before it. -/
def begin (s : State) (kind : CallKind) : State :=
  { s with calls := s.calls ++ [⟨kind, s.now, .starting⟩] }

def elapse (s : State) (time : Nat) : State := { s with now := s.now + time }

def changeStore (s : State) (change : Store.Change) : State :=
  { s with store := s.store.change change }

inductive Action where
  | begin (kind : CallKind)
  | resume (call : Nat)
  | elapse (time : Nat)
  | changeStore (change : Store.Change)

/-- What an action makes of the state; none if it cannot happen now. -/
def act (s : State) : Action → Option State
  | .begin kind => some (s.begin kind)
  | .resume i => s.resume i
  | .elapse time => some (s.elapse time)
  | .changeStore change => some (s.changeStore change)

/-- What a run of actions makes of the state. -/
def run (s : State) (actions : List Action) : Option State := actions.foldlM act s

/-! ## One call at a time -/

/-- Takes a call as far as it gets without waiting. -/
def proceed (i : Nat) : Nat → State → State
  | 0, s => s
  | fuel + 1, s =>
    match s.resume i with
    | some next => proceed i fuel next
    | none => s

/-- A call passes through six phases, so as many steps bring it as far as it gets. -/
def phases : Nat := 6

/-- The time at which the fetch of a call is due, if it waits for one. -/
def dueTime (s : State) (i : Nat) : Option Nat :=
  match s.calls[i]? with
  | some ⟨_, _, .fetching _ _ due⟩ => some due
  | _ => none

/-- Runs a new call to its end with nothing else under way, letting the time of its fetch
pass. -/
def perform (s : State) (kind : CallKind) : State :=
  let i := s.calls.length
  let s := proceed i phases (s.begin kind)
  match s.dueTime i with
  | some due => proceed i phases (s.elapse (due - s.now))
  | none => s

end CompanySearch.Cache.State
