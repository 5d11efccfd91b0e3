-- The cache of the dataset and the calls that are under way on it.
import CompanySearch.Cache.Store
import CompanySearch.Search.Run

namespace CompanySearch.Cache

/-! ## What is cached -/

/-- The dataset as one fetch delivered it; fetches are numbered from one as they start. -/
structure Snapshot where
  fetch : Nat
  records : List Record

/-- The snapshot that is kept, and when its fetch ended. -/
structure Entry where
  snapshot : Snapshot
  populatedAt : Nat

/-- What is said about the cache on request. -/
structure Status where
  populated : Bool
  valid : Bool
  records : Nat
  /-- How long ago the entry was populated, in milliseconds. -/
  age : Option Nat
  /-- When the entry was populated. -/
  refreshedAt : Option Nat
  ttl : Nat
  deriving DecidableEq, Repr

/-! ## Locks -/

/-- The guard of the entry: many readers or one writer. -/
inductive EntryLock where
  | free
  | readers (count : Nat)
  | writer
  deriving DecidableEq, Repr

namespace EntryLock

/-- Lets one more reader in, unless a writer is inside. -/
def enterReader : EntryLock → Option EntryLock
  | .free => some (.readers 1)
  | .readers n => some (.readers (n + 1))
  | .writer => none

def leaveReader : EntryLock → EntryLock
  | .readers (n + 2) => .readers (n + 1)
  | _ => .free

/-- Lets a writer in if nobody is inside. -/
def enterWriter : EntryLock → Option EntryLock
  | .free => some .writer
  | _ => none

def leaveWriter : EntryLock → EntryLock := fun _ => .free

end EntryLock

/-! ## Calls -/

/-- What a call is for. The first three read the dataset. -/
inductive CallKind where
  | dataset
  | warm
  | search (request : Search.Request)
  | invalidate
  | status

/-- How a call came by the entry that it read. -/
inductive Source where
  /-- It was valid at the first look. -/
  | hit
  /-- It was valid at the second look, thanks to another call. -/
  | joined
  /-- The call fetched it. -/
  | fetched
  deriving DecidableEq, Repr

/-- What a finished call has come to. -/
inductive Outcome where
  | read (source : Source) (entry : Entry)
  | failed (fault : Fault)
  | invalidated
  | described (status : Status)

/-- How far a call has come. Between two phases a call gives way to the others. -/
inductive Phase where
  /-- About to look at the entry. -/
  | starting
  /-- Found no valid entry; waits for the refresh lock. -/
  | queued
  /-- Holds the refresh lock, about to look again. -/
  | rechecking
  /-- Holds the refresh lock while the store works on a fetch, which ends when it is due. -/
  | fetching (fetch startedAt due : Nat)
  /-- Holds the refresh lock and what the store has delivered, about to put it in place. -/
  | installing (entry : Entry) (took : Nat)
  | finished (outcome : Outcome) (finishedAt : Nat)

structure Call where
  kind : CallKind
  startedAt : Nat
  phase : Phase

/-- The rows that a call has come to: of a search what it found, of other readings all. -/
def Call.rows? (c : Call) : Option (List Record) :=
  match c.phase, c.kind with
  | .finished (.read _ e) _, .search request => some (Search.run request e.snapshot.records)
  | .finished (.read _ e) _, _ => some e.snapshot.records
  | _, _ => none

/-! ## Reports and counts -/

/-- What a call reports on its way. -/
inductive Notice where
  | joined
  | refreshFailed (backend error : String)
  | refreshed (backend : String) (records took : Nat)
  | warmed (records : Nat)
  | invalidated (hadEntry : Bool)
  | searched (summary : Search.Summary)
  deriving DecidableEq, Repr

/-- What has been counted since the start. Lists hold the latest first. -/
structure Counters where
  hits : Nat
  misses : Nat
  refreshes : Nat
  failures : Nat
  /-- How long each fetch took. -/
  fetchTimes : List Nat
  /-- The algorithm and the number of results of each search. -/
  searches : List (String × Nat)
  deriving DecidableEq, Repr

def Counters.zero : Counters := ⟨0, 0, 0, 0, [], []⟩

/-! ## State -/

/-- The cache, its store, the clock in milliseconds, and all calls so far. -/
structure State where
  now : Nat
  ttl : Nat
  store : Store
  entry : Option Entry
  entryLock : EntryLock
  /-- The call that holds the refresh lock. -/
  refreshLock : Option Nat
  calls : List Call
  counters : Counters
  /-- The number of records last reported as cached. -/
  gauge : Nat
  /-- What the calls have reported, the latest first, each under the number of its call. -/
  journal : List (Nat × Notice)

namespace State

/-- An empty cache over a store. -/
def start (store : Store) (ttl : Nat) : State where
  now := 0
  ttl := ttl
  store := store
  entry := none
  entryLock := .free
  refreshLock := none
  calls := []
  counters := .zero
  gauge := 0
  journal := []

/-- An entry is valid while it is younger than the time to live. -/
def isValid (s : State) (e : Entry) : Bool := decide (s.now - e.populatedAt < s.ttl)

/-- The entry, if it is there and valid. -/
def validEntry (s : State) : Option Entry := s.entry.filter s.isValid

def status (s : State) : Status :=
  match s.entry with
  | some e =>
    ⟨true, s.isValid e, e.snapshot.records.length, some (s.now - e.populatedAt),
      some e.populatedAt, s.ttl⟩
  | none => ⟨false, false, 0, none, none, s.ttl⟩

end State

end CompanySearch.Cache
