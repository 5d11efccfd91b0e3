-- The store behind the cache: where the dataset is fetched from.
import CompanySearch.Fault
import CompanySearch.Record.Basic

namespace CompanySearch.Cache

/-- A store of records. All times are in milliseconds. -/
structure Store where
  /-- The kind of store, as reports name it. -/
  backend : String
  records : List Record
  /-- Why fetches fail at present, if they do. -/
  fault : Option Fault
  /-- How long a fetch takes. -/
  latency : Option Nat
  /-- How many fetches have been started. -/
  fetches : Nat

namespace Store

/-- A store in memory, which answers at once. -/
def inMemory (records : List Record) : Store := ⟨"memory", records, none, none, 0⟩

/-- The failure of a store in memory that was told to fail. -/
def toldToFail : Fault := .internal "in-memory store set to fail"

/-- What a fetch that ends now delivers. -/
def answer (s : Store) : Except Fault (List Record) :=
  match s.fault with
  | some f => .error f
  | none => .ok s.records

/-- What may happen to a store from outside. -/
inductive Change where
  | replace (records : List Record)
  | setFault (fault : Option Fault)
  | setLatency (latency : Option Nat)

def change (s : Store) : Change → Store
  | .replace records => { s with records := records }
  | .setFault fault => { s with fault := fault }
  | .setLatency latency => { s with latency := latency }

end Store

end CompanySearch.Cache
