-- Requests and replies of the web interface.
import CompanySearch.Json.Writer
import CompanySearch.Text.Case
import CompanySearch.Text.Utf8

namespace CompanySearch.Web

/-! ## Headers -/

/-- Header fields in their order, names in small letters. -/
abbrev Headers := List (String × String)

/-- The first value of a name. -/
def Headers.first? (headers : Headers) (name : String) : Option String :=
  (List.find? (·.1 == name) headers).map (·.2)

/-- All values of a name. -/
def Headers.all (headers : Headers) (name : String) : List String :=
  (List.filter (·.1 == name) headers).map (·.2)

/-- What may stand in a header value: everything but controls, among which a tab is allowed. -/
def isHeaderChar (c : Char) : Bool :=
  c == '\t' || (decide (0x20 ≤ c.toNat) && c.toNat != 0x7F)

/-- A header value that is plain visible text. -/
def isVisible (value : String) : Bool :=
  value.toList.all fun c => c == '\t' || decide (0x20 ≤ c.toNat ∧ c.toNat < 0x7F)

/-! ## Requests -/

structure Request where
  method : String
  /-- The path as it was sent, escapes and all. -/
  path : String
  query : String
  headers : Headers
  body : List UInt8
  deriving DecidableEq, Repr

/-- The path and the query of a target. What follows a number sign is no part of either. -/
def splitTarget (target : String) : String × String :=
  let sent := target.toList.takeWhile (· != '#')
  let path := sent.takeWhile (· != '?')
  (String.ofList path, String.ofList ((sent.dropWhile (· != '?')).drop 1))

/-- A request for a target with headers whose names are in any case. -/
def Request.make (method target : String) (headers : Headers) (body : List UInt8) : Request :=
  let (path, query) := splitTarget target
  ⟨method, path, query,
    List.map (fun h => (String.ofList (Text.asciiLower h.1.toList), h.2)) headers, body⟩

/-! ## Replies -/

structure Reply where
  status : Nat
  headers : Headers
  body : String
  deriving DecidableEq, Repr

namespace Reply

def empty (status : Nat) : Reply := ⟨status, [], ""⟩

def ofJson (status : Nat) (body : Json) : Reply :=
  ⟨status, [("content-type", "application/json")], body.write⟩

def ofText (status : Nat) (body : String) : Reply :=
  ⟨status, [("content-type", "text/plain; charset=utf-8")], body⟩

/-- Adds a header field behind the others. -/
def adding (r : Reply) (name value : String) : Reply :=
  { r with headers := r.headers ++ [(name, value)] }

/-- The reply without its body. -/
def bare (r : Reply) : Reply := { r with body := "" }

/-- The length of the body in bytes. -/
def size (r : Reply) : Nat := r.body.utf8ByteSize

end Reply

end CompanySearch.Web
