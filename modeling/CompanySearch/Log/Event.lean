-- Log events, and the two forms in which they are written: a line for people and an object for
-- programs.
import CompanySearch.Json.Writer

namespace CompanySearch.Log

/-! ## Levels -/

inductive Level where
  | error
  | warn
  | info
  | debug
  | trace
  deriving DecidableEq, Repr

namespace Level

def name : Level → String
  | .error => "ERROR"
  | .warn => "WARN"
  | .info => "INFO"
  | .debug => "DEBUG"
  | .trace => "TRACE"

/-- How much is logged down to this level: the higher, the more. -/
def verbosity : Level → Nat
  | .error => 1
  | .warn => 2
  | .info => 3
  | .debug => 4
  | .trace => 5

end Level

/-! ## Events -/

/-- The value of a field. In a line a quoted text has quotes, a bare one stands as it is. -/
inductive Value where
  | bare (text : String)
  | quoted (text : String)
  | number (n : Nat)
  | flag (b : Bool)
  deriving DecidableEq, Repr

def Value.lineText : Value → String
  | .bare t => t
  | .quoted t => Text.quoted t
  | .number n => toString n
  | .flag b => toString b

def Value.toJson : Value → Json
  | .bare t => .text t
  | .quoted t => .text t
  | .number n => .ofNat n
  | .flag b => .bool b

abbrev Fields := List (String × Value)

/-- The work during which events happen, such as one request. Where it is reported from and at
what level decides whether events show it. -/
structure Span where
  name : String
  level : Level
  target : String
  fields : Fields
  deriving DecidableEq, Repr

structure Event where
  level : Level
  target : String
  message : String
  fields : Fields
  span : Option Span
  deriving DecidableEq, Repr

namespace Event

/-! ## Lines -/

def fieldText (p : String × Value) : String := p.1 ++ "=" ++ p.2.lineText

/-- The name of a span with its fields in braces. -/
def spanText (s : Span) : String :=
  s.name ++ "\x7b" ++ " ".intercalate (s.fields.map fieldText) ++ "\x7d: "

/-- The level, on the right of five columns. -/
def levelText (l : Level) : String :=
  String.ofList (List.replicate (5 - l.name.length) ' ') ++ l.name

/-- The line of an event that happened at a time. -/
def line (time : String) (e : Event) : String :=
  time ++ " " ++ levelText e.level ++ " " ++ e.span.elim "" spanText ++ e.target ++ ": " ++
    " ".intercalate (e.message :: e.fields.map fieldText)

/-! ## Objects -/

def fieldMember (p : String × Value) : String × Json := (p.1, p.2.toJson)

/-- The members of an object but for the time. -/
def members (e : Event) : List (String × Json) :=
  [("level", .text e.level.name),
    ("fields", .object (("message", .text e.message) :: e.fields.map fieldMember)),
    ("target", .text e.target)] ++
  match e.span with
  | some s => [("span", .object (s.fields.map fieldMember ++ [("name", .text s.name)]))]
  | none => []

/-- The object of an event that happened at a time. -/
def object (time : String) (e : Event) : Json := .object (("timestamp", .text time) :: e.members)

end Event

end CompanySearch.Log
