-- What can go wrong while the service works, and how a client is told.
import CompanySearch.Json.Writer

namespace CompanySearch

/-- A failure by its cause. -/
inductive Fault where
  /-- The dataset could not be loaded. -/
  | dataUnavailable (reason : String)
  /-- A query that a strict reading would refuse. -/
  | malformedQuery (reason : String)
  /-- The database did not answer as it should. -/
  | database (reason : String)
  /-- A setting that the service cannot run with. -/
  | validation (reason : String)
  | internal (reason : String)
  /-- A failure of any other kind, described in full by its text. -/
  | other (text : String)
  deriving DecidableEq, Repr

namespace Fault

/-- The full description, for logs and operators. -/
def message : Fault → String
  | .dataUnavailable r => "Data unavailable: " ++ r
  | .malformedQuery r => "Malformed query: " ++ r
  | .database r => "Database error: " ++ r
  | .validation r => "Validation error: " ++ r
  | .internal r => "Internal server error: " ++ r
  | .other t => t

/-- The status code of the reply. -/
def status : Fault → Nat
  | .dataUnavailable _ => 503
  | .malformedQuery _ | .validation _ => 400
  | .database _ | .internal _ | .other _ => 500

/-- What a client is told. A failure inside the service is not described. -/
def publicMessage (f : Fault) : String :=
  if f.status = 500 then "Internal server error" else f.message

/-- The body of the reply. -/
def body (f : Fault) : Json := .object [("error", .text f.publicMessage)]

end Fault

end CompanySearch
