-- Which origins may use replies in their pages, and how a client is told before it asks.
import CompanySearch.Web.Message

namespace CompanySearch.Web

/-! ## Policies -/

/-- The origins that are let in. -/
inductive OriginPolicy where
  | closed
  | everyone
  | listed (origins : List String)
  deriving DecidableEq, Repr

/-- Whether a text can stand in a header. -/
def isHeaderText (s : String) : Bool := s.toList.all isHeaderChar

/-- The policy of a list of origins. A star lets everyone in; otherwise origins that cannot
stand in a header are passed over. -/
def OriginPolicy.ofList (origins : List String) : OriginPolicy :=
  if origins.contains "*" then .everyone
  else
    match origins.filter isHeaderText with
    | [] => .closed
    | origins => .listed origins

/-- The origins of a list that are passed over. -/
def ignoredOrigins (origins : List String) : List String :=
  if origins.contains "*" then [] else origins.filter fun o => !isHeaderText o

/-! ## Headers -/

/-- What replies depend on, whatever the policy. -/
def originVary : String :=
  "origin, access-control-request-method, access-control-request-headers"

/-- The origin that a reply names as let in. -/
def OriginPolicy.allowed (p : OriginPolicy) (request : Request) : Option String :=
  match p with
  | .closed => none
  | .everyone => some "*"
  | .listed origins => (request.headers.first? "origin").filter origins.contains

/-- The header fields about origins that every reply has. -/
def OriginPolicy.headers (p : OriginPolicy) (request : Request) : Headers :=
  (p.allowed request).toList.map (("access-control-allow-origin", ·)) ++ [("vary", originVary)]

/-- The header fields of the answer to a client that asks what it may send. -/
def OriginPolicy.preflightHeaders (p : OriginPolicy) : Headers :=
  if p = .closed then []
  else [("access-control-allow-methods", "*"), ("access-control-allow-headers", "*")]

/-- The reply with the header fields about origins. -/
def OriginPolicy.apply (p : OriginPolicy) (request : Request) (r : Reply) : Reply :=
  { r with headers := r.headers ++ p.headers request }

end CompanySearch.Web
