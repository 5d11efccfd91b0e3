-- What a request asks for: an answer that is known at once, or something from the cache. Of
-- several mistakes in a request the first one in the order of the checks counts.
import CompanySearch.Search.Reading
import CompanySearch.Web.MediaType
import CompanySearch.Web.Message
import CompanySearch.Web.Route

namespace CompanySearch.Web

/-! ## Refusals -/

/-- Why a request for a known endpoint is refused. -/
inductive Refusal where
  /-- A part of the query string is given twice. -/
  | query
  /-- The body is not said to be in the data format. -/
  | mediaType
  /-- The body is larger than allowed. -/
  | tooLarge
  | body (fault : Search.BodyFault)
  deriving DecidableEq, Repr

def Refusal.status : Refusal → Nat
  | .query => 400
  | .mediaType => 415
  | .tooLarge => 413
  | .body .malformed => 400
  | .body .mismatch => 422

def Refusal.text : Refusal → String
  | .query => "Failed to deserialize query string: a part is given twice"
  | .mediaType => "Expected request with \x60Content-Type: application/json\x60"
  | .tooLarge => "Failed to buffer the request body: length limit exceeded"
  | .body .malformed => "Failed to parse the request body as JSON"
  | .body .mismatch => "Failed to deserialize the JSON body into the target type"

def Refusal.reply (r : Refusal) : Reply := .ofText r.status r.text

/-! ## Searches -/

/-- The search in a query string. -/
def readQuery (query : String) : Except Refusal Search.Request :=
  match Search.ofQueryString? query with
  | some r => .ok r
  | none => .error .query

/-- The characters of a body. Bytes that are malformed end it with one that no text may hold. -/
def bodyChars (body : List UInt8) : List Char :=
  match Text.Utf8.decodeSound body with
  | (cs, true) => cs ++ ['\x00']
  | (cs, false) => cs

/-- The search in a body. What follows the request in the body is not looked at. -/
def readBody (limit : Nat) (request : Request) : Except Refusal Search.Request :=
  let typed := (request.headers.first? "content-type").any fun t => isVisible t && isJsonType t
  if !typed then .error .mediaType
  else if limit < request.body.length then .error .tooLarge
  else
    match Search.readRequest (bodyChars request.body) with
    | .ok (r, _) => .ok r
    | .error fault => .error (.body fault)

/-! ## Demands -/

/-- What a request comes to before anything is asked of the cache. -/
inductive Demand where
  | reply (reply : Reply)
  | page
  | search (request : Search.Request)
  | status
  | invalidate

def healthReply : Reply :=
  .ofJson 200 (.object [("status", .text "ok"), ("service", .text "tally-server")])

def ofSearch : Except Refusal Search.Request → Demand
  | .ok request => .search request
  | .error refusal => .reply refusal.reply

/-- What a request to an endpoint asks for. -/
def demandAt (limit : Nat) (request : Request) : Endpoint → Demand
  | .health => .reply healthReply
  | .metrics => .page
  | .companies => ofSearch (readQuery request.query)
  | .companySearch => ofSearch (readBody limit request)
  | .cacheStatus => .status
  | .cacheInvalidation => .invalidate

/-- What a request asks for. Unknown paths are not found, and endpoints take only some
methods. -/
def demand (limit : Nat) (request : Request) : Demand :=
  match Endpoint.ofPath? request.path with
  | none => .reply (.empty 404)
  | some e =>
    if e.takes request.method then demandAt limit request e
    else .reply ((Reply.empty 405).adding "allow" e.methodsText)

/-- The answer to a client that asks what it may send: nothing but header fields. -/
def preflightReply (request : Request) : Reply :=
  match Endpoint.ofPath? request.path with
  | some e => (Reply.empty 200).adding "allow" e.methodsText
  | none => .empty 200

end CompanySearch.Web
