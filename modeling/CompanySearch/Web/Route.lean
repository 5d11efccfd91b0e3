-- The endpoints of the web interface, and the names under which paths are counted.

namespace CompanySearch.Web

/-! ## Endpoints -/

inductive Endpoint where
  | health
  | metrics
  | companies
  | companySearch
  | cacheStatus
  | cacheInvalidation
  deriving DecidableEq, Repr

namespace Endpoint

/-- The endpoint at a path. Paths are compared as they were sent. -/
def ofPath? (path : String) : Option Endpoint :=
  match path with
  | "/health" => some .health
  | "/metrics" => some .metrics
  | "/api/companies" | "/api/companies/" => some .companies
  | "/api/companies/_search" => some .companySearch
  | "/admin/cache" => some .cacheStatus
  | "/admin/cache/invalidate" => some .cacheInvalidation
  | _ => none

/-- Whether an endpoint takes posted requests; the others are read. -/
def isPosted : Endpoint → Bool
  | .companySearch | .cacheInvalidation => true
  | _ => false

/-- The methods that an endpoint takes, as a reply names them. -/
def methodsText (e : Endpoint) : String := if e.isPosted then "POST" else "GET,HEAD"

/-- Whether an endpoint takes a method. What can be read can also be asked for without its
body. -/
def takes (e : Endpoint) (method : String) : Bool :=
  if e.isPosted then method == "POST" else method == "GET" || method == "HEAD"

end Endpoint

/-! ## Counted names -/

/-- The paths that are counted under their own names. -/
def countedPaths : List String :=
  ["/", "/health", "/metrics", "/api/companies", "/api/companies/_search", "/admin/cache",
    "/admin/cache/invalidate"]

/-- The name under which a path is counted. There are few of them, whatever clients send. -/
def countedPath (path : String) : String :=
  if path = "/api/companies/" then "/api/companies"
  else if countedPaths.contains path then path
  else "other"

end CompanySearch.Web
