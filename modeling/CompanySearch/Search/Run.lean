-- Running a search over one copy of the dataset.
import CompanySearch.Query.Scan
import CompanySearch.Query.Selection
import CompanySearch.Search.Request

namespace CompanySearch.Search

/-- The rows that a search finds in a dataset, in the order that it asks for. -/
def run (request : Request) (dataset : List Record) : List Record :=
  let matched := Query.select dataset (Query.parse request.text)
  match request.field? with
  | some field =>
    Sorting.records (Algorithm.ofName request.algorithm) field
      (Direction.ofOrder request.sortOrder) matched
  | none => matched

/-- What is reported of a finished search. -/
structure Summary where
  clauses : Nat
  dataset : Nat
  results : Nat
  field : String
  algorithm : String
  direction : String
  deriving DecidableEq, Repr

/-- The report on a search over a dataset. Where nothing is sorted, neither algorithm nor
direction applies. -/
def summary (request : Request) (dataset : List Record) : Summary where
  clauses := (Query.parse request.text).length
  dataset := dataset.length
  results := (run request dataset).length
  field := request.field?.getD ""
  algorithm :=
    if request.field?.isSome then (Algorithm.ofName request.algorithm).name else "none"
  direction :=
    if request.field?.isSome then (Direction.ofOrder request.sortOrder).name else "none"

end CompanySearch.Search
