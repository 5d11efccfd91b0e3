-- Records: the rows of the dataset, as fields in the order of their first insertion.
import CompanySearch.Record.Scalar

namespace CompanySearch

/-- A row. Reading the pairs from the left gives the fields in order; no name is meant to occur
twice, and `insert` sees to that. -/
structure Record where
  fields : List (String × Scalar)
  deriving DecidableEq

namespace Record

def empty : Record := ⟨[]⟩

/-- The pairs with the value of a name replaced, or with the pair added behind them. -/
def setField (name : String) (value : Scalar) : List (String × Scalar) → List (String × Scalar)
  | [] => [(name, value)]
  | (n, v) :: rest => if n = name then (n, value) :: rest else (n, v) :: setField name value rest

/-- The record with a field set: in place if it is there, else at the end. -/
def insert (r : Record) (name : String) (value : Scalar) : Record :=
  ⟨setField name value r.fields⟩

/-- The record that results from inserting the pairs in turn. -/
def ofPairs (pairs : List (String × Scalar)) : Record :=
  pairs.foldl (fun r p => r.insert p.1 p.2) empty

/-- The value of a field, null included; none if there is no such field. -/
def get? (r : Record) (name : String) : Option Scalar :=
  (r.fields.find? (fun p => p.1 == name)).map (·.2)

/-- The value of a field, where null counts as no field. -/
def value? (r : Record) (name : String) : Option Scalar :=
  (r.get? name).filter (fun v => !v.isNull)

def size (r : Record) : Nat := r.fields.length

def isEmpty (r : Record) : Bool := r.fields.isEmpty

def toJson (r : Record) : Json := .object (r.fields.map fun p => (p.1, p.2.toJson))

/-- The row as text: its fields in order, as members of one object. -/
def rowText (r : Record) : String := r.toJson.write

/-- The columns of the company dataset, in the order in which a row lists them. -/
def companyFields : List String :=
  ["id", "name", "industry", "country", "founded_year", "company_type", "size", "ceo_name",
    "headquarters", "financial_year", "revenue", "net_income"]

end Record

end CompanySearch
