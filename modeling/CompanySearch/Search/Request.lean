-- Search requests: what to look for and how to order what is found.
import CompanySearch.Record.Order
import CompanySearch.Sorting.Records

namespace CompanySearch.Search

/-- A search as a client asks for it. Whatever is missing takes its default. -/
structure Request where
  text : String
  sortField : Option String
  sortOrder : Option String
  algorithm : Option String
  deriving DecidableEq, Repr

namespace Request

/-- Everything, in the order of the dataset. -/
def all : Request := ⟨"", none, none, none⟩

/-- The field to sort by, without blanks around it; a blank name asks for no sorting. -/
def field? (r : Request) : Option String :=
  (r.sortField.map Text.trim).filter (fun f => !f.isEmpty)

/-! ## Gathering a request from named values -/

/-- The parts of a request that have been given so far. -/
structure Draft where
  text : Option String
  sortField : Option (Option String)
  sortOrder : Option (Option String)
  algorithm : Option (Option String)

namespace Draft

def empty : Draft := ⟨none, none, none, none⟩

/-- The request with a default for each part that was not given. -/
def complete (d : Draft) : Request where
  text := d.text.getD ""
  sortField := d.sortField.getD none
  sortOrder := d.sortOrder.getD none
  algorithm := d.algorithm.getD none

end Draft

/-- The parts of a request. -/
inductive Part where
  | text
  | sortField
  | sortOrder
  | algorithm
  deriving DecidableEq, Repr

namespace Part

/-- The part that a name stands for. Two parts have a second, shorter name. -/
def ofName? (name : String) : Option Part :=
  if name = "search_text" || name = "search" then some .text
  else if name = "sort_field" || name = "sort_by" then some .sortField
  else if name = "sort_order" then some .sortOrder
  else if name = "algorithm" then some .algorithm
  else none

/-- Whether a draft has the part already. -/
def given (p : Part) (d : Draft) : Bool :=
  match p with
  | .text => d.text.isSome
  | .sortField => d.sortField.isSome
  | .sortOrder => d.sortOrder.isSome
  | .algorithm => d.algorithm.isSome

/-- The draft with the part set to a value. Only the text must not be left without one. -/
def set (p : Part) (value : Option String) (d : Draft) : Draft :=
  match p with
  | .text => { d with text := some (value.getD "") }
  | .sortField => { d with sortField := some value }
  | .sortOrder => { d with sortOrder := some value }
  | .algorithm => { d with algorithm := some value }

end Part

/-- Takes in one named text. Unknown names are passed over; a part given twice is refused. -/
def Draft.put? (d : Draft) (name value : String) : Option Draft :=
  match Part.ofName? name with
  | none => some d
  | some p => if p.given d then none else some (p.set (some value) d)

/-- The request that a list of named texts gives, unless it gives some part twice. -/
def ofPairs? (pairs : List (String × String)) : Option Request :=
  (pairs.foldlM (fun d p => Draft.put? d p.1 p.2) Draft.empty).map Draft.complete

end Request

end CompanySearch.Search
