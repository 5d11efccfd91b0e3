-- The rows that a database answers with, and the store that they make.
import CompanySearch.Cache.Store

namespace CompanySearch.Database

/-! ## Problems -/

/-- Why a database gives no rows. -/
inductive Problem where
  /-- All its connections have been closed. -/
  | closed
  /-- It refuses the query. -/
  | refused (text : String)
  /-- Its rows lack a column. -/
  | noColumn (name : String)
  /-- Its answer cannot be understood. -/
  | unexpected (text : String)
  deriving DecidableEq, Repr

def Problem.text : Problem → String
  | .closed => "attempted to acquire a connection on a closed pool"
  | .refused t => "error returned from database: " ++ t
  | .noColumn name => "no column found for name: " ++ name
  | .unexpected t => "encountered unexpected or invalid data: " ++ t

def Problem.fault (p : Problem) : Fault := .database p.text

/-! ## Rows -/

/-- Rows under the names of their columns. -/
structure Table where
  columns : List String
  rows : List (List Scalar)

/-- A decimal as a database sends it: a zero has no places. -/
def sent : Scalar → Scalar
  | .decimal d => if d.mantissa = 0 then .decimal (.ofInt64 0) else .decimal d
  | s => s

/-- The value of a column in a row. -/
def cell (columns : List String) (row : List Scalar) (name : String) :
    Except Problem (String × Scalar) :=
  match columns.idxOf? name with
  | some i => .ok (name, sent (row[i]?.getD .null))
  | none => .error (.noColumn name)

/-- A row as a record of the dataset. -/
def record (columns : List String) (row : List Scalar) : Except Problem Record :=
  (Record.companyFields.mapM (cell columns row)).map Record.ofPairs

/-- The records of a table. Where there is no row, no column is missed. -/
def Table.records (t : Table) : Except Problem (List Record) := t.rows.mapM (record t.columns)

/-! ## The store -/

/-- What a database does when it is asked for the dataset. -/
inductive Answer where
  | closed
  | refused (text : String)
  | rows (table : Table)

def Answer.records : Answer → Except Problem (List Record)
  | .closed => .error .closed
  | .refused text => .error (.refused text)
  | .rows table => table.records

/-- The store over a database that always answers alike. -/
def Answer.store (a : Answer) : Cache.Store :=
  match a.records with
  | .ok records => ⟨"postgres", records, none, none, 0⟩
  | .error p => ⟨"postgres", [], some p.fault, none, 0⟩

/-! ## Setting up -/

/-- What is said when a database cannot be reached. -/
def connectFailure : String := "Failed to connect to database"

/-- What is said when the tables of a database cannot be set up. -/
def migrationFailure : String := "Failed to run database migrations"

end CompanySearch.Database
