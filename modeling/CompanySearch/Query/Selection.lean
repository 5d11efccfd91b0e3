-- Which records a list of clauses selects, and in what order. An `or` adds matches of the next
-- clause from the same candidates; an `and` makes what is selected so far the new candidates.
import CompanySearch.Query.Match

namespace CompanySearch.Query

/-- The selection so far: the candidates that the latest clauses choose from, what they chose,
and how the next clause is joined. -/
structure Progress where
  candidates : List Nat
  chosen : List Nat
  connector : Option Connector

/-- Whether the record at a position satisfies a clause. -/
def satisfiesAt (records : List Record) (clause : Clause) (i : Nat) : Bool :=
  match records[i]? with
  | some r => satisfiesClause r clause
  | none => false

/-- The candidates whose records satisfy a clause. -/
def choose (records : List Record) (candidates : List Nat) (clause : Clause) : List Nat :=
  candidates.filter (satisfiesAt records clause)

/-- Takes in the next clause. -/
def advance (records : List Record) (p : Progress) (clause : Clause) : Progress :=
  match p.connector with
  | some .or =>
    { p with
      chosen := p.chosen ++
        (choose records p.candidates clause).filter (fun i => !p.chosen.contains i)
      connector := clause.connector }
  | _ =>
    { candidates := p.chosen
      chosen := choose records p.chosen clause
      connector := clause.connector }

/-- The positions of the selected records, in the order in which the clauses chose them.
Without clauses every position is selected. -/
def selectedPositions (records : List Record) (clauses : List Clause) : List Nat :=
  let all := List.range records.length
  match clauses with
  | [] => all
  | first :: rest =>
    (rest.foldl (advance records) ⟨all, choose records all first, first.connector⟩).chosen

/-- The selected records. -/
def select (records : List Record) (clauses : List Clause) : List Record :=
  (selectedPositions records clauses).filterMap (fun i => records[i]?)

end CompanySearch.Query
