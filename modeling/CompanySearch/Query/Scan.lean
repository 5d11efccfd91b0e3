-- Reading a query: the text is cut at its connectors, and each piece is searched for conditions.
-- Text that forms no condition is passed over, so no query is refused.
import CompanySearch.Query.Clause
import CompanySearch.Text.CharSet
import CompanySearch.Text.Word

namespace CompanySearch.Query

open CompanySearch.Text

/-! ## Connectors between pieces -/

/-- A connector word at the front and what follows it. -/
def readConnector : List Char → Option (Connector × List Char)
  | a :: b :: c :: rest =>
    match Connector.ofWord? [a, b, c] with
    | some connector => some (connector, rest)
    | none => (Connector.ofWord? [a, b]).map fun connector => (connector, c :: rest)
  | [a, b] => (Connector.ofWord? [a, b]).map fun connector => (connector, [])
  | _ => none

/-- A run of blanks, a connector and another run of blanks at the front, and what follows. -/
def readDelimiter (s : List Char) : Option (Connector × List Char) :=
  if (s.takeWhile isBlank).isEmpty then none
  else
    match readConnector (s.dropWhile isBlank) with
    | none => none
    | some (connector, rest) =>
      if (rest.takeWhile isBlank).isEmpty then none
      else some (connector, rest.dropWhile isBlank)

theorem a_connector_is_not_empty {s rest : List Char} {c : Connector}
    (h : readConnector s = some (c, rest)) : rest.length < s.length := by
  unfold readConnector at h
  split at h
  · split at h
    · simp only [Option.some.injEq, Prod.mk.injEq] at h
      simp [← h.2]; omega
    · simp only [Option.map_eq_some_iff, Prod.mk.injEq] at h
      obtain ⟨_, _, _, h⟩ := h
      simp [← h]
  · simp only [Option.map_eq_some_iff, Prod.mk.injEq] at h
    obtain ⟨_, _, _, h⟩ := h
    simp [← h]
  · simp at h

theorem dropping_blanks_never_lengthens (s : List Char) :
    (s.dropWhile isBlank).length ≤ s.length :=
  (List.dropWhile_sublist isBlank).length_le

theorem a_delimiter_is_not_empty {s rest : List Char} {c : Connector}
    (h : readDelimiter s = some (c, rest)) : rest.length < s.length := by
  unfold readDelimiter at h
  split at h
  · simp at h
  · split at h
    · simp at h
    · rename_i connector after hc
      split at h
      · simp at h
      · simp only [Option.some.injEq, Prod.mk.injEq] at h
        have h1 := a_connector_is_not_empty hc
        have h2 := dropping_blanks_never_lengthens s
        have h3 := dropping_blanks_never_lengthens after
        rw [← h.2]
        omega

/-! ## Pieces -/

/-- A piece of a query and the connector behind it; the last piece has none. -/
structure Piece where
  chars : List Char
  connector : Option Connector
  deriving DecidableEq

/-- The pieces with a character put in front of the first. -/
def consChar (c : Char) : List Piece → List Piece
  | [] => [⟨[c], none⟩]
  | p :: rest => ⟨c :: p.chars, p.connector⟩ :: rest

/-- Cuts a text at its delimiters, each taken as early as possible. -/
def pieces (s : List Char) : List Piece :=
  match s with
  | [] => [⟨[], none⟩]
  | c :: rest =>
    match _h : readDelimiter (c :: rest) with
    | some (connector, after) => ⟨[], some connector⟩ :: pieces after
    | none => consChar c (pieces rest)
termination_by s.length
decreasing_by
  · exact a_delimiter_is_not_empty _h
  · simp

/-! ## Conditions in a piece -/

/-- The operators at the front, in the order in which they are tried, each with what follows
it. -/
def readOperators (s : List Char) : List (Operator × List Char) :=
  Operator.all.filterMap fun op =>
    if op.symbol.toList.isPrefixOf s then some (op, s.drop op.symbol.toList.length) else none

def isQuote (c : Char) : Bool := c == '"'

/-- What follows one quote, if there is one. -/
def dropQuote : List Char → List Char
  | '"' :: rest => rest
  | s => s

/-- A value of one character or more up to the next quote, and what follows that quote. -/
def readBare (s : List Char) : Option (List Char × List Char) :=
  let value := s.takeWhile (fun c => !isQuote c)
  if value.isEmpty then none
  else some (value, dropQuote (s.dropWhile (fun c => !isQuote c)))

/-- A value behind an opening quote, or else one without it. -/
def readAfterBlanks (s : List Char) : Option (List Char × List Char) :=
  match s with
  | '"' :: rest => readBare rest
  | s => readBare s

/-- A value after as many blanks as possible; when nothing is left then, after fewer. -/
def readValue (s : List Char) : Option (List Char × List Char) :=
  let blanks := (s.takeWhile isBlank).length
  (List.range (blanks + 1)).reverse.findSome? fun k => readAfterBlanks (s.drop k)

/-- The condition that starts with the first character, and what follows it. The whole run of
word characters is the field, as no operator can follow a part of it. -/
def readPredicate (s : List Char) : Option (Predicate × List Char) :=
  let field := s.takeWhile isWord
  if field.isEmpty then none
  else
    (readOperators ((s.dropWhile isWord).dropWhile isBlank)).findSome? fun (op, rest) =>
      (readValue rest).map fun (value, rest) =>
        (⟨String.ofList field, op, String.ofList value⟩, rest)

theorem dropping_a_quote_never_lengthens (s : List Char) : (dropQuote s).length ≤ s.length := by
  unfold dropQuote
  split <;> simp

theorem a_bare_value_is_not_longer {s value rest : List Char} (h : readBare s = some (value, rest)) :
    rest.length ≤ s.length := by
  unfold readBare at h
  simp only at h
  split at h
  · simp at h
  · simp only [Option.some.injEq, Prod.mk.injEq] at h
    rw [← h.2]
    exact Nat.le_trans (dropping_a_quote_never_lengthens _)
      (List.dropWhile_sublist _).length_le

theorem a_value_is_not_longer {s value rest : List Char} (h : readValue s = some (value, rest)) :
    rest.length ≤ s.length := by
  unfold readValue at h
  obtain ⟨k, _, hk⟩ := List.exists_of_findSome?_eq_some h
  have hdrop : (s.drop k).length ≤ s.length := by simp
  unfold readAfterBlanks at hk
  split at hk
  · rename_i tail hs
    have h1 := a_bare_value_is_not_longer hk
    have h2 : (s.drop k).length = tail.length + 1 := by rw [hs]; simp
    omega
  · exact Nat.le_trans (a_bare_value_is_not_longer hk) hdrop

theorem an_operator_leaves_no_more {s rest : List Char} {op : Operator}
    (h : (op, rest) ∈ readOperators s) : rest.length ≤ s.length := by
  unfold readOperators at h
  obtain ⟨o, _, ho⟩ := List.mem_filterMap.1 h
  split at ho
  · simp only [Option.some.injEq, Prod.mk.injEq] at ho
    rw [← ho.2]
    simp
  · simp at ho

theorem a_condition_is_not_empty {s rest : List Char} {p : Predicate}
    (h : readPredicate s = some (p, rest)) : rest.length < s.length := by
  unfold readPredicate at h
  simp only at h
  split at h
  · simp at h
  · rename_i hfield
    obtain ⟨⟨op, after⟩, hop, hv⟩ := List.exists_of_findSome?_eq_some h
    simp only [Option.map_eq_some_iff, Prod.mk.injEq] at hv
    obtain ⟨⟨value, tail⟩, hvalue, _, hrest⟩ := hv
    simp only at hrest hvalue
    subst hrest
    have h1 := a_value_is_not_longer hvalue
    have h2 := an_operator_leaves_no_more hop
    have h3 := dropping_blanks_never_lengthens (s.dropWhile isWord)
    have h4 : (s.takeWhile isWord).length + (s.dropWhile isWord).length = s.length := by
      rw [← List.length_append, List.takeWhile_append_dropWhile]
    have h5 : 0 < (s.takeWhile isWord).length := by
      rcases hn : s.takeWhile isWord with _ | ⟨a, t⟩
      · simp [hn] at hfield
      · simp
    omega

/-- The conditions in a piece: each is taken as early as possible, and the search goes on
behind it. -/
def predicates (s : List Char) : List Predicate :=
  match s with
  | [] => []
  | c :: rest =>
    match _h : readPredicate (c :: rest) with
    | some (p, after) => p :: predicates after
    | none => predicates rest
termination_by s.length
decreasing_by
  · exact a_condition_is_not_empty _h
  · simp

/-! ## Queries -/

def Piece.toClause (p : Piece) : Clause := ⟨predicates p.chars, p.connector⟩

/-- The clauses of a query. A blank query has none. -/
def parse (query : String) : List Clause :=
  match trimmed query.toList with
  | [] => []
  | s => (pieces s).map Piece.toClause

end CompanySearch.Query
