-- Whole settings files: values, tables under headers, and keys with points. A table may be opened
-- once, and a key may be set once.
import CompanySearch.Toml.Moments
import CompanySearch.Toml.Numbers
import CompanySearch.Toml.Strings

namespace CompanySearch.Toml

open CompanySearch.Settings

/-! ## Tables while they are built -/

/-- How a table came to be. -/
inductive Origin where
  /-- Under a header of its own. -/
  | opened
  /-- By the header of a table inside it. -/
  | implied
  /-- By a key with points. -/
  | dotted
  deriving DecidableEq, Repr

/-- What stands under a name. -/
inductive Node where
  | value (value : Tree)
  | table (origin : Origin) (entries : List (String × Node))
  /-- A list of tables, the latest first. -/
  | tables (items : List (List (String × Node)))

abbrev Entries := List (String × Node)

namespace Entries

def nodeAt? (name : String) (es : Entries) : Option Node := (List.find? (·.1 == name) es).map (·.2)

/-- Sets what stands under a name. -/
def put (name : String) (node : Node) : Entries → Entries
  | [] => [(name, node)]
  | (n, old) :: rest => if n = name then (n, node) :: rest else (n, old) :: put name node rest

/-- Changes the table at the end of a path, which is made as far as it is missing. Of a list of
tables the latest is meant. A path inside a key must not lead through an opened table. -/
def change (inKey : Bool) (f : Origin → Entries → Option Entries) :
    List String → Origin → Entries → Option Entries
  | [], origin, es => f origin es
  | name :: path, _, es =>
    match es.nodeAt? name with
    | none =>
      let origin := if inKey then Origin.dotted else .implied
      (change inKey f path origin []).map fun t => es.put name (.table origin t)
    | some (.value _) => none
    | some (.table origin t) =>
      if inKey && origin == .opened then none
      else (change inKey f path origin t).map fun t => es.put name (.table origin t)
    | some (.tables []) => none
    | some (.tables (t :: before)) =>
      (change inKey f path .opened t).map fun t => es.put name (.tables (t :: before))

/-- Sets a key in a table. The table at the end of the key's path must have been made by keys
with points, or be the table itself for a plain key. -/
def setKey (path : List String) (value : Tree) (origin : Origin) (es : Entries) :
    Option Entries :=
  match path.getLast? with
  | none => none
  | some name =>
    let path := path.dropLast
    change true (fun origin es =>
      if (origin == .dotted) == path.isEmpty || (es.nodeAt? name).isSome then none
      else some (es.put name (.value value))) path origin es

/-- Opens the table of a header. -/
def openTable (path : List String) (es : Entries) : Option Entries :=
  match path.getLast? with
  | none => none
  | some name =>
    change false (fun _ es =>
      match es.nodeAt? name with
      | none => some (es.put name (.table .opened []))
      | some (.table .implied t) => some (es.put name (.table .opened t))
      | some _ => none) path.dropLast .opened es

/-- Opens one more table of a list of tables. -/
def openItem (path : List String) (es : Entries) : Option Entries :=
  match path.getLast? with
  | none => none
  | some name =>
    change false (fun _ es =>
      match es.nodeAt? name with
      | none => some (es.put name (.tables [[]]))
      | some (.tables items) => some (es.put name (.tables ([] :: items)))
      | some _ => none) path.dropLast .opened es

end Entries

mutual

/-- The finished tree of a node. -/
def Node.toTree : Node → Tree
  | .value v => v
  | .table _ es => .table (entryTrees es)
  | .tables items => .list (itemTrees items).reverse

def entryTrees : List (String × Node) → List (String × Tree)
  | [] => []
  | (name, node) :: rest => (name, node.toTree) :: entryTrees rest

def itemTrees : List (List (String × Node)) → List Tree
  | [] => []
  | es :: rest => .table (entryTrees es) :: itemTrees rest

end

/-! ## Values -/

def readBool : List Char → Option (Tree × List Char)
  | 't' :: 'r' :: 'u' :: 'e' :: rest => some (.bool true, rest)
  | 'f' :: 'a' :: 'l' :: 's' :: 'e' :: rest => some (.bool false, rest)
  | _ => none

/-- A value that holds no others. -/
def readPlain (s : List Char) : Option (Tree × List Char) :=
  match s with
  | '"' :: _ | '\'' :: _ =>
    (readText s).map fun (text, rest) => (.text (String.ofList text), rest)
  | 't' :: _ | 'f' :: _ => readBool s
  | _ =>
    match readMoment s with
    | some (text, rest) => some (.text (String.ofList text), rest)
    | none => readNumber s

/-- Passes over all that may stand between the items of a list. -/
def skipBetween (s : List Char) : List Char := skipLines (s.length + 1) s

mutual

/-- The value at the front. The fuel bounds the number of parts, the depth how far lists and
tables may be nested. -/
def readValue : Nat → Nat → List Char → Option (Tree × List Char)
  | 0, _, _ => none
  | fuel + 1, depth, s =>
    match s with
    | '[' :: rest =>
      if depth = 0 then none
      else (readItems fuel (depth - 1) rest).map fun (items, rest) => (.list items, rest)
    | '\x7b' :: rest =>
      if depth = 0 then none
      else
        match skipGap rest with
        | '\x7d' :: rest => some (.table [], rest)
        | rest =>
          (readMembers fuel (depth - 1) [] rest).map fun (es, rest) =>
            (.table (entryTrees es), rest)
    | s => readPlain s

/-- The items of a list up to its bracket; a comma may follow the last one. -/
def readItems : Nat → Nat → List Char → Option (List Tree × List Char)
  | 0, _, _ => none
  | fuel + 1, depth, s =>
    match skipBetween s with
    | ']' :: rest => some ([], rest)
    | s =>
      match readValue fuel depth s with
      | none => none
      | some (item, rest) =>
        match skipBetween rest with
        | ']' :: rest => some ([item], rest)
        | ',' :: rest =>
          (readItems fuel depth rest).map fun (items, rest) => (item :: items, rest)
        | _ => none

/-- The members of a table on one line, up to its brace. -/
def readMembers : Nat → Nat → Entries → List Char → Option (Entries × List Char)
  | 0, _, _, _ => none
  | fuel + 1, depth, es, s =>
    match readKey s with
    | some (key, '=' :: rest) =>
      match readValue fuel depth (skipGap rest) with
      | none => none
      | some (value, rest) =>
        match es.setKey key value .opened with
        | none => none
        | some es =>
          match skipGap rest with
          | '\x7d' :: rest => some (es, rest)
          | ',' :: rest => readMembers fuel depth es rest
          | _ => none
    | _ => none

end

/-! ## Files -/

/-- The lines of a file from some point on, with the header that they stand under. The fuel
bounds their number. -/
def readLines : Nat → List String → Entries → List Char → Option Entries
  | 0, _, _, _ => none
  | fuel + 1, header, es, s =>
    match skipGap s with
    | [] => some es
    | '[' :: '[' :: rest => do
      match ← readKey rest with
      | (path, ']' :: ']' :: rest) => readLines fuel path (← es.openItem path) (← endLine rest)
      | _ => none
    | '[' :: rest => do
      match ← readKey rest with
      | (path, ']' :: rest) => readLines fuel path (← es.openTable path) (← endLine rest)
      | _ => none
    | s =>
      match endLine s with
      | some rest => readLines fuel header es rest
      | none => do
        match ← readKey s with
        | (key, '=' :: rest) =>
          let (value, rest) ← readValue (rest.length + 1) depthLimit (skipGap rest)
          let es ← es.change false (Entries.setKey key value) header .opened
          readLines fuel header es (← endLine rest)
        | _ => none

/-- A byte-order mark in front of a text is no part of it. -/
def dropMark : List Char → List Char
  | '\ufeff' :: rest => rest
  | s => s

/-- The entries of a whole file. -/
def readFile? (text : String) : Option (List (String × Tree)) :=
  let s := dropMark (dropMark text.toList)
  (readLines (s.length + 1) [] [] s).map entryTrees

end CompanySearch.Toml
