-- Trees of settings as files and the environment give them, laid one over another.
import CompanySearch.Number.Shortest
import CompanySearch.Text.Case

namespace CompanySearch.Settings

open CompanySearch.Number

-- Powers are those of the core library, whatever else is imported.
attribute [local instance (high)] instPowNat

/-- A value before it is known what setting it is for. -/
inductive Tree where
  | text (value : String)
  | integer (value : Int)
  | real (value : Binary64)
  | bool (value : Bool)
  | list (items : List Tree)
  | table (entries : List (String × Tree))
  /-- A place that was named but never filled. -/
  | hollow

namespace Tree

def empty : Tree := .table []

/-- The entries of a table; other values have none. -/
def entries : Tree → List (String × Tree)
  | .table es => es
  | _ => []

/-- Sets the value of a name, in place if it is there. -/
def setEntry (name : String) (value : Tree) : List (String × Tree) → List (String × Tree)
  | [] => [(name, value)]
  | (n, v) :: rest => if n = name then (n, value) :: rest else (n, v) :: setEntry name value rest

def find? (name : String) (es : List (String × Tree)) : Option Tree :=
  (es.find? (·.1 == name)).map (·.2)

/-! ## Laying over -/

mutual

/-- Sets a value under a name, small letters and capitals being one. A table is laid over what
is there entry by entry; any other value takes its place. -/
def overlay (root : Tree) (name : String) : Tree → Tree
  | .table incoming =>
    let name := Text.lowercase name
    let target := (find? name root.entries).getD empty
    .table (setEntry name (overlayAll target incoming) root.entries)
  | value => .table (setEntry (Text.lowercase name) value root.entries)

/-- Lays entries over a tree in turn; what is no table becomes one first. -/
def overlayAll (root : Tree) : List (String × Tree) → Tree
  | [] => root
  | (name, value) :: rest => overlayAll (overlay root name value) rest

end

/-! ## Paths -/

/-- One step of a path: into a table by name or into a list by position. -/
inductive Step where
  | name (name : String)
  | position (i : Nat)
  deriving DecidableEq, Repr

/-- Replaces the item at a position, with hollow places up to it if the list is shorter. -/
def setItem (i : Nat) (value : Tree) (items : List Tree) : List Tree :=
  (items ++ List.replicate (i + 1 - items.length) Tree.hollow).set i value

/-- Sets a value at the end of a path. What stands in the way of the path is replaced. -/
def setAt (root : Tree) (value : Tree) : List Step → Tree
  | [] => value
  | [.name n] => overlay root n value
  | .name n :: rest =>
    let child := (find? n root.entries).getD .hollow
    .table (setEntry n (setAt child value rest) root.entries)
  | .position i :: rest =>
    let items :=
      match root with
      | .list items => items
      | _ => []
    .list (setItem i (setAt (items[i]?.getD .hollow) value rest) items)

def isNameChar (c : Char) : Bool :=
  c.isAlphanum || c == '_' || c == '-' || c == ' '

/-- The steps behind the first name: names after points, and positions in brackets. The fuel
bounds their number. -/
def readSteps : Nat → List Char → Option (List Step)
  | _, [] => some []
  | 0, _ => none
  | fuel + 1, '.' :: rest =>
    let name := rest.takeWhile isNameChar
    if name.isEmpty then none
    else (readSteps fuel (rest.dropWhile isNameChar)).map (.name (String.ofList name) :: ·)
  | fuel + 1, '[' :: rest =>
    let digits := rest.takeWhile Char.isDigit
    match rest.dropWhile Char.isDigit with
    | ']' :: after =>
      if digits.isEmpty then none
      else (readSteps fuel after).map (.position (Nat.ofDigitChars 10 digits 0) :: ·)
    | _ => none
  | _, _ => none

/-- The path that a key writes. A key that writes none is one name as a whole. -/
def pathOf (key : String) : List Step :=
  let name := key.toList.takeWhile isNameChar
  let steps :=
    if name.isEmpty then none
    else readSteps key.length (key.toList.dropWhile isNameChar)
  match steps with
  | some steps => .name (String.ofList name) :: steps
  | none => [.name key]

/-- Lays the entries of a source over a tree, each key being a path. -/
def lay (root : Tree) (source : List (String × Tree)) : Tree :=
  source.foldl (fun t p => t.setAt p.2 (pathOf p.1)) root

/-! ## Conversions -/

/-- Words that stand for yes and for no, in any case. -/
def wordFlag (s : String) : Option Bool :=
  let w := Text.lowercase s
  if w = "true" || w = "on" || w = "yes" then some true
  else if w = "false" || w = "off" || w = "no" then some false
  else none

/-- A text, or the shortest text of a flag or number. -/
def text? : Tree → Option String
  | .text s => some s
  | .bool b => some (toString b)
  | .integer n => some (toString n)
  | .real x => some x.plainText
  | _ => none

/-- A flag, a number that is not zero, or a word for yes or no. -/
def flag? : Tree → Option Bool
  | .bool b => some b
  | .integer n => some (n != 0)
  | .real x => some (!x.isZero)
  | .text s => if s = "1" then some true else if s = "0" then some false else wordFlag s
  | _ => none

/-- A float as a natural number: rounded with halves going up, and kept between zero and the
largest number of 64 bits. -/
def saturate : Binary64 → Nat
  | .nan => 0
  | .infinite negative => if negative then 0 else 2 ^ (64 : Nat) - 1
  | .finite negative d => if negative then 0 else min d.roundHalfUp (2 ^ (64 : Nat) - 1)

/-- Digits, perhaps after a plus sign. -/
def naturalText? (s : String) : Option Nat :=
  let digits :=
    match s.toList with
    | '+' :: rest => rest
    | cs => cs
  if digits.isEmpty || !digits.all Char.isDigit then none
  else some (Nat.ofDigitChars 10 digits 0)

/-- A natural number of 64 bits, also from a flag, a float, digits, or a word for yes or no. -/
def natural? : Tree → Option Nat
  | .integer n => if 0 ≤ n then some n.toNat else none
  | .bool b => some b.toNat
  | .real x => some (saturate x)
  | .text s =>
    match wordFlag s with
    | some b => some b.toNat
    | none => (naturalText? s).filter (fun n => decide (n < 2 ^ (64 : Nat)))
  | _ => none

end Tree

end CompanySearch.Settings
