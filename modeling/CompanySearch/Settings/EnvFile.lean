-- Files that set environment variables: a name, an equals sign and a value on each line. Values
-- may be quoted, may go on over lines inside quotes, and may name other variables.
import CompanySearch.Settings.Variables
import CompanySearch.Text.CharSet

namespace CompanySearch.Settings.EnvFile

open CompanySearch.Text

/-! ## Values -/

/-- What the next character of a value belongs to. -/
inductive Mode where
  | plain
  | escaped
  /-- The name of a variable, in braces or not, as far as it has been read. -/
  | name (braced : Bool) (letters : List Char)
  /-- Behind the value, where only a comment may stand. -/
  | ending
  | comment
  deriving DecidableEq, Repr

/-- A value as far as it has been read, and the quote that is open. -/
structure Value where
  output : List Char
  quote : Option Char
  mode : Mode
  deriving DecidableEq, Repr

namespace Value

def start : Value := ⟨[], none, .plain⟩

def push (v : Value) (c : Char) : Value := { v with output := v.output ++ [c], mode := .plain }

def enter (v : Value) (mode : Mode) : Value := { v with mode := mode }

/-- Puts the value of a variable in; one that is not set has an empty value. -/
def substitute (v : Value) (vars : Variables) (letters : List Char) : Value :=
  { v with
    output := v.output ++ ((vars.lookup (String.ofList letters)).getD "").toList
    mode := .plain }

end Value

/-- Letters and digits make up the name of a variable inside a value. -/
def isLetter (c : Char) : Bool := isWord c && c != '_'

/-- What a character behind a backslash stands for. -/
def unescaped (c : Char) : Option Char :=
  if c == '\\' || c == '\'' || c == '"' || c == '$' || c == ' ' then some c
  else if c == 'n' then some '\n'
  else none

/-- A character where neither an escape nor a name is being read. -/
def stepPlain (v : Value) (c : Char) : Value :=
  match v.quote with
  | some '\'' => if c == '\'' then { v with quote := none } else v.push c
  | some _ =>
    if c == '$' then v.enter (.name false [])
    else if c == '"' then { v with quote := none }
    else if c == '\\' then v.enter .escaped
    else v.push c
  | none =>
    if c == '$' then v.enter (.name false [])
    else if c == '\'' || c == '"' then { v with quote := some c }
    else if c == '\\' then v.enter .escaped
    else if c == ' ' || c == '\t' then v.enter .ending
    else v.push c

/-- A character inside the name of a variable. -/
def stepName (vars : Variables) (v : Value) (braced : Bool) (letters : List Char) (c : Char) :
    Value :=
  if isLetter c then v.enter (.name braced (letters ++ [c]))
  else if braced then
    if c == '\x7d' then v.substitute vars letters else v.enter (.name true (letters ++ [c]))
  else if c == '\x7b' && letters.isEmpty then v.enter (.name true [])
  else if c == '$' then (v.substitute vars letters).enter (.name false [])
  else (v.substitute vars letters).push c

/-- Takes one more character into a value. -/
def step (vars : Variables) (v : Value) (c : Char) : Option Value :=
  match v.mode with
  | .plain => some (stepPlain v c)
  | .escaped => (unescaped c).map v.push
  | .name braced letters => some (stepName vars v braced letters c)
  | .ending =>
    if c == ' ' || c == '\t' then some v
    else if c == '#' then some (v.enter .comment)
    else none
  | .comment => some v

/-- The value that a text writes. Quotes and braces must be closed. -/
def readValue (vars : Variables) (s : List Char) : Option (List Char) := do
  let v ← s.foldlM (step vars) .start
  if v.quote.isSome then none
  else
    match v.mode with
    | .name true _ => none
    | .name false letters => return (v.substitute vars letters).output
    | _ => return v.output

/-! ## Lines -/

def isNameStart (c : Char) : Bool := c.isAlpha || c == '_'

def isNameChar (c : Char) : Bool := c.isAlphanum || c == '_' || c == '.'

def skipBlanks (s : List Char) : List Char := s.dropWhile isBlank

/-- The name at the front, and what follows it and the blanks behind it. -/
def readName (s : List Char) : Option (List Char × List Char) :=
  match s with
  | c :: _ =>
    if isNameStart c then
      let (name, rest) := s.span isNameChar
      some (name, skipBlanks rest)
    else none
  | [] => none

/-- What follows the equals sign at the front. -/
def dropEquals : List Char → Option (List Char)
  | '=' :: rest => some (skipBlanks rest)
  | _ => none

/-- The name that a line sets and what is written for its value. The word `export` may stand in
front of the name. -/
def readSides (s : List Char) : Option (List Char × List Char) := do
  let (name, rest) ← readName s
  match dropEquals rest with
  | some value => return (name, value)
  | none =>
    if name = "export".toList then
      let (name, rest) ← readName rest
      return (name, ← dropEquals rest)
    else none

def isBare (s : List Char) : Bool := s.isEmpty || s.head? == some '#'

/-- What a line sets: nothing if it is blank or a comment. A faulty line gives none. -/
def readLine (vars : Variables) (line : List Char) : Option (Option (String × String)) :=
  let s := trimmed line
  if isBare s then some none
  else do
    let (name, value) ← readSides s
    let value ← if isBare value then some [] else readValue vars value
    return some (String.ofList name, String.ofList value)

/-! ## Lines that go on -/

/-- Where the scan for the end of a line stands. -/
inductive Place where
  | bare
  /-- Behind a blank, where a comment may start. -/
  | blank
  | escaped
  | inside (quote : Char)
  | insideEscaped (quote : Char)
  deriving DecidableEq, Repr

/-- The place behind a character that starts no comment. -/
def Place.next (p : Place) (c : Char) : Place :=
  match p with
  | .escaped => .bare
  | .insideEscaped q => .inside q
  | .inside q => if c == '\\' then .insideEscaped q else if c == q then .bare else .inside q
  | .bare | .blank =>
    if p = .bare && isBlank c && c != '\n' && c != '\r' then .blank
    else if c == '\\' then .escaped
    else if c == '"' || c == '\'' then .inside c
    else .bare

/-- Where a line ends: at a place, or before a comment after so many characters. -/
def scanLine (p : Place) (passed : Nat) : List Char → Except Nat Place
  | [] => .ok p
  | c :: rest =>
    if p = .blank && c == '#' then .error passed else scanLine (p.next c) (passed + 1) rest

/-- A line with its end, and what follows it. -/
def splitLine : List Char → List Char × List Char
  | [] => ([], [])
  | '\n' :: rest => (['\n'], rest)
  | c :: rest =>
    let (line, after) := splitLine rest
    (c :: line, after)

/-- The lines of a file, each with those that it goes on over inside quotes; `held` is what has
been read of the line so far. Lines from one without an end on are left out. The fuel bounds
the number of lines. -/
def joinedLines : Nat → Place → List Char → List Char → List (List Char)
  | 0, _, _, _ => []
  | fuel + 1, p, held, s =>
    if s.isEmpty then []
    else
      let (line, rest) := splitLine s
      let whole := held ++ line
      if (skipBlanks whole).head? == some '#' then joinedLines fuel .bare [] rest
      else
        match scanLine p 0 line with
        | .error passed => whole.take passed :: joinedLines fuel .bare [] rest
        | .ok .bare => whole :: joinedLines fuel .bare [] rest
        | .ok p => joinedLines fuel p whole rest

/-! ## Files -/

/-- The variables after the lines have been read in turn, up to the first faulty one. -/
def readLines (vars : Variables) : List (List Char) → Variables
  | [] => vars
  | line :: rest =>
    match readLine vars line with
    | none => vars
    | some none => readLines vars rest
    | some (some (name, value)) => readLines (vars.supply name value) rest

/-- The variables after a file has been read. Those already set keep their values. -/
def load (vars : Variables) (text : String) : Variables :=
  let s :=
    match text.toList with
    | '\ufeff' :: rest => rest
    | s => s
  readLines vars (joinedLines (s.length + 1) .bare [] s)

end CompanySearch.Settings.EnvFile
