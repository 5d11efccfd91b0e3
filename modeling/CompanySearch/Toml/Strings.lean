-- The small parts of a settings file: gaps, ends of lines, quoted texts and keys.
import CompanySearch.Json.Text

namespace CompanySearch.Toml

/-! ## Gaps and lines -/

/-- What may stand in a text or a comment: a tab, and all that is no ASCII control. -/
def isPlain (c : Char) : Bool := c == '\t' || (decide (0x20 ≤ c.toNat) && c.toNat != 0x7F)

def isGap (c : Char) : Bool := c == ' ' || c == '\t'

def skipGap (s : List Char) : List Char := s.dropWhile isGap

/-- What follows the end of a line, of either kind, at the front. -/
def newline? : List Char → Option (List Char)
  | '\n' :: rest => some rest
  | '\r' :: '\n' :: rest => some rest
  | _ => none

def skipComment : List Char → List Char
  | '#' :: rest => rest.dropWhile isPlain
  | s => s

/-- Passes over the rest of a line that holds nothing more than a comment. -/
def endLine (s : List Char) : Option (List Char) :=
  match skipComment (skipGap s) with
  | [] => some []
  | s => newline? s

/-- Passes over gaps, comments and ends of lines. The fuel bounds the number of lines. -/
def skipLines : Nat → List Char → List Char
  | 0, s => s
  | fuel + 1, s =>
    match newline? (skipComment (skipGap s)) with
    | some rest => skipLines fuel rest
    | none => skipGap s

/-! ## Quoted texts -/

/-- What a backslash and one letter stand for. -/
def shortEscape : Char → Option Char
  | 'b' => some '\x08'
  | 't' => some '\t'
  | 'n' => some '\n'
  | 'f' => some '\x0c'
  | 'r' => some '\r'
  | '"' => some '"'
  | '\\' => some '\\'
  | _ => none

/-- The character whose code the digits write. -/
def coded (digits : List Char) : Option Char := do
  let values ← digits.mapM Json.hexValue
  let code := values.foldl (fun n d => n * 16 + d) 0
  if code.isValidChar then some (Char.ofNat code) else none

/-- A text up to its double quote. -/
def readBasic : List Char → Option (List Char × List Char)
  | [] => none
  | '"' :: rest => some ([], rest)
  | '\\' :: 'u' :: a :: b :: c :: d :: rest => do
    let (text, after) ← readBasic rest
    return ((← coded [a, b, c, d]) :: text, after)
  | '\\' :: 'U' :: a :: b :: c :: d :: e :: f :: g :: h :: rest => do
    let (text, after) ← readBasic rest
    return ((← coded [a, b, c, d, e, f, g, h]) :: text, after)
  | '\\' :: e :: rest => do
    let (text, after) ← readBasic rest
    return ((← shortEscape e) :: text, after)
  | c :: rest =>
    if c == '\\' || !isPlain c then none
    else (readBasic rest).map fun (text, after) => (c :: text, after)

/-- A text up to its apostrophe, without escapes. -/
def readLiteral : List Char → Option (List Char × List Char)
  | [] => none
  | '\'' :: rest => some ([], rest)
  | c :: rest =>
    if isPlain c then (readLiteral rest).map fun (text, after) => (c :: text, after) else none

/-- Three quotes close a long text. One or two more before them belong to it. -/
def closing? (quote : Char) (s : List Char) : Option (List Char × List Char) :=
  let count := min 5 (s.takeWhile (· == quote)).length
  if count < 3 then none else some (List.replicate (count - 3) quote, s.drop count)

/-- A long text up to its three apostrophes. -/
def readLongLiteral (s : List Char) : Option (List Char × List Char) :=
  match closing? '\'' s with
  | some done => some done
  | none =>
    match s with
    | [] => none
    | '\r' :: '\n' :: rest =>
      (readLongLiteral rest).map fun (text, after) => ('\n' :: text, after)
    | c :: rest =>
      if isPlain c || c == '\n' then
        (readLongLiteral rest).map fun (text, after) => (c :: text, after)
      else none
termination_by s.length

/-- A long text up to its three double quotes. A backslash at the end of a line takes away the
gaps and line ends that follow; the flag says that they are being passed over. -/
def readLongBasic (folding : Bool) (s : List Char) : Option (List Char × List Char) :=
  match closing? '"' s with
  | some done => some done
  | none =>
    match s with
    | [] => none
    | '\r' :: '\n' :: rest => do
      let (text, after) ← readLongBasic folding rest
      return (if folding then text else '\n' :: text, after)
    | '\\' :: 'u' :: a :: b :: c :: d :: rest => do
      let (text, after) ← readLongBasic false rest
      return ((← coded [a, b, c, d]) :: text, after)
    | '\\' :: 'U' :: a :: b :: c :: d :: e :: f :: g :: h :: rest => do
      let (text, after) ← readLongBasic false rest
      return ((← coded [a, b, c, d, e, f, g, h]) :: text, after)
    | '\\' :: e :: rest =>
      if (newline? (skipGap (e :: rest))).isSome then readLongBasic true (e :: rest)
      else do
        let (text, after) ← readLongBasic false rest
        return ((← shortEscape e) :: text, after)
    | c :: rest =>
      if folding && (isGap c || c == '\n') then readLongBasic true rest
      else if c != '\\' && (isPlain c || c == '\n') then
        (readLongBasic false rest).map fun (text, after) => (c :: text, after)
      else none
termination_by s.length

/-- The end of a line directly behind the opening of a long text is not part of it. -/
def dropFirstNewline (s : List Char) : List Char := (newline? s).getD s

/-- The text whose quote stands at the front. -/
def readText : List Char → Option (List Char × List Char)
  | '"' :: '"' :: '"' :: rest => readLongBasic false (dropFirstNewline rest)
  | '"' :: rest => readBasic rest
  | '\'' :: '\'' :: '\'' :: rest => readLongLiteral (dropFirstNewline rest)
  | '\'' :: rest => readLiteral rest
  | _ => none

/-! ## Keys -/

def isBare (c : Char) : Bool := c.isAlphanum || c == '_' || c == '-'

/-- One name: bare, or quoted on one line. -/
def readName : List Char → Option (List Char × List Char)
  | '"' :: rest => readBasic rest
  | '\'' :: rest => readLiteral rest
  | s =>
    let (name, rest) := s.span isBare
    if name.isEmpty then none else some (name, rest)

/-- At most this many values may be nested, and as many names may make up a key. -/
def depthLimit : Nat := 79

/-- Names with points between them and gaps around them. -/
def readNames : Nat → List Char → Option (List String × List Char)
  | 0, _ => none
  | fuel + 1, s => do
    let (name, rest) ← readName (skipGap s)
    match skipGap rest with
    | '.' :: rest =>
      let (names, rest) ← readNames fuel rest
      return (String.ofList name :: names, rest)
    | rest => return ([String.ofList name], rest)

/-- A key at the front, with the gap behind it. -/
def readKey (s : List Char) : Option (List String × List Char) := readNames depthLimit s

end CompanySearch.Toml
