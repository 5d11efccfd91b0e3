-- The text form of strings in the data format: which characters are written as escapes, and how
-- a string is read back.
import CompanySearch.Text.Quoted

namespace CompanySearch

/-- A value of the data format. A number keeps the text that wrote it, so none is too large. -/
inductive Json where
  | null
  | bool (value : Bool)
  | number (written : String)
  | text (value : String)
  | array (items : List Json)
  | object (members : List (String × Json))

namespace Json

/-! ## Writing strings -/

/-- The four digits of a code below `2 ^ 16`. -/
def fourHex (n : Nat) : List Char :=
  let digits := Text.hexText n
  List.replicate (4 - digits.length) '0' ++ digits

/-- Quotes, backslashes and controls are escaped, the common controls by a letter; all other
characters stand for themselves. -/
def escapedChar (c : Char) : List Char :=
  match c with
  | '"' => ['\\', '"']
  | '\\' => ['\\', '\\']
  | '\x08' => ['\\', 'b']
  | '\x0c' => ['\\', 'f']
  | '\n' => ['\\', 'n']
  | '\r' => ['\\', 'r']
  | '\t' => ['\\', 't']
  | c => if c.toNat < 0x20 then '\\' :: 'u' :: fourHex c.toNat else [c]

/-- The characters of a string between its quotes. -/
def stringChars (s : List Char) : List Char := '"' :: s.flatMap escapedChar ++ ['"']

/-! ## Reading strings -/

def hexValue (c : Char) : Option Nat :=
  if '0' ≤ c ∧ c ≤ '9' then some (c.toNat - '0'.toNat)
  else if 'a' ≤ c ∧ c ≤ 'f' then some (c.toNat - 'a'.toNat + 10)
  else if 'A' ≤ c ∧ c ≤ 'F' then some (c.toNat - 'A'.toNat + 10)
  else none

/-- The code that four hexadecimal digits write. -/
def hexCode (a b c d : Char) : Option Nat := do
  let a ← hexValue a
  let b ← hexValue b
  let c ← hexValue c
  let d ← hexValue d
  return ((a * 16 + b) * 16 + c) * 16 + d

def isHighHalf (code : Nat) : Bool := decide (0xD800 ≤ code ∧ code < 0xDC00)

def isLowHalf (code : Nat) : Bool := decide (0xDC00 ≤ code ∧ code < 0xE000)

/-- The character that two halves of a pair write together. -/
def joinHalves (high low : Nat) : Char :=
  Char.ofNat (0x10000 + (high - 0xD800) * 0x400 + (low - 0xDC00))

/-- What a backslash and one letter stand for. -/
def shortEscape : Char → Option Char
  | '"' => some '"'
  | '\\' => some '\\'
  | '/' => some '/'
  | 'b' => some '\x08'
  | 'f' => some '\x0c'
  | 'n' => some '\n'
  | 'r' => some '\r'
  | 't' => some '\t'
  | _ => none

def consFirst (c : Char) (r : List Char × List Char) : List Char × List Char := (c :: r.1, r.2)

/-- The string whose opening quote has been read, and what follows its closing quote. Raw
controls, unknown escapes and halves of pairs on their own are refused. -/
def readString : List Char → Option (List Char × List Char)
  | [] => none
  | '"' :: rest => some ([], rest)
  | '\\' :: 'u' :: a :: b :: c :: d :: rest =>
    match hexCode a b c d with
    | none => none
    | some code =>
      if isLowHalf code then none
      else if isHighHalf code then
        match rest with
        | '\\' :: 'u' :: a :: b :: c :: d :: rest =>
          match hexCode a b c d with
          | none => none
          | some low =>
            if isLowHalf low then (readString rest).map (consFirst (joinHalves code low)) else none
        | _ => none
      else (readString rest).map (consFirst (Char.ofNat code))
  | '\\' :: e :: rest =>
    match shortEscape e with
    | none => none
    | some c => (readString rest).map (consFirst c)
  | c :: rest =>
    if c == '\\' || c.toNat < 0x20 then none else (readString rest).map (consFirst c)

/-- Passes over a string whose opening quote has been read. Halves of pairs are not looked at. -/
def skipString : List Char → Option (List Char × List Char)
  | [] => none
  | '"' :: rest => some ([], rest)
  | '\\' :: 'u' :: a :: b :: c :: d :: rest =>
    if (hexCode a b c d).isNone then none else skipString rest
  | '\\' :: e :: rest => if (shortEscape e).isNone then none else skipString rest
  | c :: rest => if c == '\\' || c.toNat < 0x20 then none else skipString rest

end Json

end CompanySearch
