-- Small letters of every script, and comparison that passes over ASCII case.
import CompanySearch.Text.CaseTable

namespace CompanySearch.Text

/-! ## One character -/

def isCased (c : Char) : Bool := casedChars.contains c

def isCaseIgnorable (c : Char) : Bool := caseIgnorableChars.contains c

def CaseRun.covers (run : CaseRun) (code : Nat) : Bool :=
  decide (run.first ≤ code ∧ code ≤ run.last) && (code - run.first) % run.step == 0

/-- The small form of one character, whatever stands beside it. The capital I with a dot is
the only one whose small form is two characters. -/
def lowerChar (c : Char) : List Char :=
  if c.toNat < 0x80 then [c.toLower]
  else if c == 'İ' then ['i', '\u0307']
  else
    match caseRuns.find? (·.covers c.toNat) with
    | some run => [Char.ofNat (c.toNat + run.shift).toNat]
    | none => [c]

/-! ## Text -/

/-- The nearest character that is not passed over has case. -/
def meetsCased (s : List Char) : Bool :=
  match s.dropWhile isCaseIgnorable with
  | c :: _ => isCased c
  | [] => false

/-- The small letters of a text, where `before` holds what stands in front of it, nearest
first. A sigma is final when a letter comes before it and none after. -/
def lowerAfter (before : List Char) : List Char → List Char
  | [] => []
  | c :: rest =>
    (if c == 'Σ' then [if meetsCased before && !meetsCased rest then 'ς' else 'σ']
      else lowerChar c) ++ lowerAfter (c :: before) rest

/-- The text in small letters. -/
def lowercase (s : String) : String := String.ofList (lowerAfter [] s.toList)

/-- The text with its ASCII capitals made small and all else left alone. -/
def asciiLower (s : List Char) : List Char := s.map Char.toLower

/-- Two texts that differ at most in the case of ASCII letters. -/
def sameIgnoringAsciiCase (s t : List Char) : Bool := asciiLower s == asciiLower t

end CompanySearch.Text
