-- Sets of characters, written as the codes at which membership changes, and one of them: the blank
-- characters, which are cut off at the ends of texts.

namespace CompanySearch.Text

/-- A set of characters. The turns increase; the first is the lowest member, the second the
lowest non-member after it, and so on in alternation. -/
structure CharSet where
  turns : List Nat

/-- A character is a member when an odd number of turns lie at or below its code. -/
def CharSet.contains (s : CharSet) (c : Char) : Bool :=
  s.turns.countP (fun turn => decide (turn ≤ c.toNat)) % 2 == 1

/-! ## Blanks -/

/-- The blank characters of every script: tab to carriage return, the spaces, the line and
paragraph separators. The zero-width space is not among them. -/
def blankChars : CharSet where
  turns := [0x9, 0xE, 0x20, 0x21, 0x85, 0x86, 0xA0, 0xA1, 0x1680, 0x1681, 0x2000, 0x200B,
    0x2028, 0x202A, 0x202F, 0x2030, 0x205F, 0x2060, 0x3000, 0x3001]

def isBlank (c : Char) : Bool := blankChars.contains c

/-- The text without the blanks at both of its ends. -/
def trimmed (s : List Char) : List Char :=
  ((s.dropWhile isBlank).reverse.dropWhile isBlank).reverse

/-- The string without the blanks at both of its ends. -/
def trim (s : String) : String := String.ofList (trimmed s.toList)

end CompanySearch.Text
