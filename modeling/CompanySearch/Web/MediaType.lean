-- Media types of request bodies.
import CompanySearch.Text.Case

namespace CompanySearch.Web

/-! ## Tokens -/

/-- What the names of types and parameters are made of. -/
def isTokenChar (c : Char) : Bool := c.isAlphanum || "!#$%&'*+-.^_\x60|~".toList.contains c

/-- What may stand between the quotes of a parameter. -/
def isQuotedChar (c : Char) : Bool := decide (31 < c.toNat) && c.toNat != 127

/-! ## Parameters -/

/-- Where the reading of parameters stands. -/
inductive ParameterPlace where
  /-- Before a name. -/
  | before
  | name
  /-- Directly behind an equals sign. -/
  | opening
  | bare
  /-- Directly behind an opening quote. -/
  | openingQuoted
  | quoted
  /-- Behind a closing quote. -/
  | closed
  deriving DecidableEq, Repr

/-- The place after one more character, unless the character cannot stand there. -/
def ParameterPlace.next (p : ParameterPlace) (c : Char) : Option ParameterPlace :=
  match p with
  | .before => if c == ' ' then some .before else if isTokenChar c then some .name else none
  | .name => if isTokenChar c then some .name else if c == '=' then some .opening else none
  | .opening =>
    if c == '"' then some .openingQuoted else if isTokenChar c then some .bare else none
  | .bare => if isTokenChar c then some .bare else if c == ';' then some .before else none
  | .openingQuoted => if isQuotedChar c then some .quoted else none
  | .quoted =>
    if c == '"' then some .closed else if isQuotedChar c then some .quoted else none
  | .closed => if c == ';' then some .before else if c == ' ' then some .closed else none

/-- Whether parameters may end there. -/
def ParameterPlace.mayEnd : ParameterPlace → Bool
  | .before | .opening | .bare | .closed => true
  | .name | .openingQuoted | .quoted => false

/-- Whether a text is a list of parameters. -/
def areParameters (s : List Char) : Bool :=
  (s.foldlM ParameterPlace.next .before).any ParameterPlace.mayEnd

/-! ## Types -/

/-- A subtype cut at its last plus sign, which must not be its first character. -/
def splitSuffix (subtype : List Char) : List Char × List Char :=
  let suffix := (subtype.reverse.takeWhile (· != '+')).reverse
  let stem := subtype.take (subtype.length - suffix.length - 1)
  if stem.isEmpty then (subtype, []) else (stem, suffix)

/-- Whether a content type stands for the data format: its own type, or one built on it. -/
def isJsonType (contentType : String) : Bool :=
  let s := Text.asciiLower contentType.toList
  let (kind, rest) := s.span isTokenChar
  match rest with
  | '/' :: rest =>
    let (subtype, rest) := rest.span isTokenChar
    let (stem, suffix) := splitSuffix subtype
    let parametersFine :=
      match rest with
      | [] => true
      | ';' :: parameters => !subtype.isEmpty && areParameters parameters
      | _ => false
    kind == "application".toList && (stem == "json".toList || suffix == "json".toList) &&
      parametersFine
  | _ => false

end CompanySearch.Web
