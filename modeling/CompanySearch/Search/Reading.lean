-- Reading a search request from a query string or from a body in the data format. A body is read
-- from the front, so of two mistakes the first one counts.
import CompanySearch.Json.Reader
import CompanySearch.Search.Request
import CompanySearch.Text.Form

namespace CompanySearch.Search

open CompanySearch.Json

/-- The request that a query string writes, unless it gives some part twice. -/
def ofQueryString? (query : String) : Option Request := Request.ofPairs? (Text.Form.decode query)

/-- Why a body is no request. -/
inductive BodyFault where
  /-- The text is not in the data format. -/
  | malformed
  /-- The text is in the format as far as it was read, but it is no request: a value of the wrong
  kind, or a part given twice. -/
  | mismatch
  deriving DecidableEq, Repr

/-- What follows, or a fault where the format is broken. -/
def orMalformed : Option α → Except BodyFault α
  | some a => .ok a
  | none => .error .malformed

/-! ## Values -/

/-- The fault of a value that is no text. Words and numbers are read to their end first. -/
def wrongKind (s : List Char) : BodyFault :=
  let read (next : Option (List Char)) := if next.isSome then BodyFault.mismatch else .malformed
  match s with
  | '[' :: _ => .mismatch
  | '\x7b' :: _ => .mismatch
  | '"' :: rest => read ((readString rest).map (·.2))
  | 'n' :: rest => read (dropWord "ull".toList rest)
  | 't' :: rest => read (dropWord "rue".toList rest)
  | 'f' :: rest => read (dropWord "alse".toList rest)
  | s =>
    match readNumber s with
    | some (written, rest) => read (if inRange written then some rest else none)
    | none => .malformed

/-- A text. -/
def readText (s : List Char) : Except BodyFault (String × List Char) :=
  match skipSpace s with
  | '"' :: rest => (orMalformed (readString rest)).map fun (cs, rest) => (String.ofList cs, rest)
  | s => .error (wrongKind s)

/-- A text or the word for nothing. -/
def readOptionalText (s : List Char) : Except BodyFault (Option String × List Char) :=
  match skipSpace s with
  | 'n' :: rest => (orMalformed (dropWord "ull".toList rest)).map fun rest => (none, rest)
  | s => (readText s).map fun (value, rest) => (some value, rest)

/-- A value for a part of a request. -/
def readPart (p : Request.Part) (s : List Char) : Except BodyFault (Option String × List Char) :=
  match p with
  | .text => (readText s).map fun (value, rest) => (some value, rest)
  | _ => readOptionalText s

/-! ## Objects -/

/-- One member, whose name has been read: the draft with it, and what follows. -/
def readMember (d : Request.Draft) (name : String) (s : List Char) :
    Except BodyFault (Request.Draft × List Char) :=
  let afterColon := fun () =>
    match skipSpace s with
    | ':' :: rest => Except.ok rest
    | _ => .error BodyFault.malformed
  match Request.Part.ofName? name with
  | none => do
    let rest ← afterColon ()
    let rest ← orMalformed (skipValue rest)
    return (d, rest)
  | some p =>
    if p.given d then .error .mismatch
    else do
      let rest ← afterColon ()
      let (value, rest) ← readPart p rest
      return (p.set value d, rest)

/-- The members of an object from the quote of a name on. The fuel bounds their number. -/
def readMembers :
    Nat → Request.Draft → List Char → Except BodyFault (Request.Draft × List Char)
  | 0, _, _ => .error .malformed
  | fuel + 1, d, s =>
    match s with
    | '"' :: rest => do
      let (name, rest) ← orMalformed (readString rest)
      let (d, rest) ← readMember d (String.ofList name) rest
      match skipSpace rest with
      | '\x7d' :: rest => return (d, rest)
      | ',' :: rest => readMembers fuel d (skipSpace rest)
      | _ => throw .malformed
    | _ => .error .malformed

/-! ## Arrays -/

/-- The items of an array for the given parts in turn, from the first item or from the comma
before the next one. Parts without an item keep their defaults; items beyond the last part are
refused. -/
def readItems (first : Bool) (d : Request.Draft) :
    List Request.Part → List Char → Except BodyFault (Request.Draft × List Char)
  | parts, s =>
    match parts, skipSpace s with
    | _, ']' :: rest => .ok (d, rest)
    | [], _ => .error .malformed
    | p :: parts, s =>
      let start := if first then some s else
        match s with
        | ',' :: rest =>
          match skipSpace rest with
          | ']' :: _ => none
          | rest => some rest
        | _ => none
      match start with
      | none => .error .malformed
      | some s => do
        let (value, rest) ← readPart p s
        readItems false (p.set value d) parts rest

/-! ## Bodies -/

/-- The request at the front of a text: an object of named parts, or an array of the parts in
their order. -/
def readRequest (s : List Char) : Except BodyFault (Request × List Char) :=
  match skipSpace s with
  | '\x7b' :: rest =>
    match skipSpace rest with
    | '\x7d' :: rest => .ok (Request.Draft.empty.complete, rest)
    | rest => (readMembers (rest.length + 1) .empty rest).map fun (d, rest) => (d.complete, rest)
  | '[' :: rest =>
    (readItems true .empty [.text, .sortField, .sortOrder, .algorithm] rest).map
      fun (d, rest) => (d.complete, rest)
  | s => .error (wrongKind s)

/-- The request that a whole text writes. -/
def ofJson (s : String) : Except BodyFault Request := do
  let (r, rest) ← readRequest s.toList
  if (skipSpace rest).isEmpty then return r else throw .malformed

end CompanySearch.Search
