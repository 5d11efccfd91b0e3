-- The address that the service listens on: the host as a numeric address, and the port.
import CompanySearch.Json.Text
import CompanySearch.Settings.Basic

namespace CompanySearch.Settings

/-! ## Hosts -/

/-- A numeric host: four bytes, or eight groups of sixteen bits. -/
inductive Host where
  | short (bytes : List Nat)
  | long (groups : List Nat)
  deriving DecidableEq, Repr

namespace Host

/-- The text cut at every occurrence of a character. -/
def cut (mark : Char) : List Char → List (List Char)
  | [] => [[]]
  | c :: rest =>
    match cut mark rest with
    | piece :: pieces => if c = mark then [] :: piece :: pieces else (c :: piece) :: pieces
    | [] => [[c]]

/-- A byte in decimal, without zeros in front. -/
def readByte (s : List Char) : Option Nat :=
  if s.isEmpty || 3 < s.length || !s.all Char.isDigit || (s.head? == some '0' && s != ['0']) then
    none
  else
    let n := Nat.ofDigitChars 10 s 0
    if n < 256 then some n else none

/-- Four bytes with points between them. -/
def readBytes (s : List Char) : Option (List Nat) :=
  let pieces := cut '.' s
  if pieces.length = 4 then pieces.mapM readByte else none

/-- A group of one to four hexadecimal digits. -/
def readGroup (s : List Char) : Option Nat :=
  if s.isEmpty || 4 < s.length then none
  else (s.mapM Json.hexValue).map fun values => values.foldl (fun n d => n * 16 + d) 0

/-- Groups from their pieces; the last piece may be four bytes, which make up two groups. -/
def readGroups (bytesAllowed : Bool) : List (List Char) → Option (List Nat)
  | [] => some []
  | [piece] =>
    match readBytes piece with
    | some [a, b, c, d] => if bytesAllowed then some [a * 256 + b, c * 256 + d] else none
    | _ => (readGroup piece).map ([·])
  | piece :: pieces => do
    let group ← readGroup piece
    return group :: (← readGroups bytesAllowed pieces)

/-- The groups on one side of a double colon, where there may be none. -/
def readSide (bytesAllowed : Bool) (s : List Char) : Option (List Nat) :=
  if s.isEmpty then some [] else readGroups bytesAllowed (cut ':' s)

/-- The text before and after the first double colon. -/
def splitColons : List Char → Option (List Char × List Char)
  | ':' :: ':' :: rest => some ([], rest)
  | c :: rest => (splitColons rest).map fun (before, after) => (c :: before, after)
  | [] => none

/-- Eight groups, or fewer with a double colon for the missing ones. -/
def readLong (s : List Char) : Option (List Nat) :=
  match splitColons s with
  | some (before, after) => do
    let front ← readSide false before
    let back ← readSide true after
    if 7 < front.length + back.length then none
    else return front ++ List.replicate (8 - front.length - back.length) 0 ++ back
  | none => (readSide true s).filter (·.length == 8)

/-- The host that a text gives. The name of this machine stands for its own address; no other
names are looked up. -/
def ofText? (text : String) : Option Host :=
  let s := text.toList
  if text = "localhost" then some (.short [127, 0, 0, 1])
  else
    match readBytes s with
    | some bytes => some (.short bytes)
    | none => (readLong s).map .long

/-! ## Text -/

def bytesText (bytes : List Nat) : String := ".".intercalate (bytes.map toString)

/-- The length of the run of zeros at the front. -/
def zeroRun (groups : List Nat) : Nat := (groups.takeWhile (· == 0)).length

/-- Where the longest run of zeros starts, the first of several, and its length. -/
def longestZeros (groups : List Nat) : Nat × Nat :=
  (List.range groups.length).foldl (fun best i =>
    let run := zeroRun (groups.drop i)
    if best.2 < run then (i, run) else best) (0, 0)

def groupsText (groups : List Nat) : String :=
  ":".intercalate (groups.map fun g => String.ofList (Nat.toDigits 16 g))

/-- The text of a host. A double colon stands for the longest run of two zeros or more, and
four bytes wrapped into groups show as bytes. -/
def text : Host → String
  | .short bytes => bytesText bytes
  | .long [0, 0, 0, 0, 0, 0xFFFF, a, b] =>
    "::ffff:" ++ bytesText [a / 256, a % 256, b / 256, b % 256]
  | .long groups =>
    let (start, run) := longestZeros groups
    if 1 < run then
      groupsText (groups.take start) ++ "::" ++ groupsText (groups.drop (start + run))
    else groupsText groups

end Host

/-! ## Addresses -/

/-- The text of a host and a port; a host with colons stands in brackets. -/
def addressText (host : Host) (port : UInt16) : String :=
  match host with
  | .short _ => host.text ++ ":" ++ toString port
  | .long _ => "[" ++ host.text ++ "]:" ++ toString port

end CompanySearch.Settings

namespace CompanySearch

/-- The address to listen on, unless the host is not understood. -/
def ServerSettings.address? (s : ServerSettings) : Option String :=
  (Settings.Host.ofText? s.host).map fun host => Settings.addressText host s.port

end CompanySearch
