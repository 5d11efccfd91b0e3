-- Environment variables: those that name settings, and those that a file adds to them.
import CompanySearch.Number.FloatText
import CompanySearch.Settings.Tree
import CompanySearch.Text.Word

namespace CompanySearch.Settings

open CompanySearch.Number

-- Powers are those of the core library, whatever else is imported.
attribute [local instance (high)] instPowNat

/-! ## Environments -/

/-- The variables that are set, by name. -/
abbrev Variables := List (String × String)

namespace Variables

def lookup (vars : Variables) (name : String) : Option String :=
  (List.find? (·.1 == name) vars).map (·.2)

/-- Sets a variable unless it is set already. -/
def supply (vars : Variables) (name value : String) : Variables :=
  if (vars.lookup name).isSome then vars else vars ++ [(name, value)]

/-- One variable, cut at its first equals sign. -/
def ofEntry (entry : List Char) : String × String :=
  (String.ofList (entry.takeWhile (· != '=')),
    String.ofList ((entry.dropWhile (· != '=')).drop 1))

/-- The variables of a text that has an entry for each, parted by null characters. -/
def ofBlock (text : String) : Variables :=
  ((text.splitOn "\x00").filter fun e => !e.isEmpty).map fun e => ofEntry e.toList

end Variables

/-! ## Variables that name settings -/

/-- What the names of settings in the environment start with, in any case. -/
def variableStart : List Char := "tally__".toList

/-- The only setting whose value in the environment is a list. -/
def listKey : String := "server.cors_origins"

/-- Two underscores stand for the point between two names. -/
def pointed : List Char → List Char
  | '_' :: '_' :: rest => '.' :: pointed rest
  | c :: rest => c :: pointed rest
  | [] => []

/-- An integer of 64 bits. -/
def integerText? (s : String) : Option Int :=
  let (negative, digits) := splitSign s.toList
  let n := Binary64.signed negative (digitsValue digits)
  let fits := decide (-2 ^ (63 : Nat) ≤ n ∧ n < 2 ^ (63 : Nat))
  if !digits.isEmpty && digits.all Char.isDigit && fits then some n else none

/-- The value of a setting in the environment: a flag, an integer, a float, or else a text, cut
at the commas where a list belongs. -/
def variableValue (key value : String) : Tree :=
  let word := Text.lowercase value
  if word = "true" then .bool true
  else if word = "false" then .bool false
  else
    match integerText? value with
    | some n => .integer n
    | none =>
      match readFloat value.toList with
      | some x => .real x
      | none =>
        if key = listKey then .list ((value.splitOn ",").map Tree.text) else .text value

/-- The key and value of the setting that a variable names, if it names one. -/
def settingOf? (name value : String) : Option (String × Tree) :=
  let small := (Text.lowercase name).toList
  if variableStart.isPrefixOf small then
    let key := String.ofList (pointed (small.drop variableStart.length))
    some (key, variableValue key value)
  else none

/-- The settings in an environment. -/
def Variables.settings (vars : Variables) : List (String × Tree) :=
  List.filterMap (fun p => settingOf? p.1 p.2) vars

end CompanySearch.Settings
