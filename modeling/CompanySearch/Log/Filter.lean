-- Which events are logged: directives give a level to everything, or to the targets that start
-- with a text.
import CompanySearch.Log.Event
import CompanySearch.Settings.Basic
import CompanySearch.Text.Case
import CompanySearch.Text.Word

namespace CompanySearch.Log

/-! ## Directives -/

/-- How much is logged of the targets that start with a text. Without a text all are meant. -/
structure Directive where
  target : Option String
  /-- The verbosity of the last level that is logged; zero for none. -/
  verbosity : Nat
  deriving DecidableEq, Repr

/-- The verbosity that a word or a digit stands for. -/
def verbosityOf? (word : String) : Option Nat :=
  let small := String.ofList (Text.asciiLower word.toList)
  match small with
  | "off" | "0" => some 0
  | "error" | "1" => some 1
  | "warn" | "2" => some 2
  | "info" | "3" => some 3
  | "debug" | "4" => some 4
  | "trace" | "5" => some 5
  | _ => none

def isTargetChar (c : Char) : Bool := Text.isWord c || c == ':' || c == '-'

/-- A level alone, a target alone, or a target, an equals sign and a level. Where the level is
left out, everything is logged. -/
def Directive.ofText? (text : String) : Option Directive :=
  match verbosityOf? text with
  | some n => some ⟨none, n⟩
  | none =>
    let (target, rest) := text.toList.span isTargetChar
    if target.isEmpty then none
    else
      let target := some (String.ofList target)
      match rest with
      | [] => some ⟨target, 5⟩
      | '=' :: [] => some ⟨target, 5⟩
      | '=' :: level => (verbosityOf? (String.ofList level)).map fun n => ⟨target, n⟩
      | _ => none

/-- How specific a directive is: the longer its target, the more. -/
def Directive.weight (d : Directive) : Nat := d.target.elim 0 fun t => t.length + 1

/-- Whether a directive is meant for a target. -/
def Directive.covers (target : String) (d : Directive) : Bool :=
  d.target.all fun start => start.toList.isPrefixOf target.toList

/-! ## Filters -/

/-- The directives in their order. -/
abbrev Filter := List Directive

/-- What stands between the commas, leaving out what is empty. -/
def pieces (text : String) : List String := (text.splitOn ",").filter fun p => !p.isEmpty

/-- The filter of a text all of whose directives are well formed. A text without any lets errors
through and nothing else. -/
def Filter.strict? (text : String) : Option Filter :=
  ((pieces text).mapM Directive.ofText?).map fun f => if f.isEmpty then [⟨none, 1⟩] else f

/-- The filter of a text whose faulty directives are passed over. -/
def Filter.lenient (text : String) : Filter := (pieces text).filterMap Directive.ofText?

namespace Filter

/-- The most specific directive for a target. Of two for the same the later one counts. -/
def directiveFor? (f : Filter) (target : String) : Option Directive :=
  (List.filter (Directive.covers target) f).foldl (fun best d =>
    match best with
    | some b => if Directive.weight d < Directive.weight b then best else some d
    | none => some d) none

/-- Whether something of a level is logged for a target. -/
def allows (f : Filter) (level : Level) (target : String) : Bool :=
  (f.directiveFor? target).any fun d => decide (level.verbosity ≤ d.verbosity)

/-- What is logged of an event: nothing if it is not allowed, and else the event, without its
span if that is not allowed. -/
def view? (f : Filter) (e : Event) : Option Event :=
  if f.allows e.level e.target then
    some { e with span := e.span.filter fun s => f.allows s.level s.target }
  else none

end Filter

/-! ## The filter of the service -/

/-- The parts of the service that report to the log. -/
def ownTargets : List String := ["tally", "tally_server", "tally_query"]

/-- The directives for a configured level. The level stands in them as it is written, so it may
bring further directives with it. -/
def defaultDirectives (level : String) : String :=
  ",".intercalate (ownTargets.map fun target => target ++ "=" ++ level)

/-- The filter that the environment gives, if it gives a well-formed one, and else the one for
the configured level. -/
def serviceFilter (settings : LoggingSettings) (given : Option String) : Filter :=
  (given.bind Filter.strict?).getD (Filter.lenient (defaultDirectives settings.level))

end CompanySearch.Log
