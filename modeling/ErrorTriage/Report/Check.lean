import ErrorTriage.Filter
import ErrorTriage.Json.Reader
import ErrorTriage.Report.Table

/-!
# Report.Check — running the configured filter over captured events

Events are checked one by one and independently: each starts with the decision to log, and an
event that cannot be evaluated is logged with the error.  The events come from a file that holds
one of them or an array.
-/

namespace ErrorTriage

structure EventOutcome where
  typeName : String
  message : String
  /-- The first status code of the error's chain, or zero. -/
  statusCode : Int
  decision : Decision
  /-- What went wrong in the evaluation. -/
  error : Option String := none
deriving DecidableEq

inductive CheckFailure where
  | noFilter (profile : String)
  /-- The rule of the filter cannot be built. -/
  | build (e : RuleError)
  | unreadable (path : String)
  | unparsable (path : String)
  /-- The document holds something that is no event. -/
  | invalidEvent (path : String)
deriving DecidableEq, Repr

def CheckFailure.message : CheckFailure → String
  | .noFilter profile => "No [error_filter] section in profile '" ++ profile ++ "'"
  | .build _ => "Failed to build the error filter"
  | .unreadable path => "Failed to read '" ++ path ++ "'"
  | .unparsable path => "Failed to parse '" ++ path ++ "'"
  | .invalidEvent path => "Invalid captured event in '" ++ path ++ "'"

namespace EventOutcome

def failed (typeName message : String) (statusCode : Int) (e : EvaluationError) : EventOutcome :=
  ⟨typeName, message, statusCode, .log, some e.message⟩

def ofEvent (filter : EventFilter) (event : Event) : EventOutcome :=
  let e := event.error
  match applyIfAny (some filter) ⟨e, event.ambient, .log⟩ with
  | (.ok _, s) => ⟨e.typeName, e.message, e.statusCode, s.decision, none⟩
  | (.error fault, _) => failed e.typeName e.message e.statusCode fault

def toJson (o : EventOutcome) : Json :=
  .object ([("type", .string o.typeName), ("message", .string o.message),
      ("status_code", Json.int o.statusCode)]
    ++ o.decision.members
    ++ match o.error with
      | some message => [("error", .string message)]
      | none => [])

end EventOutcome

/-- The events of a document: an array of them or a single one. -/
def eventsOf? (j : Json) : Option (List Event) :=
  match j with
  | .array items => items.mapM Event.ofJson?
  | single => (Event.ofJson? single).map fun e => [e]

/-- The events of a file, given its text if it could be read. -/
def readFile (path : String) (text : Option String) : Except CheckFailure (List Event) :=
  match text with
  | none => .error (.unreadable path)
  | some text =>
    match Json.read? text with
    | none => .error (.unparsable path)
    | some j =>
      match eventsOf? j.settled with
      | none => .error (.invalidEvent path)
      | some events => .ok events

/-- Checks the events of a file.  The filter is built before the file is looked at. -/
def checkFile (settings : Settings) (path : String) (text : Option String) :
    Except CheckFailure (List EventOutcome) :=
  match settings.errorFilter with
  | none => .error (.noFilter settings.profileName)
  | some filterSettings =>
    match EventFilter.ofSettings filterSettings {} with
    | .error e => .error (.build e)
    | .ok filter =>
      match readFile path text with
      | .error e => .error e
      | .ok events => .ok (events.map (EventOutcome.ofEvent filter))

namespace Report

/-! ## Text -/

def decisionWord (colors : Bool) (o : EventOutcome) : String :=
  if o.error.isSome then bold colors .red "error"
  else match o.decision with
    | .log => bold colors .green "log"
    | .dismiss => bold colors .yellow "dismiss"
    | .route notifiers =>
      bold colors .cyan "route" ++ " " ++ ", ".intercalate notifiers.names

/-- The rows of outcomes, numbered. -/
def outcomeRows (colors : Bool) : Nat → List EventOutcome → List (List String)
  | _, [] => []
  | n, o :: rest =>
    [toString n, o.typeName, toString o.statusCode, truncate 60 o.message, decisionWord colors o]
      :: outcomeRows colors (n + 1) rest

/-- Outcomes as a table, their numbers, and the errors one by one. -/
def checkText (colors : Bool) (outcomes : List EventOutcome) : String :=
  let table : Table :=
    ⟨["#", "Type", "Status", "Message", "Decision"], outcomeRows colors 1 outcomes⟩
  let total := outcomes.length
  let dismissed := (outcomes.filter fun o => o.decision.isDismissed).length
  let errors := outcomes.filterMap (·.error)
  table.render ++ "\n" ++ toString total ++ " event(s): "
    ++ bold colors .yellow (toString dismissed) ++ " filtered, "
    ++ bold colors .green (toString (total - dismissed)) ++ " logged"
    ++ (if errors.isEmpty then ""
      else ", " ++ bold colors .red (toString errors.length) ++ " failed")
    ++ "\n"
    ++ "".intercalate (errors.map fun e => bold colors .red "error:" ++ " " ++ e ++ "\n")

def checkJson (outcomes : List EventOutcome) : Json :=
  .array (outcomes.map EventOutcome.toJson)

end Report
end ErrorTriage
