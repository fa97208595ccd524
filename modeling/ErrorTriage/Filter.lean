import ErrorTriage.Capture.Event
import ErrorTriage.NameSet
import ErrorTriage.Rule.Dialect
import ErrorTriage.Settings

/-!
# Filter — what becomes of a captured error

A captured error is logged unless a filter whose assertion holds says otherwise: a filter without
notifiers dismisses the error, a filter with notifiers sends it to those alone.  Each decision
replaces the one before.  A filter that does not match or cannot be evaluated changes nothing.
-/

namespace ErrorTriage

/-- What should happen to an error. -/
inductive Decision where
  /-- It is logged and everyone is notified. -/
  | log
  | dismiss
  /-- It goes to these notifiers alone. -/
  | route (notifiers : NameSet)
deriving DecidableEq

namespace Decision

def isDismissed : Decision → Bool
  | .log => false
  | _ => true

def notifies (d : Decision) (name : String) : Bool :=
  match d with
  | .log => true
  | .dismiss => false
  | .route notifiers => notifiers.contains name

def members : Decision → List (String × Json)
  | .log => [("decision", .string "log")]
  | .dismiss => [("decision", .string "dismiss")]
  | .route notifiers =>
    [("decision", .string "route"), ("notifiers", Json.ofStrings notifiers.names)]

end Decision

/-- A captured error on its way through the filters. -/
structure Filtering where
  error : CapturedError
  ambient : Value
  decision : Decision := .log

namespace Filtering

def decide (s : Filtering) (d : Decision) : Filtering := { s with decision := d }

/-- The root that assertions are evaluated against. -/
def root (s : Filtering) : Value := evaluationRoot s.error s.ambient

end Filtering

structure EventFilter where
  assertion : Assertion
  notifiers : NameSet

namespace EventFilter

/-- The names of a list without the blanks around them and without empty ones. -/
def notifierSet (names : List String) : NameSet :=
  NameSet.ofList ((names.map Text.trim).filter fun name => !name.isEmpty)

/-- The filter of an assertion and names of notifiers. -/
def of (assertion : Assertion) (names : List String) : EventFilter :=
  ⟨assertion, notifierSet names⟩

def ofSettings (settings : FilterSettings) (dialect : Dialect) :
    Except RuleError EventFilter :=
  (dialect.build settings.test).map fun assertion => of assertion settings.notifiers

def decision (f : EventFilter) : Decision :=
  if f.notifiers.isEmpty then .dismiss else .route f.notifiers

def outcome (f : EventFilter) (s : Filtering) : Except EvaluationError Bool :=
  f.assertion.test s.root

/-- Applies the filter: its decision is recorded if it matches. -/
def apply (f : EventFilter) (s : Filtering) : Except EvaluationError Bool × Filtering :=
  match f.outcome s with
  | .ok true => (.ok true, s.decide f.decision)
  | .ok false => (.ok false, s)
  | .error e => (.error e, s)

end EventFilter

/-- Applies a filter, if there is one, and answers only whether it could be evaluated. -/
def applyIfAny (filter : Option EventFilter) (s : Filtering) :
    Except EvaluationError Unit × Filtering :=
  match filter with
  | none => (.ok (), s)
  | some f => ((f.outcome s).map fun _ => (), (f.apply s).2)

end ErrorTriage
