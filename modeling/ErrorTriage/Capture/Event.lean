import ErrorTriage.Capture.CapturedError
import ErrorTriage.Capture.Request

/-!
# Capture.Event — a captured error with what was around it

The root that rules are evaluated against joins an error and the ambient value: it exposes the
error, the innermost error of its chain, the first status code of the chain and the ambient value.
An event is such a pair as it is kept in a file.
-/

namespace ErrorTriage

def rootMember? (error : CapturedError) (ambient : Value) (name : String) : Option Value :=
  match name with
  | "Exception" => some error.toValue
  | "BaseException" => some error.baseError.toValue
  | "HttpStatusCode" => some (.int error.statusCode)
  | "StatusCode" => some (.int error.statusCode)
  | "Context" => some ambient
  | _ => none

/-- The root of evaluation for an error and the ambient value. -/
def evaluationRoot (error : CapturedError) (ambient : Value) : Value :=
  .object "ErrorFilterContext" [] "ErrorFilterContext" (rootMember? error ambient) fun _ => none

/-- A captured error, and the request during which it occurred if there was one. -/
structure Event where
  error : CapturedError
  context : Option RequestContext := none

namespace Event

def ambient (e : Event) : Value :=
  match e.context with
  | some context => context.toValue
  | none => .null

/-- Reads an event; it needs an error. -/
def ofJson? (j : Json) : Option Event := do
  match ← j.fields? ["exception", "context"] with
  | [some error, context] =>
    return {
      error := ← CapturedError.ofJson? error
      context := ← Json.orElse none (Json.nullable? RequestContext.ofJson?) context }
  | _ => none

end Event
end ErrorTriage
