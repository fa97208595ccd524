import ErrorTriage.Path.Reader
import ErrorTriage.Text.Quoted

/-!
# Path — a path bound to one of the two ways to walk it

The path keeps its text without the blanks around it, which is how it is shown.
-/

namespace ErrorTriage

/-- A path that has been read, with the way to walk it. -/
structure Path where
  /-- The text, without blanks around it. -/
  text : String
  steps : List Step
  /-- Whether a miss is an error. -/
  strict : Bool
deriving DecidableEq, Repr

namespace Path

def read (text : String) (strict : Bool) : Except PathSyntaxError Path :=
  (Path.readSteps text).map fun steps => ⟨Text.trim text, steps, strict⟩

def evaluate (p : Path) (root : Value) : Except LookupError Value :=
  root.walk p.strict p.steps

/-- The path with its text in quotes. -/
def description (p : Path) : String :=
  "PathExpression(" ++ Text.quoted p.text ++ ", strict="
    ++ (if p.strict then "true" else "false") ++ ")"

end Path

/-! ## Reading and walking at once -/

/-- What evaluating the text of a path can fail with. -/
inductive PathError where
  | format (e : PathSyntaxError)
  /-- A strict look-up found nothing. -/
  | lookup (e : LookupError)
deriving DecidableEq, Repr

/-- Reads a path into the function that walks it. -/
def Path.walker (text : String) (strict : Bool) :
    Except PathSyntaxError (Value → Except LookupError Value) :=
  (Path.readSteps text).map fun steps root => root.walk strict steps

/-- Reads a path and walks it from a root. -/
def Value.atPath (root : Value) (text : String) (strict : Bool) : Except PathError Value :=
  match Path.readSteps text with
  | .error e => .error (.format e)
  | .ok steps =>
    match root.walk strict steps with
    | .error e => .error (.lookup e)
    | .ok v => .ok v

end ErrorTriage
