import ErrorTriage.Path.Basic
import ErrorTriage.Literal.Typed

/-!
# Assertion.Expression — expressions over a context and runs that trace them

An expression is a path or a computation.  A `Run` is a result together with the expressions that
were evaluated on the way to it, in order; a failure ends a run and keeps what was evaluated before
it.
-/

namespace ErrorTriage

inductive EvaluationError where
  | nullContext
  | lookup (e : LookupError)
  /-- A literal has no value of its type. -/
  | literal (e : LiteralError)
  | expression (message : String)
deriving DecidableEq, Repr

def EvaluationError.message : EvaluationError → String
  | .nullContext => "Assertions cannot be tested against a null context"
  | .lookup e => e.message
  | .literal e => e.message
  | .expression message => "Context expression failed: " ++ message

inductive Expression where
  | path (p : Path)
  /-- A computation, with a label that it is traced by. -/
  | computed (label : String) (resolve : Value → Except EvaluationError Value)

namespace Expression

/-- The lenient path of a text. -/
def read (text : String) : Except PathSyntaxError Expression :=
  (Path.read text false).map .path

/-- The path to the error itself, which type checks look at by default. -/
def exception : Expression :=
  .path ⟨"Exception", [.member "Exception"], false⟩

def evaluate (context : Value) : Expression → Except EvaluationError Value
  | .path p => (p.evaluate context).mapError .lookup
  | .computed _ resolve => resolve context

def text : Expression → String
  | .path p => p.text
  | .computed _ _ => "<delegate>"

/-- How an expression is shown with its parts. -/
def description : Expression → String
  | .path p => p.description
  | .computed _ _ => "Delegate(..)"

end Expression

/-! ## Runs -/

/-- A result and the expressions that were evaluated for it. -/
structure Run (α : Type) where
  /-- The expressions, in the order of their evaluation. -/
  evaluated : List Expression
  result : Except EvaluationError α

namespace Run

variable {α β : Type}

def done (a : α) : Run α := ⟨[], .ok a⟩

def fail (e : EvaluationError) : Run α := ⟨[], .error e⟩

/-- One run and then, if it did not fail, another. -/
def andThen (r : Run α) (next : α → Run β) : Run β :=
  match r.result with
  | .ok a => ⟨r.evaluated ++ (next a).evaluated, (next a).result⟩
  | .error e => ⟨r.evaluated, .error e⟩

instance : Monad Run where
  pure := done
  bind := andThen

def evaluating (context : Value) (e : Expression) : Run Value :=
  ⟨[e], e.evaluate context⟩

@[simp] theorem pure_eq (a : α) : (pure a : Run α) = done a := rfl

@[simp] theorem bind_eq (r : Run α) (next : α → Run β) : r >>= next = r.andThen next := rfl

/-- A run that evaluates nothing hands its result on. -/
@[simp] theorem done_andThen (a : α) (next : α → Run β) : (done a).andThen next = next a := by
  simp [andThen, done]

@[simp] theorem fail_andThen (e : EvaluationError) (next : α → Run β) :
    (fail e).andThen next = fail e := rfl

/-- A run is the same with nothing done after it. -/
@[simp] theorem andThen_done (r : Run α) : r.andThen done = r := by
  obtain ⟨evaluated, result⟩ := r
  cases result <;> simp [andThen, done]

/-- How a sequence of runs is grouped leaves the trace and the result as they are. -/
theorem andThen_assoc {γ : Type} (r : Run α) (f : α → Run β) (g : β → Run γ) :
    (r.andThen f).andThen g = r.andThen fun a => (f a).andThen g := by
  obtain ⟨evaluated, result⟩ := r
  cases result with
  | error e => rfl
  | ok a =>
    simp only [andThen]
    cases (f a).result <;> simp

end Run
end ErrorTriage
