import ErrorTriage.Assertion.Expression
import ErrorTriage.Assertion.NamedType
import ErrorTriage.Pattern.Search

/-!
# Assertion — composable tests of an error's context

An assertion is a tree of tests.  Testing walks the tree from the left and stops as soon as the
answer is known, so an expression that is not needed is not evaluated and cannot fail.  A list of
assertions never holds when it is empty, in whatever way it is combined.
-/

namespace ErrorTriage

inductive Connective where
  | all
  | any
  | none
deriving DecidableEq, Repr

/-- A test of a context. -/
inductive Assertion where
  | constant (b : Bool)
  | isNull (e : Expression)
  | not (a : Assertion)
  /-- Holds if an expression is ordered against a literal as asked for. -/
  | comparison (e : Expression) (relation : Comparison) (expected : TypedLiteral)
  /-- Holds if an expression has a type, or is assignable to it. -/
  | typeCheck (e : Expression) (expected : NamedType) (byAssignability : Bool)
  /-- Holds if a pattern is found in the text of an expression. -/
  | matching (e : Expression) (pattern : Pattern)
  | logical (mode : Connective) (children : List Assertion)

namespace Assertion

/-! ## Building -/

/-- The comparison with a literal that is given as text. -/
def compare (e : Expression) (relation : Comparison) (code : TypeCode) (text : String) :
    Except LiteralError Assertion :=
  (TypedLiteral.read code text).map (.comparison e relation)

/-- The check of a type, of the error itself if no expression is given. -/
def ofType (e : Option Expression) (expected : NamedType) (byAssignability : Bool) : Assertion :=
  .typeCheck (e.getD .exception) expected (byAssignability || expected.isNeverExact)

/-- The search for a pattern, unless the text is no pattern.  The empty pattern asks for nothing
and never holds. -/
def ofPattern? (e : Expression) (pattern : String) (caseSensitive : Bool) : Option Assertion :=
  if pattern.isEmpty then some (.constant false)
  else (Pattern.read? pattern (!caseSensitive)).map (.matching e)

/-! ## Testing -/

/-- Whether a value is ordered against a literal as asked for; null is not. -/
def compares (relation : Comparison) (expected : TypedLiteral) (actual : Value) : Bool :=
  !actual.isNull && (expected.order? actual).any relation.admits

/-- Whether a value has a type or, on demand, is assignable to it; everything but null is
assignable to `Object`. -/
def hasType (expected : NamedType) (byAssignability : Bool) (actual : Value) : Bool :=
  !actual.isNull && (actual.typeName == expected.name
    || (byAssignability && (expected.name == "Object" || actual.ancestry.contains expected.name)))

mutual

/-- Tests an assertion in a context that is not null. -/
def run (context : Value) : Assertion → Run Bool
  | .constant b => .done b
  | .isNull e => (Run.evaluating context e).andThen fun v => .done v.isNull
  | .not a => (run context a).andThen fun b => .done (!b)
  | .comparison e relation expected =>
    (Run.evaluating context e).andThen fun v => .done (compares relation expected v)
  | .typeCheck e expected byAssignability =>
    (Run.evaluating context e).andThen fun v => .done (hasType expected byAssignability v)
  | .matching e pattern =>
    (Run.evaluating context e).andThen fun v => .done (pattern.isFoundIn v.text)
  | .logical mode children =>
    if children.isEmpty then .done false
    else match mode with
      | .all => runAll context children
      | .any => runAny context children
      | .none => runNone context children

/-- Whether all of a list hold; stops at the first that does not. -/
def runAll (context : Value) : List Assertion → Run Bool
  | [] => .done true
  | a :: rest => (run context a).andThen fun b => if b then runAll context rest else .done false

/-- Whether one of a list holds; stops at the first that does. -/
def runAny (context : Value) : List Assertion → Run Bool
  | [] => .done false
  | a :: rest => (run context a).andThen fun b => if b then .done true else runAny context rest

/-- Whether none of a list holds; stops at the first that does. -/
def runNone (context : Value) : List Assertion → Run Bool
  | [] => .done true
  | a :: rest => (run context a).andThen fun b => if b then .done false else runNone context rest

end

/-- Tests an assertion, with a trace. -/
def trace (a : Assertion) (context : Value) : Run Bool :=
  if context.isNull then .fail .nullContext else a.run context

def test (a : Assertion) (context : Value) : Except EvaluationError Bool :=
  (a.trace context).result

end Assertion
end ErrorTriage
