import ErrorTriage.Rule.Vocabulary

/-!
# Rule.Standard — the rules that are always known

Two constants, three ways to combine the rules under a node, two tests for null, six comparisons,
two checks of a type and the search for a pattern.
-/

namespace ErrorTriage
namespace Standard

def binding : Parameter := ⟨"binding", .expression, true⟩

/-- The expression of a rule that tests the error itself by default. -/
def optionalBinding : Parameter := ⟨"binding", .expression, false⟩

def typeCode : Parameter := ⟨"type", .typeCode, true⟩

def value : Parameter := ⟨"value", .text, true⟩

def namedType : Parameter := ⟨"type", .namedType, true⟩

def pattern : Parameter := ⟨"pattern", .text, false⟩

/-- Whether case counts in a pattern. -/
def caseSensitive : Parameter := ⟨"caseSensitive", .flag, false⟩

/-- A constant, whatever stands under the node. -/
def constant (b : Bool) : Builder := .leaf fun _ => .ok (.constant b)

/-- A combination of the rules under the node. -/
def logical (mode : Connective) : Builder := .composite (.logical mode)

def makeNullTest (wrap : Assertion → Assertion) : Taking Assertion := do
  return wrap (.isNull (← Taking.expression "binding"))

def nullTest (wrap : Assertion → Assertion) : Builder := .bound [binding] (makeNullTest wrap)

def makeComparison (relation : Comparison) (wrap : Assertion → Assertion) : Taking Assertion := do
  let e ← Taking.expression "binding"
  let code ← Taking.typeCode "type"
  let text ← Taking.text "value"
  return wrap (← Taking.ofLiteral (Assertion.compare e relation code text))

def comparison (relation : Comparison) (wrap : Assertion → Assertion) : Builder :=
  .bound [binding, typeCode, value] (makeComparison relation wrap)

def makeTypeCheck (byAssignability : Bool) : Taking Assertion := do
  let e ← Taking.optionalExpression "binding"
  let expected ← Taking.namedType "type"
  return Assertion.ofType e expected byAssignability

def typeCheck (byAssignability : Bool) : Builder :=
  .bound [optionalBinding, namedType] (makeTypeCheck byAssignability)

def makeSearch : Taking Assertion := do
  let e ← Taking.expression "binding"
  let text ← Taking.text "pattern"
  let sensitive ← Taking.flag "caseSensitive"
  Taking.ofPattern (Assertion.ofPattern? e text sensitive)

def regex : Builder := .bound [binding, pattern, caseSensitive] makeSearch

def builders : List (String × Builder) :=
  [("assert_true", constant true),
    ("assert_false", constant false),
    ("assert_and", logical .all),
    ("assert_or", logical .any),
    ("assert_not", logical .none),
    ("assert_is_null", nullTest id),
    ("assert_is_not_null", nullTest .not),
    ("assert_equal", comparison .equal id),
    ("assert_not_equal", comparison .equal .not),
    ("assert_lesser", comparison .lesser id),
    ("assert_lesser_or_equal", comparison .lesserOrEqual id),
    ("assert_greater", comparison .greater id),
    ("assert_greater_or_equal", comparison .greaterOrEqual id),
    ("assert_is_type", typeCheck false),
    ("assert_is_type_compatible", typeCheck true),
    ("assert_regex", regex)]

end Standard

def Vocabulary.standard : Vocabulary := Vocabulary.empty.install Standard.builders

end ErrorTriage
