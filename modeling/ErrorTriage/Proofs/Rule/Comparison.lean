import ErrorTriage.Proofs.Literal.Order
import ErrorTriage.Proofs.Rule.Failure
import ErrorTriage.Proofs.Rule.Meaning

/-!
# Rule.Comparison — the six comparison rules agree with one another

Nodes that differ in which of the six rules they ask for fail together or are built together.  What
was built compares one value with one literal, so in a context the six answers are those of one
order, or of none: the answers cannot contradict each other.

A value and a literal of one code are converted to literals of one kind.  Of these only doubles can
have no order, when one of the two is NaN.  A double that is compared as a text or as a truth value
is none anymore, whatever it was before.
-/

namespace ErrorTriage

/-! ## Errors up to the name of a rule -/

/-- An error of the parameters of a rule, told of a rule of another name. -/
def RuleError.named (name : String) : RuleError → RuleError
  | .missingParameter _ parameter => .missingParameter name parameter
  | .invalidParameter _ parameter value fault => .invalidParameter name parameter value fault
  | e => e

namespace Standard

/-! ## The six rules -/

/-- What a comparison rule says of a value and a literal. -/
inductive Relation where
  | equal
  | notEqual
  | lesser
  | lesserOrEqual
  | greater
  | greaterOrEqual
deriving DecidableEq

namespace Relation

def name : Relation → String
  | .equal => "equal"
  | .notEqual => "not-equal"
  | .lesser => "lesser"
  | .lesserOrEqual => "lesser-or-equal"
  | .greater => "greater"
  | .greaterOrEqual => "greater-or-equal"

/-- The comparison that the rule makes, or whose result it turns around. -/
def comparison : Relation → Comparison
  | .equal => .equal
  | .notEqual => .equal
  | .lesser => .lesser
  | .lesserOrEqual => .lesserOrEqual
  | .greater => .greater
  | .greaterOrEqual => .greaterOrEqual

/-- Whether the rule turns the result of its comparison around. -/
def isNegated (r : Relation) : Bool := r == .notEqual

def rule (r : Relation) : Rule := .comparison r.comparison r.isNegated

theorem ofName?_name (r : Relation) : Rule.ofName? r.name = some r.rule := by
  cases r <;> decide +kernel

def on (r : Relation) (node : RuleNode) : RuleNode := { node with name := r.name, locator := none }

@[simp] theorem parameter?_on (r : Relation) (node : RuleNode) (name : String) :
    (r.on node).parameter? name = node.parameter? name := rfl

/-- Whether the rule holds of two sides with an order, or without one. -/
def admits (r : Relation) (order : Option Ordering) : Bool :=
  r.isNegated ^^ order.any r.comparison.admits

end Relation

/-- The answers of the six rules do not contradict one another. -/
structure AreCoherent (holds : Relation → Bool) : Prop where
  not_lesser_and_equal : ¬(holds .lesser = true ∧ holds .equal = true)
  not_lesser_and_greater : ¬(holds .lesser = true ∧ holds .greater = true)
  not_equal_and_greater : ¬(holds .equal = true ∧ holds .greater = true)
  lesserOrEqual_iff : holds .lesserOrEqual = true ↔ holds .lesser = true ∨ holds .equal = true
  greaterOrEqual_iff : holds .greaterOrEqual = true ↔ holds .greater = true ∨ holds .equal = true
  notEqual_iff : holds .notEqual = true ↔ ¬holds .equal = true

/-- The relations are coherent on every order, also where there is none. -/
theorem areCoherent_admits (order : Option Ordering) : AreCoherent fun r => r.admits order := by
  cases order with
  | none => constructor <;> decide
  | some order => cases order <;> constructor <;> decide

/-- Two sides without an order are those that none of the rules holds of but the negated one. -/
theorem admits_eq_false_iff (order : Option Ordering) :
    (∀ r : Relation, r ≠ .notEqual → r.admits order = false) ↔ order = none := by
  constructor
  · intro h
    cases order with
    | none => rfl
    | some order =>
        cases order with
        | lt => exact absurd (h .lesser (by decide)) (by decide)
        | eq => exact absurd (h .equal (by decide)) (by decide)
        | gt => exact absurd (h .greater (by decide)) (by decide)
  · rintro rfl r hr
    cases r <;> first | rfl | exact absurd rfl hr

/-! ## Parameters -/

variable {types : TypeTable} {node : RuleNode}

/-- The name of a node is read for the errors of its parameters alone. -/
theorem reading_on (r : Relation) (p : Parameter) :
    p.reading types (r.on node) = (p.reading types node).mapError (.named r.name) := by
  rcases p with ⟨name, kind, required⟩
  simp only [Parameter.reading, Relation.parameter?_on]
  cases node.parameter? name with
  | none => cases required <;> rfl
  | some text =>
      cases kind with
      | expression =>
          simp only [Parameter.convert]
          cases Expression.read text <;> rfl
      | namedType =>
          simp only [Parameter.convert]
          cases Text.isBlankText text <;> rfl
      | flag => rfl
      | typeCode =>
          simp only [Parameter.convert]
          cases TypeCode.ofText? text <;> rfl
      | integer =>
          simp only [Parameter.convert]
          cases Integer.read64 (Text.trimList text.toList) <;> rfl
      | text => rfl

/-- A parameter has the same defect under every relation, up to the name of the rule in it. -/
theorem defect?_on (r : Relation) (p : Parameter) :
    p.defect? types (r.on node) = (p.defect? types node).map (.named r.name) := by
  simp only [Parameter.defect?, reading_on]
  cases p.reading types node <;> rfl

theorem findSome?_defect?_on (r : Relation) (params : List Parameter) :
    params.findSome? (·.defect? types (r.on node)) =
      (params.findSome? (·.defect? types node)).map (.named r.name) := by
  simp only [List.map_findSome?, Function.comp_def, defect?_on]

/-- The texts of a comparison and what they are read as. -/
structure Operands (node : RuleNode) (e : Expression) (code : TypeCode) (text : String) :
    Prop where
  expression : (node.parameter? "binding").map Expression.read = some (.ok e)
  typeCode : (node.parameter? "type").bind TypeCode.ofText? = some code
  value : node.parameter? "value" = some text

/-- A comparison is made only if all its operands can be read. -/
theorem exists_operands_of_makes {relation : Comparison} {negated : Bool}
    {result : Except RuleError Assertion}
    (h : Rule.Makes types node (.comparison relation negated) result) :
    ∃ e code text, Operands node e code text := by
  cases h with
  | @comparison _ _ text e code _ _ hpath he hcodeText hcode htext =>
      exact ⟨e, code, text, by simp [hpath, he], by simp [hcodeText, hcode], htext⟩

/-- What is made of a comparison whose texts are read. -/
theorem Operands.eq_of_makes {e : Expression} {code : TypeCode} {text : String}
    (h : Operands node e code text) {relation : Comparison} {negated : Bool}
    {result : Except RuleError Assertion}
    (hmakes : Rule.Makes types node (.comparison relation negated) result) :
    result = ((Assertion.compare e relation code text).map (Rule.wrap negated)).mapError
      fun found => .evaluation (.literal found) := by
  cases hmakes with
  | @comparison _ _ text' e' code' _ _ hpath he hcodeText hcode htext =>
      have hexpression : e' = e := by simpa [hpath, he] using h.expression
      have htypeCode : code' = code := by simpa [hcodeText, hcode] using h.typeCode
      have hvalue : text' = text := by simpa [htext] using h.value
      rw [hexpression, htypeCode, hvalue]

/-- The operands do not depend on the relation. -/
theorem operands_on_iff {r : Relation} {e : Expression} {code : TypeCode} {text : String} :
    Operands (r.on node) e code text ↔ Operands node e code text :=
  ⟨fun h => ⟨h.expression, h.typeCode, h.value⟩, fun h => ⟨h.expression, h.typeCode, h.value⟩⟩

/-- The path of the operands is in the binding. -/
theorem Operands.exists_path {e : Expression} {code : TypeCode} {text : String}
    (h : Operands node e code text) :
    ∃ path, node.parameter? "binding" = some path ∧ Expression.read path = .ok e :=
  Option.map_eq_some_iff.1 h.expression

/-! ## Building -/

/-- A defect under the name of its rule has that rule as its trail. -/
theorem trail_and_root_named {e : RuleError} (h : IsDefect node e) (name : String) :
    (RuleError.whileBuilding name (e.named name)).trail = [name] ∧
      (RuleError.whileBuilding name (e.named name)).root = e.named name := by
  cases h <;> exact ⟨rfl, rfl⟩

/-- A comparison fails with the first defect of its parameters, or it makes what its texts say. -/
theorem build_on (types : TypeTable) (node : RuleNode) (r : Relation) (modules : ModuleTable) :
    ∃ result, (dialect modules types).build (r.on node) =
        result.mapError (.whileBuilding r.name) ∧
      match [binding, Standard.typeCode, value].findSome? (·.defect? types node) with
      | some e => result = .error (e.named r.name)
      | none => r.rule.Makes types (r.on node) result := by
  have hplain : (r.on node).locator = none := rfl
  rcases build_of_mode?_eq_none hplain r.ofName?_name rfl modules types with
    ⟨result, hbuild, hresult⟩
  refine ⟨result, hbuild, ?_⟩
  change match [binding, Standard.typeCode, value].findSome? (·.defect? types (r.on node)) with
    | some e => result = .error e
    | none => r.rule.Makes types (r.on node) result at hresult
  rw [findSome?_defect?_on] at hresult
  cases hfound : [binding, Standard.typeCode, value].findSome? (·.defect? types node) with
  | none => simpa only [hfound, Option.map_none] using hresult
  | some e => simpa only [hfound, Option.map_some] using hresult

/-- A defect of a parameter is the error of all six rules. -/
theorem build_of_defect {found : RuleError}
    (h : [binding, Standard.typeCode, value].findSome? (·.defect? types node) = some found)
    (modules : ModuleTable) (r : Relation) :
    (dialect modules types).build (r.on node) =
      .error (.whileBuilding r.name (found.named r.name)) := by
  rcases build_on types node r modules with ⟨result, hbuild, hresult⟩
  simp only [h] at hresult
  rw [hbuild, hresult, mapError_error]

/-- Without a defect all six rules compare the same expression with the same literal. -/
theorem exists_operands_of_no_defect
    (h : [binding, Standard.typeCode, value].findSome? (·.defect? types node) = none)
    (modules : ModuleTable) :
    ∃ e code text, Operands node e code text ∧
      ∀ r : Relation, (dialect modules types).build (r.on node) =
        (((TypedLiteral.read code text).map fun literal =>
          Rule.wrap r.isNegated (.comparison e r.comparison literal)).mapError
            fun found => .evaluation (.literal found)).mapError (.whileBuilding r.name) := by
  have hmade (r : Relation) : ∃ result,
      (dialect modules types).build (r.on node) = result.mapError (.whileBuilding r.name) ∧
        r.rule.Makes types (r.on node) result := by
    simpa only [h] using build_on types node r modules
  -- The operands are those of the node, so they are found with any of the six rules.
  rcases hmade .equal with ⟨_, _, hequal⟩
  rcases exists_operands_of_makes hequal with ⟨e, code, text, hoperands⟩
  refine ⟨e, code, text, operands_on_iff.1 hoperands, fun r => ?_⟩
  rcases hmade r with ⟨result, hbuild, hmakes⟩
  have hr : Operands (r.on node) e code text := operands_on_iff.2 (operands_on_iff.1 hoperands)
  rw [hbuild, hr.eq_of_makes hmakes, Assertion.compare]
  cases TypedLiteral.read code text <;> rfl

/-! ## Testing -/

/-- The order of a value against a literal; null has none. -/
def orderAgainst? (literal : TypedLiteral) (v : Value) : Option Ordering :=
  if v.isNull then none else literal.order? v

/-- A comparison holds if its relation admits the order of value and literal. -/
theorem compares_eq_any (relation : Comparison) (literal : TypedLiteral) (v : Value) :
    Assertion.compares relation literal v = (orderAgainst? literal v).any relation.admits := by
  simp only [Assertion.compares, orderAgainst?]
  cases v.isNull <;> rfl

/-- Why a value has no order against a literal that was read. -/
theorem orderAgainst?_eq_none_iff {code : TypeCode} {expected : Literal}
    (hexpected : expected.IsOf code) (v : Value) :
    orderAgainst? ⟨code, expected⟩ v = none ↔
      v.isNull = true ∨ Literal.convert? code v = none ∨
        Literal.convert? code v = some (.float .nan) ∨ expected = .float .nan := by
  simp only [orderAgainst?, TypedLiteral.order?]
  cases hnull : v.isNull with
  | true => simp
  | false =>
      cases hfound : Literal.convert? code v with
      | none => simp
      | some found =>
          have horder := Literal.order?_eq_none_iff (Literal.isOf_of_convert? hfound) hexpected
          simpa using horder

/-- What is made of a comparison is tested by the order of the value of its expression. -/
theorem test_comparison {path : String} {e : Expression} (he : Expression.read path = .ok e)
    (r : Relation) (literal : TypedLiteral) {context : Value}
    (hcontext : context.isNull = false) :
    (Rule.wrap r.isNegated (.comparison e r.comparison literal)).test context =
      .ok (r.admits (orderAgainst? literal (context.leniently path))) := by
  have hvalue := Expression.evaluate_of_read he context
  have hsettles : Settles context (.comparison e r.comparison literal)
      (Assertion.compares r.comparison literal (context.leniently path)) := by
    simp only [Settles, Assertion.run]
    exact settles_evaluating hvalue _
  rw [compares_eq_any] at hsettles
  exact test_of_settles (settles_wrap hsettles r.isNegated) hcontext

/-- Nodes that differ in which of the six rules they ask for are not built with one error, up to the
name of the rule, or are all built.  What was built agrees in every context that is not null, and
none of the ordered rules holds exactly if the value of the expression is null or does not convert
to the type, or one of the two sides is NaN. -/
theorem comparisons_cohere (modules : ModuleTable) (types : TypeTable) (node : RuleNode) :
    (∃ found : RuleError, ∀ r : Relation, ∃ e,
      (dialect modules types).build (r.on node) = .error e ∧ e.trail = [r.name] ∧
        e.root = found.named r.name) ∨
    ∃ (assertion : Relation → Assertion) (code : TypeCode) (expected : Literal),
      (∀ r : Relation, (dialect modules types).build (r.on node) = .ok (assertion r)) ∧
      (node.parameter? "type").bind TypeCode.ofText? = some code ∧
      (node.parameter? "value").bind (fun text => Literal.convert? code (.str text)) =
        some expected ∧
      ∀ context : Value, context.isNull = false →
        ∃ holds : Relation → Bool, (∀ r, (assertion r).test context = .ok (holds r)) ∧
          AreCoherent holds ∧
          ((∀ r, r ≠ .notEqual → holds r = false) ↔
            (boundValue context node).isNull = true ∨
              Literal.convert? code (boundValue context node) = none ∨
              Literal.convert? code (boundValue context node) = some (.float .nan) ∨
              expected = .float .nan) := by
  cases hdefect : [binding, Standard.typeCode, value].findSome? (·.defect? types node) with
  | some found =>
      rcases List.exists_of_findSome?_eq_some hdefect with ⟨p, _, hp⟩
      refine .inl ⟨found, fun r => ⟨_, build_of_defect hdefect modules r, ?_⟩⟩
      exact trail_and_root_named (isDefect_of_parameter hp) r.name
  | none =>
      rcases exists_operands_of_no_defect hdefect modules with ⟨e, code, text, hoperands, hbuild⟩
      cases hread : TypedLiteral.read code text with
      | error found =>
          simp only [hread, Except.map, mapError_error] at hbuild
          have hdefective : IsDefect node (.evaluation (.literal found)) := .evaluation _
          exact .inl ⟨_, fun r => ⟨_, hbuild r, trail_and_root_named hdefective r.name⟩⟩
      | ok literal =>
          simp only [hread, Except.map, mapError_ok] at hbuild
          rcases TypedLiteral.value_of_read hread with ⟨rfl, hexpected⟩
          rcases hoperands.exists_path with ⟨path, hpath, he⟩
          refine .inr ⟨_, literal.code, literal.value, hbuild, hoperands.typeCode, ?_, ?_⟩
          · rw [hoperands.value]
            exact hexpected
          · intro context hcontext
            let order := orderAgainst? literal (context.leniently path)
            refine ⟨fun r => r.admits order, fun r => test_comparison he r literal hcontext,
              areCoherent_admits order, ?_⟩
            rw [admits_eq_false_iff, boundValue_eq hpath]
            exact orderAgainst?_eq_none_iff (Literal.isOf_of_convert? hexpected) _

/-- A comparison of a status with 404, both as doubles. -/
def statusComparison : RuleNode :=
  ⟨"equal", none, .ofList [("binding", "Status"), ("type", "double"), ("value", " 4.04e2 ")], []⟩

theorem comparisons_cohere_status :
    missingPage.isNull = false ∧
    ∃ assertion : Relation → Assertion,
      (∀ r : Relation, (dialect {} .standard).build (r.on statusComparison) = .ok (assertion r)) ∧
      (assertion .lesserOrEqual).test missingPage = .ok true ∧
      (assertion .greater).test missingPage = .ok false := by
  have hcontext : missingPage.isNull = false := rfl
  have hplain : (Relation.equal.on statusComparison).isUnqualified = true := by decide +kernel
  have hequal : holds .standard missingPage (Relation.equal.on statusComparison) = true := by
    decide +kernel
  have hbuilt : failure? ((dialect {} .standard).build (Relation.equal.on statusComparison)) =
      none := by
    decide +kernel
  rcases comparisons_cohere {} .standard statusComparison with
    ⟨found, hfails⟩ | ⟨assertion, _, _, hbuild, _, _, htest⟩
  · rcases hfails .equal with ⟨e, he, _⟩
    simp [he] at hbuilt
  · rcases htest missingPage hcontext with ⟨verdict, hverdict, hcoherent, _⟩
    have hsettles := settles_build .standard {} missingPage _ hplain (hbuild .equal)
    have hsame := (hverdict .equal).symm.trans (test_of_settles hsettles hcontext)
    have hholds : verdict .equal = true := (Except.ok.inj hsame).trans hequal
    have hatMost : verdict .lesserOrEqual = true := hcoherent.lesserOrEqual_iff.2 (.inr hholds)
    have hnotGreater : verdict .greater = false := by
      simpa [hholds] using hcoherent.not_equal_and_greater
    exact ⟨hcontext, assertion, hbuild, (hverdict _).trans (congrArg _ hatMost),
      (hverdict _).trans (congrArg _ hnotGreater)⟩

end Standard
end ErrorTriage
