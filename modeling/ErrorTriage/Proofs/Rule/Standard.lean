import ErrorTriage.Proofs.Outcome
import ErrorTriage.Proofs.Rule.Binding
import ErrorTriage.Proofs.Rule.Taking
import ErrorTriage.Proofs.Rule.Tree

/-!
# Rule.Standard — the standard rules as a table and what their builders make

A standard rule is known by its plain name.  The vocabulary is compared with a table of these names
once; after that a proof about the rules is by cases on what a rule asks for.  For every builder
with parameters there is one lemma that says which texts it reads and what it makes of them.
-/

namespace ErrorTriage
namespace Standard

/-! ## The table of rules -/

inductive Rule where
  | constant (b : Bool)
  /-- A combination of the rules under it. -/
  | logical (mode : Connective)
  | nullTest (negated : Bool)
  /-- Whether an expression is ordered against a literal in a way. -/
  | comparison (relation : Comparison) (negated : Bool)
  /-- Whether an expression has a type. -/
  | typeCheck (byAssignability : Bool)
  | search
deriving DecidableEq

/-- The name of a rule without blanks around it and with underscores for hyphens. -/
def plainName (name : String) : String :=
  String.ofList ((Text.trimList name.toList).map fun c => if c = '-' then '_' else c)

theorem builderName_eq (name : String) : builderName name = "assert_" ++ plainName name := rfl

namespace Rule

/-- The rules by their plain names. -/
def table : List (String × Rule) :=
  [("true", .constant true),
    ("false", .constant false),
    ("and", .logical .all),
    ("or", .logical .any),
    ("not", .logical .none),
    ("is_null", .nullTest false),
    ("is_not_null", .nullTest true),
    ("equal", .comparison .equal false),
    ("not_equal", .comparison .equal true),
    ("lesser", .comparison .lesser false),
    ("lesser_or_equal", .comparison .lesserOrEqual false),
    ("greater", .comparison .greater false),
    ("greater_or_equal", .comparison .greaterOrEqual false),
    ("is_type", .typeCheck false),
    ("is_type_compatible", .typeCheck true),
    ("regex", .search)]

def ofName? (name : String) : Option Rule := SortedMap.lookup (plainName name) table

/-- The assertion, or its negation. -/
def wrap : Bool → Assertion → Assertion
  | true => .not
  | false => id

def builder : Rule → Builder
  | .constant b => Standard.constant b
  | .logical mode => Standard.logical mode
  | .nullTest negated => Standard.nullTest (wrap negated)
  | .comparison relation negated => Standard.comparison relation (wrap negated)
  | .typeCheck byAssignability => Standard.typeCheck byAssignability
  | .search => Standard.regex

end Rule

/-! ## The vocabulary is the table -/

theorem builders_install (v : Vocabulary) (builders : List (String × Builder)) :
    (v.install builders).builders =
      builders.foldl (fun m b => m.insert b.1 b.2) v.builders := by
  induction builders generalizing v with
  | nil => rfl
  | cons entry rest ih => exact ih (v.register entry.1 entry.2)

/-- Of builders with one name, the one installed last is found. -/
theorem get?_install_reverse (v : Vocabulary) (builders : List (String × Builder)) (key : String) :
    (v.install builders).get? key =
      (SortedMap.lookup key builders.reverse).or (v.get? key) := by
  rw [Vocabulary.get?, builders_install, SortedMap.get?_foldl_insert]
  rfl

/-- What is installed is found first, then what was there. -/
theorem get?_install {builders : List (String × Builder)} (hnames : (builders.map (·.1)).Nodup)
    (v : Vocabulary) (key : String) :
    (v.install builders).get? key = (SortedMap.lookup key builders).or (v.get? key) := by
  rw [get?_install_reverse, SortedMap.lookup_reverse hnames]

/-- With the same beginning on every name the same rule is found. -/
theorem lookup_prefixed (start key : String) (entries : List (String × Rule)) :
    SortedMap.lookup (start ++ key) (entries.map fun e => (start ++ e.1, e.2.builder)) =
      (SortedMap.lookup key entries).map Rule.builder := by
  induction entries with
  | nil => rfl
  | cons entry rest ih =>
      rcases entry with ⟨name, rule⟩
      by_cases h : name = key
      · simp [SortedMap.lookup, h]
      · simpa [SortedMap.lookup, h] using ih

theorem builders_eq_table :
    builders = Rule.table.map fun e => ("assert_" ++ e.1, e.2.builder) := by
  simp [builders, Rule.table, Rule.builder, Rule.wrap]

/-- The standard vocabulary has a builder for exactly the names of rules. -/
theorem get?_standard (name : String) :
    Vocabulary.standard.get? (builderName name) = (Rule.ofName? name).map Rule.builder := by
  have hnames : (builders.map (·.1)).Nodup := by decide
  calc Vocabulary.standard.get? (builderName name)
      = (SortedMap.lookup (builderName name) builders).or
          (Vocabulary.empty.get? (builderName name)) :=
        get?_install hnames Vocabulary.empty (builderName name)
    _ = SortedMap.lookup (builderName name) builders := Option.or_none
    _ = SortedMap.lookup ("assert_" ++ plainName name)
          (Rule.table.map fun e => ("assert_" ++ e.1, e.2.builder)) := by
        simp only [builders_eq_table, builderName_eq]
    _ = (Rule.ofName? name).map Rule.builder :=
        lookup_prefixed "assert_" (plainName name) Rule.table

/-- A dialect whose unqualified rules are the standard ones. -/
def dialect (modules : ModuleTable) (types : TypeTable) : Dialect := ⟨.standard, modules, types⟩

/-- A plain rule has the builder of its name. -/
theorem builderOf_dialect {node : RuleNode} (h : node.locator = none) (modules : ModuleTable)
    (types : TypeTable) :
    (dialect modules types).builderOf node =
      match Rule.ofName? node.name with
      | some rule => .ok rule.builder
      | none => .error (.missingBuilder node.name (builderName node.name)) := by
  simp only [Dialect.builderOf_of_locator_eq_none h, dialect, get?_standard]
  cases Rule.ofName? node.name <;> rfl

/-! ## What the parameters read as -/

section Readings

variable {types : TypeTable} {node : RuleNode} {p : Parameter} {arg? : Option Argument}

/-- A required parameter is read only if its text is there. -/
theorem reading_required (hrequired : p.required = true) (h : p.reading types node = .ok arg?) :
    ∃ text arg, node.parameter? p.name = some text ∧ arg? = some arg ∧ arg.kind = p.kind ∧
      arg.StandsFor types text := by
  rcases Parameter.reading_eq_ok h with ⟨hoptional, _, _⟩ | hgiven
  · simp [hrequired] at hoptional
  · exact hgiven

/-- The binding is read as the path in it. -/
theorem reading_binding (h : binding.reading types node = .ok arg?) :
    ∃ text e, node.parameter? "binding" = some text ∧ Expression.read text = .ok e ∧
      arg? = some (.expression e) := by
  rcases reading_required rfl h with ⟨text, arg, htext, harg, hkind, hstands⟩
  cases arg <;> cases hkind
  exact ⟨text, _, htext, hstands, harg⟩

theorem reading_typeCode (h : typeCode.reading types node = .ok arg?) :
    ∃ text code, node.parameter? "type" = some text ∧ TypeCode.ofText? text = some code ∧
      arg? = some (.typeCode code) := by
  rcases reading_required rfl h with ⟨text, arg, htext, harg, hkind, hstands⟩
  cases arg <;> cases hkind
  exact ⟨text, _, htext, hstands, harg⟩

theorem reading_value (h : value.reading types node = .ok arg?) :
    ∃ text, node.parameter? "value" = some text ∧ arg? = some (.text text) := by
  rcases reading_required rfl h with ⟨text, arg, htext, harg, hkind, hstands⟩
  cases arg <;> cases hkind
  cases hstands
  exact ⟨text, htext, harg⟩

/-- A type is read as what its name resolves to. -/
theorem reading_namedType (h : namedType.reading types node = .ok arg?) :
    ∃ text, node.parameter? "type" = some text ∧
      arg? = some (.namedType (types.resolve text)) := by
  rcases reading_required rfl h with ⟨text, arg, htext, harg, hkind, hstands⟩
  cases arg <;> cases hkind
  rcases hstands with ⟨_, rfl⟩
  exact ⟨text, htext, harg⟩

theorem read_exception : Expression.read "Exception" = .ok .exception := by
  have hsteps : Path.readSteps "Exception" = .ok [.member "Exception"] :=
    value?_eq_some_iff.1 (by decide +kernel)
  have htrim : Text.trim "Exception" = "Exception" := by decide +kernel
  simp [Expression.read, Path.read, hsteps, htrim, Except.map, Expression.exception]

/-- An expression that is not given reads as the path to the error itself. -/
theorem reading_optionalBinding (h : optionalBinding.reading types node = .ok arg?) :
    ∃ e? : Option Expression, arg? = e?.map .expression ∧
      Expression.read ((node.parameter? "binding").getD "Exception") =
        .ok (e?.getD .exception) := by
  rcases Parameter.reading_eq_ok h with ⟨_, htext, harg⟩ | ⟨text, arg, htext, harg, hkind, hstands⟩
  · have hdefault : node.parameter? "binding" = none := htext
    exact ⟨none, harg, by simp only [hdefault]; exact read_exception⟩
  · have hgiven : node.parameter? "binding" = some text := htext
    cases arg <;> cases hkind
    exact ⟨some _, harg, by simp only [hgiven]; exact hstands⟩

/-- A parameter that its text determines reads as the value of its text, if there is one. -/
theorem reading_eq_map {value : String → Argument}
    (hvalue : ∀ text arg, arg.kind = p.kind → arg.StandsFor types text → arg = value text)
    (h : p.reading types node = .ok arg?) : arg? = (node.parameter? p.name).map value := by
  rcases Parameter.reading_eq_ok h with ⟨_, htext, harg⟩ | ⟨text, arg, htext, harg, hkind, hstands⟩
  · simp [htext, harg]
  · simp [htext, harg, hvalue text arg hkind hstands]

/-- A pattern is read as it stands, if there is one. -/
theorem reading_pattern (h : pattern.reading types node = .ok arg?) :
    arg? = (node.parameter? "pattern").map .text := by
  refine reading_eq_map ?_ h
  intro text arg hkind hstands
  cases arg <;> cases hkind
  exact congrArg Argument.text hstands

/-- Whether case counts is read as a flag, if it is said. -/
theorem reading_caseSensitive (h : caseSensitive.reading types node = .ok arg?) :
    arg? = ((node.parameter? "caseSensitive").map readsTrue).map .flag := by
  simp only [Option.map_map]
  refine reading_eq_map ?_ h
  intro text arg hkind hstands
  cases arg <;> cases hkind
  exact congrArg Argument.flag hstands

end Readings

/-! ## What the builders make of bound values -/

section Making

variable {args : Bindings} {e : Expression}

theorem runOn_makeNullTest (he : args.values.get? "binding" = some (.expression e))
    (wrap : Assertion → Assertion) :
    (makeNullTest wrap).runOn args = .ok (wrap (.isNull e)) := by
  rw [Taking.runOn_eq_outcome, makeNullTest, Taking.outcome_bind_ok (Taking.outcome_expression he)]
  rfl

/-- A comparison is made of its binding and the literal in its value. -/
theorem runOn_makeComparison {code : TypeCode} {text : String}
    (he : args.values.get? "binding" = some (.expression e))
    (hcode : args.values.get? "type" = some (.typeCode code))
    (htext : args.values.get? "value" = some (.text text))
    (relation : Comparison) (wrap : Assertion → Assertion) :
    (makeComparison relation wrap).runOn args =
      ((Assertion.compare e relation code text).map wrap).mapError
        fun found => .evaluation (.literal found) := by
  have hcode' : (args.without "binding").values.get? "type" = some (.typeCode code) := by
    simpa [Bindings.get?_without] using hcode
  have htext' : ((args.without "binding").without "type").values.get? "value" =
      (some text).map .text := by
    simpa [Bindings.get?_without] using htext
  simp only [Taking.runOn_eq_outcome, makeComparison,
    Taking.outcome_bind_ok (Taking.outcome_expression he),
    Taking.outcome_bind_ok (Taking.outcome_typeCode hcode'),
    Taking.outcome_bind_ok (Taking.outcome_text htext')]
  simp only [Option.getD_some]
  cases Assertion.compare e relation code text <;> rfl

/-- A type check is made of its type, and of its binding if it has one. -/
theorem runOn_makeTypeCheck {e? : Option Expression} {expected : NamedType}
    (he : args.values.get? "binding" = e?.map .expression)
    (hexpected : args.values.get? "type" = some (.namedType expected)) (byAssignability : Bool) :
    (makeTypeCheck byAssignability).runOn args =
      .ok (.ofType e? expected byAssignability) := by
  have hexpected' : (args.without "binding").values.get? "type" = some (.namedType expected) := by
    simpa [Bindings.get?_without] using hexpected
  simp only [Taking.runOn_eq_outcome, makeTypeCheck,
    Taking.outcome_bind_ok (Taking.outcome_optionalExpression he),
    Taking.outcome_bind_ok (Taking.outcome_namedType hexpected')]
  rfl

/-- A search is made of its binding and of a pattern that is accepted. -/
theorem runOn_makeSearch {pattern? : Option String} {sensitive? : Option Bool}
    (he : args.values.get? "binding" = some (.expression e))
    (hpattern : args.values.get? "pattern" = pattern?.map .text)
    (hsensitive : args.values.get? "caseSensitive" = sensitive?.map .flag) :
    makeSearch.runOn args =
      match Assertion.ofPattern? e (pattern?.getD "") (sensitive?.getD false) with
      | some a => .ok a
      | none => .error .pattern := by
  have hpattern' : (args.without "binding").values.get? "pattern" = pattern?.map .text := by
    simpa [Bindings.get?_without] using hpattern
  have hsensitive' :
      ((args.without "binding").without "pattern").values.get? "caseSensitive" =
        sensitive?.map .flag := by
    simpa [Bindings.get?_without] using hsensitive
  simp only [Taking.runOn_eq_outcome, makeSearch,
    Taking.outcome_bind_ok (Taking.outcome_expression he),
    Taking.outcome_bind_ok (Taking.outcome_text hpattern'),
    Taking.outcome_bind_ok (Taking.outcome_flag hsensitive')]
  cases Assertion.ofPattern? e (pattern?.getD "") (sensitive?.getD false) <;> rfl

end Making

/-! ## What becomes of a rule that combines nothing -/

namespace Rule

/-- The parameters of a rule, in the order in which they are bound. -/
def parameters : Rule → List Parameter
  | .constant _ => []
  | .logical _ => []
  | .nullTest _ => [binding]
  | .comparison _ _ => [binding, Standard.typeCode, value]
  | .typeCheck _ => [optionalBinding, namedType]
  | .search => [binding, pattern, caseSensitive]

/-- What a rule makes of a node whose parameters are bound: the texts that it reads, what they are
read as, and the assertion or the error that is made of it. -/
inductive Makes (types : TypeTable) (node : RuleNode) :
    Rule → Except RuleError Assertion → Prop where
  | constant (b : Bool) : Makes types node (.constant b) (.ok (.constant b))
  | nullTest {path : String} {e : Expression} (negated : Bool)
      (hpath : node.parameter? "binding" = some path) (he : Expression.read path = .ok e) :
      Makes types node (.nullTest negated) (.ok (wrap negated (.isNull e)))
  | comparison {path codeText text : String} {e : Expression} {code : TypeCode}
      (relation : Comparison) (negated : Bool)
      (hpath : node.parameter? "binding" = some path) (he : Expression.read path = .ok e)
      (hcodeText : node.parameter? "type" = some codeText)
      (hcode : TypeCode.ofText? codeText = some code)
      (htext : node.parameter? "value" = some text) :
      Makes types node (.comparison relation negated)
        (((Assertion.compare e relation code text).map (wrap negated)).mapError
          fun found => .evaluation (.literal found))
  | typeCheck {e? : Option Expression} {typeText : String} (byAssignability : Bool)
      (he : Expression.read ((node.parameter? "binding").getD "Exception") =
        .ok (e?.getD .exception))
      (htype : node.parameter? "type" = some typeText) :
      Makes types node (.typeCheck byAssignability)
        (.ok (.ofType e? (types.resolve typeText) byAssignability))
  | search {path : String} {e : Expression}
      (hpath : node.parameter? "binding" = some path) (he : Expression.read path = .ok e) :
      Makes types node .search
        (match Assertion.ofPattern? e ((node.parameter? "pattern").getD "")
            (((node.parameter? "caseSensitive").map readsTrue).getD false) with
          | some a => .ok a
          | none => .error .pattern)

/-- How a rule combines the rules under it, if it does. -/
def mode? : Rule → Option Connective
  | .logical mode => some mode
  | _ => none

theorem eq_logical_of_mode? {rule : Rule} {mode : Connective} (h : rule.mode? = some mode) :
    rule = .logical mode := by
  cases rule <;> simp_all [mode?]

end Rule

variable {types : TypeTable} {node : RuleNode} {args : Bindings}

/-- A rule that combines nothing makes its assertion, or fails, as `Makes` says once its parameters
are bound. -/
theorem makes_of_readings {rule : Rule} {params : List Parameter} {make : Taking Assertion}
    (hbuilder : rule.builder = .bound params make)
    (hread : ∀ p ∈ params, p.reading types node = .ok (args.values.get? p.name)) :
    rule.Makes types node (make.runOn args) := by
  cases rule with
  | constant b => cases hbuilder
  | logical mode => cases hbuilder
  | nullTest negated =>
      cases hbuilder
      rcases reading_binding (hread binding (by simp)) with ⟨path, e, hpath, he, hbound⟩
      simp only [runOn_makeNullTest hbound]
      exact .nullTest negated hpath he
  | comparison relation negated =>
      cases hbuilder
      rcases reading_binding (hread binding (by simp)) with ⟨path, e, hpath, he, hbound⟩
      rcases reading_typeCode (hread typeCode (by simp)) with
        ⟨codeText, code, hcodeText, hcode, hboundCode⟩
      rcases reading_value (hread value (by simp)) with ⟨text, htext, hboundText⟩
      simp only [runOn_makeComparison hbound hboundCode hboundText]
      exact .comparison relation negated hpath he hcodeText hcode htext
  | typeCheck byAssignability =>
      cases hbuilder
      rcases reading_optionalBinding (hread optionalBinding (by simp)) with ⟨e?, hbound, he⟩
      rcases reading_namedType (hread namedType (by simp)) with ⟨typeText, htype, hboundType⟩
      simp only [runOn_makeTypeCheck hbound hboundType]
      exact .typeCheck byAssignability he htype
  | search =>
      cases hbuilder
      rcases reading_binding (hread binding (by simp)) with ⟨path, e, hpath, he, hbound⟩
      have hpattern := reading_pattern (hread pattern (by simp))
      have hsensitive := reading_caseSensitive (hread caseSensitive (by simp))
      simp only [runOn_makeSearch hbound hpattern hsensitive]
      exact .search hpath he

/-- A rule with parameters fails with the first defect of them, or makes of what was bound. -/
theorem makeBound_of_builder {rule : Rule} {make : Taking Assertion}
    (hbuilder : rule.builder = .bound rule.parameters make) (modules : ModuleTable) :
    match rule.parameters.findSome? (·.defect? types node) with
    | some e => (dialect modules types).makeBound node rule.parameters make = .error e
    | none =>
      rule.Makes types node ((dialect modules types).makeBound node rule.parameters make) := by
  have hnames : (rule.parameters.map (·.name)).Nodup := by
    cases rule <;> simp [Rule.parameters, binding, optionalBinding, Standard.typeCode, value,
      namedType, pattern, caseSensitive]
  simp only [Dialect.makeBound]
  cases hbind : Bindings.bind types node rule.parameters with
  | error e =>
      simp only [Bindings.bind_eq_error_iff.1 hbind]
      simp [dialect, hbind]
  | ok args =>
      -- A defect would have been an error of binding.
      have hnone : rule.parameters.findSome? (·.defect? types node) = none := by
        simp only [Option.eq_none_iff_forall_ne_some]
        intro e he
        have hsame := (Bindings.bind_eq_error_iff.2 he).symm.trans hbind
        cases hsame
      simp only [hnone]
      simp only [dialect, hbind]
      exact makes_of_readings hbuilder (Bindings.bind_eq_ok hbind hnames)

/-! ## Building one rule -/

/-- A name that is no rule is not built. -/
theorem build_of_ofName?_eq_none (hplain : node.locator = none)
    (hrule : Rule.ofName? node.name = none) (modules : ModuleTable)
    (types : TypeTable) :
    (dialect modules types).build node =
      .error (.missingBuilder node.name (builderName node.name)) := by
  simp only [Dialect.build_eq, builderOf_dialect hplain, hrule]

/-- A combination is built of the rules below it. -/
theorem build_of_logical {mode : Connective} (hplain : node.locator = none)
    (hrule : Rule.ofName? node.name = some (.logical mode)) (modules : ModuleTable)
    (types : TypeTable) :
    (dialect modules types).build node =
      (((dialect modules types).buildUnder node).map (.logical mode)).mapError
        (.whileBuilding node.name) := by
  simp only [Dialect.build_eq, builderOf_dialect hplain, hrule]
  rfl

/-- A rule that combines nothing fails with its first parameter that has a defect, or else makes
what `Makes` says; its errors are wrapped for the rule. -/
theorem build_of_mode?_eq_none {rule : Rule} (hplain : node.locator = none)
    (hrule : Rule.ofName? node.name = some rule) (hmode : rule.mode? = none)
    (modules : ModuleTable) (types : TypeTable) :
    ∃ result, (dialect modules types).build node = result.mapError (.whileBuilding node.name) ∧
      match rule.parameters.findSome? (·.defect? types node) with
      | some e => result = .error e
      | none => rule.Makes types node result := by
  simp only [Dialect.build_eq, builderOf_dialect hplain, hrule]
  cases rule with
  | constant b => exact ⟨_, rfl, .constant b⟩
  | logical mode => cases hmode
  | nullTest negated => exact ⟨_, rfl, makeBound_of_builder rfl modules⟩
  | comparison relation negated => exact ⟨_, rfl, makeBound_of_builder rfl modules⟩
  | typeCheck byAssignability => exact ⟨_, rfl, makeBound_of_builder rfl modules⟩
  | search => exact ⟨_, rfl, makeBound_of_builder rfl modules⟩

end Standard
end ErrorTriage
