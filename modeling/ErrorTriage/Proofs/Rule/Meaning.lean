import ErrorTriage.Proofs.Literal.Order
import ErrorTriage.Proofs.Outcome
import ErrorTriage.Proofs.Path.Modes
import ErrorTriage.Proofs.Rule.Standard

/-!
# Rule.Meaning — a tree of standard rules means what its configuration says

`holds` reads a tree of rules as a truth value, by recursion on the configured nodes alone: no
assertion is built and nothing is evaluated in an order.  Whenever a tree without locators can be
built, testing what was built gives that truth value in every context that is not null, and never an
evaluation error: every path of a standard rule is lenient.

The reading is total.  What it says of a tree that cannot be built has no meaning.
-/

namespace ErrorTriage

/-! ## Values of paths -/

/-- The lenient value of the path of a text; a text that is no path has none. -/
def Value.leniently (root : Value) (text : String) : Value :=
  match root.atPath text false with
  | .ok v => v
  | .error _ => .null

/-- An expression that was read from a text always has a value, the lenient value of the text. -/
theorem Expression.evaluate_of_read {text : String} {e : Expression}
    (h : Expression.read text = .ok e) (context : Value) :
    e.evaluate context = .ok (context.leniently text) := by
  cases hsteps : Path.readSteps text with
  | error found => simp [Expression.read, Path.read, hsteps, Except.map] at h
  | ok steps =>
      have he : .path ⟨Text.trim text, steps, false⟩ = e := by
        simpa [Expression.read, Path.read, hsteps, Except.map] using h
      have hwalk := Value.walk_lenient_eq_collapsed context steps
      have hpath := Value.atPath_of_readSteps_eq_ok hsteps context false
      subst he
      simp [Expression.evaluate, Path.evaluate, Value.leniently, hpath, hwalk]

/-! ## The reading of a tree -/

/-- Whether an order of a value against a literal is the one that a comparison is named for. -/
def Comparison.accepts : Comparison → Ordering → Bool
  | .equal, order => order.isEq
  | .lesser, order => order.isLT
  | .lesserOrEqual, order => order.isLE
  | .greater, order => order.isGT
  | .greaterOrEqual, order => order.isGE

/-- What a relation admits is what it says of the order. -/
theorem Comparison.admits_eq_accepts (relation : Comparison) :
    relation.admits = relation.accepts := by
  funext order
  cases relation <;> cases order <;> rfl

namespace Standard

/-- The lenient value of the expression that a node is bound to. -/
def boundValue (context : Value) (node : RuleNode) : Value :=
  match node.parameter? "binding" with
  | some path => context.leniently path
  | none => .null

/-- Whether a value that is not null converts to the type of a literal and is ordered against the
literal as a comparison asks for. -/
def isOrdered (relation : Comparison) (node : RuleNode) (v : Value) : Bool :=
  match (node.parameter? "type").bind TypeCode.ofText?, node.parameter? "value" with
  | some code, some text =>
    match Literal.convert? code v, Literal.convert? code (.str text) with
    | some found, some expected =>
      !v.isNull && (found.order? expected).any relation.accepts
    | _, _ => false
  | _, _ => false

/-- Whether a name is declared as that of an interface or of an abstract type. -/
def isDeclaredInexact (types : TypeTable) (name : String) : Bool :=
  match types.known.get? name with
  | some .interface => true
  | some .abstract => true
  | _ => false

/-- Whether a value that is not null has a type by name, or is assignable to it where that is asked
for or follows from the declaration of the name. -/
def isOfType (types : TypeTable) (byAssignability : Bool) (name : String) (v : Value) : Bool :=
  !v.isNull && (v.typeName == name
    || ((byAssignability || isDeclaredInexact types name)
      && (name == "Object" || v.ancestry.contains name)))

/-- Whether the pattern of a node is found in a text; the empty pattern is found nowhere. -/
def isFound (node : RuleNode) (text : String) : Bool :=
  let pattern := (node.parameter? "pattern").getD ""
  let caseSensitive := ((node.parameter? "caseSensitive").map readsTrue).getD false
  match Pattern.read? pattern (!caseSensitive) with
  | some found => !pattern.isEmpty && found.isFoundIn text
  | none => false

/-- Whether a rule holds of a node, given which of the rules under the node hold. -/
def Rule.holds (types : TypeTable) (context : Value) (node : RuleNode) (below : List Bool) :
    Rule → Bool
  | .constant b => b
  | .logical .all => !below.isEmpty && below.all id
  | .logical .any => below.any id
  | .logical .none => !below.isEmpty && !below.any id
  | .nullTest negated => negated ^^ (boundValue context node).isNull
  | .comparison relation negated => negated ^^ isOrdered relation node (boundValue context node)
  | .typeCheck byAssignability =>
    isOfType types byAssignability (Text.trim ((node.parameter? "type").getD ""))
      (context.leniently ((node.parameter? "binding").getD "Exception"))
  | .search => isFound node (boundValue context node).text

mutual

/-- Whether a tree of standard rules holds in a context. -/
def holds (types : TypeTable) (context : Value) : RuleNode → Bool
  | ⟨name, locator, attributes, children⟩ =>
    match Rule.ofName? name with
    | some rule =>
      rule.holds types context ⟨name, locator, attributes, children⟩
        (holdAmong types context children)
    | none => false

/-- Which of the rules among contents hold in a context. -/
def holdAmong (types : TypeTable) (context : Value) : List (RuleContent RuleNode) → List Bool
  | [] => []
  | .element node :: rest => holds types context node :: holdAmong types context rest
  | .comment _ :: rest => holdAmong types context rest
  | .text _ :: rest => holdAmong types context rest

end

theorem holdAmong_eq_map (types : TypeTable) (context : Value)
    (contents : List (RuleContent RuleNode)) :
    holdAmong types context contents =
      (RuleNode.elementsOf contents).map (holds types context) := by
  induction contents with
  | nil => rfl
  | cons content rest ih =>
      cases content with
      | element node => simp [holdAmong, RuleNode.elementsOf, ih]
      | comment _ => simpa [holdAmong, RuleNode.elementsOf] using ih
      | text _ => simpa [holdAmong, RuleNode.elementsOf] using ih

/-- What a rule says is told by its name, of the rules below it. -/
theorem holds_of_ofName? {node : RuleNode} {rule : Rule}
    (h : Rule.ofName? node.name = some rule) (types : TypeTable) (context : Value) :
    holds types context node =
      rule.holds types context node (node.elements.map (holds types context)) := by
  rcases node with ⟨name, locator, attributes, children⟩
  have hname : Rule.ofName? name = some rule := h
  simp [holds, hname, holdAmong_eq_map, RuleNode.elements]

/-! ## Assertions that cannot fail -/

/-- Testing an assertion in a context, which is not null, gives a truth value. -/
def Settles (context : Value) (a : Assertion) (b : Bool) : Prop := (a.run context).result = .ok b

/-- After a run with a result, the next run decides. -/
theorem result_andThen {α β : Type} {r : Run α} {a : α} (h : r.result = .ok a)
    (next : α → Run β) : (r.andThen next).result = (next a).result := by
  simp [Run.andThen, h]

variable {context : Value}

/-- A negated test settles the other truth value. -/
theorem settles_wrap {a : Assertion} {b : Bool} (h : Settles context a b) (negated : Bool) :
    Settles context (Rule.wrap negated a) (negated ^^ b) := by
  cases negated with
  | false => simpa [Rule.wrap] using h
  | true =>
      simp only [Settles, Rule.wrap, Assertion.run, result_andThen h]
      simp [Run.done]

/-- An assertion that looks at the value of one expression. -/
theorem settles_evaluating {e : Expression} {v : Value} (he : e.evaluate context = .ok v)
    (look : Value → Bool) :
    ((Run.evaluating context e).andThen fun found => .done (look found)).result =
      .ok (look v) :=
  result_andThen he _

/-- Testing the members of a list of assertions gives the truth values of a list. -/
inductive SettleAll (context : Value) : List Assertion → List Bool → Prop where
  | nil : SettleAll context [] []
  | cons {a : Assertion} {b : Bool} {assertions : List Assertion} {verdicts : List Bool}
      (head : Settles context a b) (tail : SettleAll context assertions verdicts) :
      SettleAll context (a :: assertions) (b :: verdicts)

variable {assertions : List Assertion} {verdicts : List Bool}

/-- Testing for all settles whether all hold. -/
theorem runAll_result (h : SettleAll context assertions verdicts) :
    (Assertion.runAll context assertions).result = .ok (verdicts.all id) := by
  induction h with
  | nil => rfl
  | @cons a b _ _ ha _ ih =>
      simp only [Assertion.runAll, result_andThen ha]
      cases b with
      | true => simpa using ih
      | false => rfl

theorem runAny_result (h : SettleAll context assertions verdicts) :
    (Assertion.runAny context assertions).result = .ok (verdicts.any id) := by
  induction h with
  | nil => rfl
  | @cons a b _ _ ha _ ih =>
      simp only [Assertion.runAny, result_andThen ha]
      cases b with
      | true => rfl
      | false => simpa using ih

theorem runNone_result (h : SettleAll context assertions verdicts) :
    (Assertion.runNone context assertions).result = .ok (!verdicts.any id) := by
  induction h with
  | nil => rfl
  | @cons a b _ _ ha _ ih =>
      simp only [Assertion.runNone, result_andThen ha]
      cases b with
      | true => rfl
      | false => simpa using ih

/-- A combination settles what it says of the rules below it. -/
theorem settles_logical (h : SettleAll context assertions verdicts) (types : TypeTable)
    (node : RuleNode) (mode : Connective) :
    Settles context (.logical mode assertions)
      ((Rule.logical mode).holds types context node verdicts) := by
  have hall := runAll_result h
  have hany := runAny_result h
  have hnone := runNone_result h
  cases h with
  | nil => cases mode <;> rfl
  | cons head tail =>
      cases mode with
      | all => simpa [Settles, Assertion.run, Rule.holds] using hall
      | any => simpa [Settles, Assertion.run, Rule.holds] using hany
      | none => simpa [Settles, Assertion.run, Rule.holds] using hnone

/-! ## What is made of a rule that combines nothing -/

variable {types : TypeTable} {node : RuleNode}

/-- A value is compared with a literal as the texts of the node say. -/
theorem compares_eq_isOrdered {codeText text : String} {code : TypeCode} {literal : TypedLiteral}
    (hcodeText : node.parameter? "type" = some codeText)
    (hcode : TypeCode.ofText? codeText = some code) (htext : node.parameter? "value" = some text)
    (hread : TypedLiteral.read code text = .ok literal) (relation : Comparison) (v : Value) :
    Assertion.compares relation literal v = isOrdered relation node v := by
  rcases TypedLiteral.value_of_read hread with ⟨hliteral, hvalue⟩
  simp only [Assertion.compares, TypedLiteral.order?, isOrdered, hliteral, hcodeText, htext, hvalue,
    Option.bind_some, hcode, Comparison.admits_eq_accepts]
  cases Literal.convert? code v with
  | none => simp
  | some found => rfl

/-- A value is checked against a type as the text of its name and the declarations say. -/
theorem hasType_eq_isOfType (types : TypeTable) (typeText : String) (byAssignability : Bool)
    (v : Value) :
    Assertion.hasType (types.resolve typeText)
        (byAssignability || (types.resolve typeText).isNeverExact) v =
      isOfType types byAssignability (Text.trim typeText) v := by
  have hkind : (types.resolve typeText).isNeverExact =
      isDeclaredInexact types (Text.trim typeText) := by
    simp only [NamedType.isNeverExact, TypeTable.resolve, isDeclaredInexact]
    cases types.known.get? (Text.trim typeText) with
    | none => rfl
    | some kind => cases kind <;> rfl
  simp only [hkind]
  rfl

theorem boundValue_eq {path : String} (hpath : node.parameter? "binding" = some path)
    (context : Value) : boundValue context node = context.leniently path := by
  simp [boundValue, hpath]

/-- A search settles whether the pattern is found in the text of the value. -/
theorem settles_ofPattern? {e : Expression} {v : Value} {pattern : String} {caseSensitive : Bool}
    {a : Assertion} (he : e.evaluate context = .ok v)
    (h : Assertion.ofPattern? e pattern caseSensitive = some a) :
    Settles context a
      (match Pattern.read? pattern (!caseSensitive) with
        | some found => !pattern.isEmpty && found.isFoundIn v.text
        | none => false) := by
  simp only [Assertion.ofPattern?] at h
  split at h
  · next hempty =>
    cases h
    -- The empty pattern was not read, but whatever it is read as is not asked for.
    have hfalse : (match Pattern.read? pattern (!caseSensitive) with
        | some found => !pattern.isEmpty && found.isFoundIn v.text
        | none => false) = false := by
      cases Pattern.read? pattern (!caseSensitive) <;> simp [hempty]
    simp only [hfalse]
    rfl
  · next hempty =>
    cases hread : Pattern.read? pattern (!caseSensitive) with
    | none => simp [hread] at h
    | some found =>
        have hmatching : .matching e found = a := by simpa [hread] using h
        subst hmatching
        simp only [Settles, Assertion.run, settles_evaluating he fun v => found.isFoundIn v.text]
        simp [hempty]

/-- What a rule makes of a node holds if the rule holds of the node. -/
theorem settles_of_makes {rule : Rule} {result : Except RuleError Assertion} {a : Assertion}
    (h : rule.Makes types node result) (ha : result = .ok a) (below : List Bool) :
    Settles context a (rule.holds types context node below) := by
  cases h with
  | constant b =>
      cases ha
      rfl
  | @nullTest path e negated hpath he =>
      cases ha
      have hvalue := Expression.evaluate_of_read he context
      simp only [Rule.holds, boundValue_eq hpath]
      refine settles_wrap ?_ negated
      simp only [Settles, Assertion.run]
      exact settles_evaluating hvalue Value.isNull
  | @comparison path codeText text e code relation negated hpath he hcodeText hcode htext =>
      cases hread : TypedLiteral.read code text with
      | error found => simp [Assertion.compare, hread, Except.map] at ha
      | ok literal =>
          have hmade : Rule.wrap negated (.comparison e relation literal) = a := by
            simpa [Assertion.compare, hread, Except.map] using ha
          subst hmade
          have hvalue := Expression.evaluate_of_read he context
          simp only [Rule.holds, boundValue_eq hpath]
          refine settles_wrap ?_ negated
          simp only [Settles, Assertion.run, ← compares_eq_isOrdered hcodeText hcode htext hread]
          exact settles_evaluating hvalue (Assertion.compares relation literal)
  | @typeCheck e? typeText byAssignability he htype =>
      cases ha
      have hvalue := Expression.evaluate_of_read he context
      rw [Rule.holds, htype, Option.getD_some, ← hasType_eq_isOfType, Settles, Assertion.ofType,
        Assertion.run]
      exact settles_evaluating hvalue _
  | @search path e hpath he =>
      have hvalue := Expression.evaluate_of_read he context
      simp only [Rule.holds, boundValue_eq hpath]
      split at ha
      · next hmade =>
        cases ha
        exact settles_ofPattern? hvalue hmade
      · cases ha

/-! ## Trees -/

variable {modules : ModuleTable}

/-- If the assertions of nodes settle as a function says, so do those that are built together. -/
theorem settleAll_of_mapM {nodes : List RuleNode} {assertions : List Assertion}
    {verdict : RuleNode → Bool}
    (hbuild : nodes.mapM (dialect modules types).build = .ok assertions)
    (hsettle : ∀ n ∈ nodes, ∀ a, (dialect modules types).build n = .ok a →
      Settles context a (verdict n)) :
    SettleAll context assertions (nodes.map verdict) := by
  induction nodes generalizing assertions with
  | nil =>
      cases hbuild
      exact .nil
  | cons n rest ih =>
      simp only [List.mapM_cons] at hbuild
      cases hfirst : (dialect modules types).build n with
      | error e => simp [hfirst, bind, Except.bind] at hbuild
      | ok a =>
          cases hrest : rest.mapM (dialect modules types).build with
          | error e => simp [hfirst, hrest, bind, Except.bind] at hbuild
          | ok more =>
              have hassertions : a :: more = assertions := by
                simpa [hfirst, hrest, bind, Except.bind, pure, Except.pure] using hbuild
              subst hassertions
              refine .cons (hsettle n List.mem_cons_self a hfirst) (ih hrest ?_)
              intro m hm
              exact hsettle m (List.mem_cons_of_mem n hm)

/-- What is built under a rule is built rule by rule. -/
theorem mapM_of_buildUnder {d : Dialect} {assertions : List Assertion}
    (h : d.buildUnder node = .ok assertions) : node.elements.mapM d.build = .ok assertions := by
  simp only [Dialect.buildUnder] at h
  cases hstray : Dialect.unexpected? node with
  | some e => simp [hstray] at h
  | none =>
      simp only [RuleNode.elements, ← Dialect.buildAll_eq_mapM]
      simpa [hstray] using h

/-- A built tree settles on its reading if whatever holds of it (`plain`) goes down to the rules
under a rule and keeps locators away from every rule that can be built. -/
theorem settles_build_of (plain : RuleNode → Prop) (types : TypeTable) (modules : ModuleTable)
    (hlocator : ∀ n, plain n → ∀ a, (dialect modules types).build n = .ok a → n.locator = none)
    (hdown : ∀ n, plain n → ∀ child ∈ n.elements, plain child) (context : Value)
    (node : RuleNode) (hplain : plain node) {a : Assertion}
    (hbuild : (dialect modules types).build node = .ok a) :
    Settles context a (holds types context node) := by
  -- Over the rules under a rule; the assertions are built from those of the rules under it.
  induction node using RuleNode.inductionOnElements generalizing a with
  | step node ih =>
      have hunqualified := hlocator node hplain a hbuild
      cases hrule : Rule.ofName? node.name with
      | none =>
          simp only [build_of_ofName?_eq_none hunqualified hrule] at hbuild
          cases hbuild
      | some rule =>
          simp only [holds_of_ofName? hrule]
          cases hmode : rule.mode? with
          | none =>
              rcases build_of_mode?_eq_none hunqualified hrule hmode modules types with
                ⟨result, heq, hresult⟩
              have hok : result = .ok a := mapError_eq_ok_iff.1 (heq.symm.trans hbuild)
              split at hresult
              · -- A parameter with a defect would have kept the node from being built.
                have hsame := hresult.symm.trans hok
                cases hsame
              · exact settles_of_makes hresult hok _
          | some mode =>
              have heq := Rule.eq_logical_of_mode? hmode
              subst heq
              simp only [build_of_logical hunqualified hrule] at hbuild
              rcases map_eq_ok_iff.1 (mapError_eq_ok_iff.1 hbuild) with
                ⟨assertions, hassertions, rfl⟩
              have hmade := mapM_of_buildUnder hassertions
              refine settles_logical (settleAll_of_mapM hmade ?_) types node mode
              intro child hchild made hmade
              exact ih child hchild (hdown node hplain child hchild) hmade

/-- What is built of a tree settles what the tree says. By induction on the tree. -/
theorem settles_build (types : TypeTable) (modules : ModuleTable) (context : Value)
    (node : RuleNode) (hplain : node.isUnqualified = true) {a : Assertion}
    (hbuild : (dialect modules types).build node = .ok a) :
    Settles context a (holds types context node) := by
  refine settles_build_of (fun n => n.isUnqualified = true) types modules ?_ ?_ context node hplain
    hbuild
  · intro n hn _ _
    exact (RuleNode.isUnqualified_iff.1 hn).1
  · intro n hn
    exact (RuleNode.isUnqualified_iff.1 hn).2

/-- Without modules a rule with a locator cannot be built. -/
theorem locator_eq_none_of_build {types : TypeTable} {node : RuleNode} {a : Assertion}
    (hbuild : (dialect {} types).build node = .ok a) : node.locator = none := by
  cases hlocator : node.locator with
  | none => rfl
  | some text =>
      have hvocabulary : ∃ e, (dialect {} types).vocabularyOf node = .error e := by
        simp only [Dialect.vocabularyOf, hlocator]
        split <;> exact ⟨_, rfl⟩
      rcases hvocabulary with ⟨e, he⟩
      have hbuilder : (dialect {} types).builderOf node = .error e := by
        simp [Dialect.builderOf, he]
      simp [Dialect.build_eq, hbuilder] at hbuild

/-- Whatever can be built without modules settles on its reading: rules with locators stand only
where no rule is built. -/
theorem settles_build_of_no_modules {types : TypeTable} {node : RuleNode} {a : Assertion}
    (hbuild : (dialect {} types).build node = .ok a) (context : Value) :
    Settles context a (holds types context node) :=
  settles_build_of (fun _ => True) types {} (fun _ _ _ h => locator_eq_none_of_build h)
    (fun _ _ _ _ => trivial) context node trivial hbuild

/-- Unless the context is null, a test answers what is settled. -/
theorem test_of_settles {a : Assertion} {b : Bool} (h : Settles context a b)
    (hcontext : context.isNull = false) : a.test context = .ok b := by
  simp only [Assertion.test, Assertion.trace]
  simpa [hcontext, Settles] using h

/-- What is built without modules can be tested in every context that is not null. -/
theorem exists_test_of_no_modules {a : Assertion} (hbuild : ({} : Dialect).build node = .ok a)
    (hcontext : context.isNull = false) : ∃ b, a.test context = .ok b :=
  ⟨_, test_of_settles (settles_build_of_no_modules hbuild context) hcontext⟩

/-- Building a tree of standard rules and testing what was built is interpreting the tree: the test
gives the truth value that `holds` reads off the configuration, and no evaluation error. -/
theorem test_of_built {node : RuleNode} (hplain : node.isUnqualified = true) {a : Assertion}
    (hbuild : (dialect modules types).build node = .ok a) {context : Value}
    (hcontext : context.isNull = false) : a.test context = .ok (holds types context node) := by
  have hsettles := settles_build types modules context node hplain hbuild
  simp only [Assertion.test, Assertion.trace]
  simpa [hcontext, Settles] using hsettles

/-- A tree that asks whether a status is 404, written as attributes and as rules under the rules. -/
def statusTree : RuleNode :=
  ⟨" and ", none, .empty,
    [.comment "not found",
      .element ⟨"equal", none, .ofList [("binding", "Status"), ("type", "int32"), ("value", "404")],
        []⟩,
      .element ⟨"not", none, .empty,
        [.element ⟨"is-null", none, .empty,
          [.element ⟨"binding", none, .empty, [.text " Status "]⟩]⟩]⟩]⟩

/-- A context with a status of 404. -/
def missingPage : Value := Record.toValue ⟨"Context", [], .ofList [("Status", .int 404)]⟩

/-- A tree about the status of a page is tested as it says. -/
theorem test_statusTree :
    ∃ a, (dialect {} .standard).build statusTree = .ok a ∧ a.test missingPage = .ok true := by
  have hplain : statusTree.isUnqualified = true := by decide +kernel
  have hcontext : missingPage.isNull = false := rfl
  have hholds : holds .standard missingPage statusTree = true := by decide +kernel
  have hbuilt : (failure? ((dialect {} .standard).build statusTree)).isNone = true := by
    decide +kernel
  cases hbuild : (dialect {} .standard).build statusTree with
  | error e => simp [hbuild] at hbuilt
  | ok a =>
      have htest := test_of_built hplain hbuild hcontext
      exact ⟨a, rfl, htest.trans (congrArg Except.ok hholds)⟩

end Standard
end ErrorTriage
