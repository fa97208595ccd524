import ErrorTriage.Proofs.Rule.Meaning

/-!
# Rule.TypeCheck — the two checks of a type

One rule asks for the type of a value and one for what the value is assignable to.  The first is the
stronger one.  They are the same rule for a name whose last declaration is that of an interface or
of an abstract type; for all other names, declared or not, the first asks whether the type has
exactly this name.  Null has no type, and everything else is assignable to `Object`.
-/

namespace ErrorTriage

/-! ## Declarations -/

/-- The types that are declared before any other. -/
def initialTypes : List NamedType :=
  [⟨"IDisposable", .interface⟩, ⟨"IComparable", .interface⟩, ⟨"IEnumerable", .interface⟩,
    ⟨"ISerializable", .interface⟩, ⟨"ValueType", .abstract⟩]

/-- The last of several declarations that is one of a name. -/
def lastDeclaration? (declared : List NamedType) (name : String) : Option NamedType :=
  declared.reverse.find? fun t => t.name = name

/-- Whether the last declaration of a name, if there is one, is that of a type without values of its
own. -/
def IsDeclaredNeverExact (declared : List NamedType) (name : String) : Prop :=
  ∃ t, lastDeclaration? declared name = some t ∧ (t.kind = .interface ∨ t.kind = .abstract)

/-- Of declarations with one name the last one counts, over what was known. -/
theorem get?_foldl_declare (declared : List NamedType) (types : TypeTable) (name : String) :
    (declared.foldl TypeTable.declare types).known.get? name =
      ((lastDeclaration? declared name).map NamedType.kind).or (types.known.get? name) := by
  induction declared generalizing types with
  | nil => simp [lastDeclaration?]
  | cons t rest ih =>
      have hdeclare : (types.declare t).known.get? name =
          if t.name = name then some t.kind else types.known.get? name :=
        SortedMap.get?_insert types.known t.name name t.kind
      rw [List.foldl_cons, ih, hdeclare]
      -- From behind: a later declaration of the name counts before this one.
      simp only [lastDeclaration?, List.reverse_cons, List.find?_append]
      cases rest.reverse.find? fun t => t.name = name with
      | some later => simp
      | none => by_cases hname : t.name = name <;> simp [hname]

/-- A type is declared as never exact if its last declaration says so. -/
theorem isDeclaredInexact_iff (declared : List NamedType) (name : String) :
    Standard.isDeclaredInexact (declared.foldl TypeTable.declare .standard) name = true ↔
      IsDeclaredNeverExact (initialTypes ++ declared) name := by
  -- The initial types are declared like any others, only earlier.
  have hstandard : TypeTable.standard = initialTypes.foldl TypeTable.declare ⟨.empty⟩ := rfl
  have hkind : (declared.foldl TypeTable.declare .standard).known.get? name =
      (lastDeclaration? (initialTypes ++ declared) name).map NamedType.kind := by
    rw [hstandard, ← List.foldl_append, get?_foldl_declare, SortedMap.get?_empty, Option.or_none]
  simp only [Standard.isDeclaredInexact, hkind, IsDeclaredNeverExact]
  cases lastDeclaration? (initialTypes ++ declared) name with
  | none => simp
  | some t => cases hkind : t.kind <;> simp [hkind]

namespace Standard

/-! ## Building -/

/-- A node as a standard rule of a name; all else of the node stays. -/
def asRule (name : String) (node : RuleNode) : RuleNode :=
  { node with name := name, locator := none }

@[simp] theorem parameter?_asRule (name key : String) (node : RuleNode) :
    (asRule name node).parameter? key = node.parameter? key := rfl

/-- The names of the two rules. -/
def typeCheckName : Bool → String
  | false => "is-type"
  | true => "is-type-compatible"

variable {types : TypeTable} {node : RuleNode}

/-- A binding that may be left out is broken only if its path is. -/
theorem defect?_optionalBinding :
    optionalBinding.defect? types node =
      (failure? (Expression.read ((node.parameter? "binding").getD "Exception"))).map .path := by
  simp only [Parameter.defect?, Parameter.reading, optionalBinding]
  cases node.parameter? "binding" with
  | none => simp [read_exception]
  | some path =>
      simp only [Parameter.convert, Option.getD_some]
      cases Expression.read path <;> rfl

theorem defect?_binding {path : String} (hpath : node.parameter? "binding" = some path) :
    binding.defect? types node = (failure? (Expression.read path)).map .path := by
  simp only [Parameter.defect?, Parameter.reading, binding, hpath, Parameter.convert]
  cases Expression.read path <;> rfl

/-- A type whose name is not blank is never refused. -/
theorem defect?_namedType {typeText : String} (htype : node.parameter? "type" = some typeText)
    (hblank : Text.isBlankText typeText = false) : namedType.defect? types node = none := by
  simp [Parameter.defect?, Parameter.reading, namedType, htype, Parameter.convert, hblank,
    Except.map]

/-- A rule whose only possible defect is its path is built exactly if the path can be read. -/
theorem build_of_path {rule : Rule} {name path : String} {make : Expression → Assertion}
    (hrule : Rule.ofName? name = some rule) (hmode : rule.mode? = none)
    (hdefect : rule.parameters.findSome? (·.defect? types (asRule name node)) =
      (failure? (Expression.read path)).map .path)
    (hmakes : ∀ e result, Expression.read path = .ok e →
      rule.Makes types (asRule name node) result → result = .ok (make e))
    (modules : ModuleTable) :
    (dialect modules types).build (asRule name node) =
      ((Expression.read path).map make).mapError fun found =>
        .whileBuilding name (.path found) := by
  have hplain : (asRule name node).locator = none := rfl
  rcases build_of_mode?_eq_none hplain hrule hmode modules types with ⟨result, hbuild, hresult⟩
  -- The path is read once for the defect and once for the assertion, with one result.
  simp only [hdefect] at hresult
  rw [hbuild]
  cases hread : Expression.read path with
  | error found =>
      simp only [hread, failure?_error, Option.map_some] at hresult
      rw [hresult]
      rfl
  | ok e =>
      simp only [hread, failure?_ok, Option.map_none] at hresult
      rw [hmakes e result hread hresult]
      rfl

/-- A type check is built of its type, and of the exception if it has no binding. -/
theorem build_typeCheck {typeText : String} (htype : node.parameter? "type" = some typeText)
    (hblank : Text.isBlankText typeText = false) (modules : ModuleTable) (types : TypeTable)
    (byAssignability : Bool) :
    (dialect modules types).build (asRule (typeCheckName byAssignability) node) =
      ((Expression.read ((node.parameter? "binding").getD "Exception")).map fun e =>
        Assertion.ofType (some e) (types.resolve typeText) byAssignability).mapError
          fun found => .whileBuilding (typeCheckName byAssignability) (.path found) := by
  have hrule :
      Rule.ofName? (typeCheckName byAssignability) = some (.typeCheck byAssignability) := by
    cases byAssignability <;> decide +kernel
  refine build_of_path hrule rfl ?_ ?_ modules
  · have hnamed : namedType.defect? types (asRule (typeCheckName byAssignability) node) = none :=
      defect?_namedType (by simpa using htype) hblank
    simp only [Rule.parameters, List.findSome?_cons, List.findSome?_nil, defect?_optionalBinding,
      parameter?_asRule, hnamed]
    cases failure? (Expression.read ((node.parameter? "binding").getD "Exception")) <;> rfl
  · intro e result hread hmakes
    cases hmakes with
    | @typeCheck e? typeText' _ he htype' =>
        have he' : e?.getD .exception = e := Except.ok.inj (he.symm.trans hread)
        have htext : typeText' = typeText := Option.some.inj (htype'.symm.trans htype)
        simp [Assertion.ofType, he', htext]

theorem build_isNotNull {path : String} (hpath : node.parameter? "binding" = some path)
    (modules : ModuleTable) (types : TypeTable) :
    (dialect modules types).build (asRule "is-not-null" node) =
      ((Expression.read path).map fun e => Assertion.not (.isNull e)).mapError
        fun found => .whileBuilding "is-not-null" (.path found) := by
  have hrule : Rule.ofName? "is-not-null" = some (.nullTest true) := by decide +kernel
  refine build_of_path hrule rfl ?_ ?_ modules
  · have hpath' : (asRule "is-not-null" node).parameter? "binding" = some path := hpath
    simp only [Rule.parameters, List.findSome?_cons, List.findSome?_nil, defect?_binding hpath']
    cases failure? (Expression.read path) <;> rfl
  · intro e result hread hmakes
    cases hmakes with
    | @nullTest path' e' _ hfound he =>
        have hsame : path' = path := Option.some.inj (hfound.symm.trans hpath)
        have he' : e' = e := Except.ok.inj (he.symm.trans (hsame ▸ hread))
        rw [he']
        rfl

/-! ## Testing -/

variable {path : String} {e : Expression} {context : Value}

/-- A type check tests the value at its path. -/
theorem test_typeCheck (he : Expression.read path = .ok e) (hcontext : context.isNull = false)
    (types : TypeTable) (typeText : String) (byAssignability : Bool) :
    (Assertion.ofType (some e) (types.resolve typeText) byAssignability).test context =
      .ok (isOfType types byAssignability (Text.trim typeText) (context.leniently path)) := by
  have hvalue := Expression.evaluate_of_read he context
  refine test_of_settles ?_ hcontext
  rw [Settles, Assertion.ofType, Assertion.run, ← hasType_eq_isOfType]
  exact settles_evaluating hvalue _

theorem test_isNotNull (he : Expression.read path = .ok e) (hcontext : context.isNull = false) :
    (Assertion.not (.isNull e)).test context = .ok (!(context.leniently path).isNull) := by
  have hvalue := Expression.evaluate_of_read he context
  have hsettles : Settles context (.isNull e) (context.leniently path).isNull := by
    simp only [Settles, Assertion.run]
    exact settles_evaluating hvalue Value.isNull
  have hnegated := test_of_settles (settles_wrap hsettles true) hcontext
  simpa [Rule.wrap] using hnegated

/-! ## The two checks side by side -/

/-- What two checks of a type and a test that their value is not null say of the value. -/
structure AreOrdered (declared : List NamedType) (typeName : String) (v : Value)
    (exact assignable present : Bool) : Prop where
  assignable_of_exact : exact = true → assignable = true
  eq_of_neverExact : IsDeclaredNeverExact declared typeName → exact = assignable
  exact_iff : ¬IsDeclaredNeverExact declared typeName →
    (exact = true ↔ v.isNull = false ∧ v.typeName = typeName)
  of_null : v.isNull = true → exact = false ∧ assignable = false
  present_iff : present = true ↔ v.isNull = false
  object : typeName = "Object" → (assignable = true ↔ present = true)

/-- A value is of a type by its own name, or by its ancestry where that counts. -/
theorem isOfType_eq_true_iff {types : TypeTable} {byAssignability : Bool} {name : String}
    {v : Value} :
    isOfType types byAssignability name v = true ↔
      v.isNull = false ∧ (v.typeName = name ∨
        (byAssignability = true ∨ isDeclaredInexact types name = true) ∧
          (name = "Object" ∨ name ∈ v.ancestry)) := by
  simp [isOfType]

/-- A further name that a record is assignable to counts for checks of assignability, and only for
that name. -/
theorem isOfType_assignableTo {types : TypeTable} {byAssignability : Bool} {name base : String}
    (r : Record) :
    isOfType types byAssignability name (r.assignableTo base).toValue = true ↔
      isOfType types byAssignability name r.toValue = true ∨
        (byAssignability = true ∨ isDeclaredInexact types name = true) ∧ name = base := by
  have hnull (r : Record) : r.toValue.isNull = false := rfl
  have hname : (r.assignableTo base).toValue.typeName = r.toValue.typeName := rfl
  have hancestry : (r.assignableTo base).toValue.ancestry = r.toValue.ancestry ++ [base] := rfl
  simp only [isOfType_eq_true_iff, hnull, hname, hancestry, List.mem_append, List.mem_singleton,
    true_and]
  tauto

/-- Of any value the exact check says no more than the one by assignability, and that no more than
that the value is there. -/
theorem areOrdered_isOfType (declared : List NamedType) (name : String) (v : Value) :
    AreOrdered (initialTypes ++ declared) name v
      (isOfType (declared.foldl TypeTable.declare .standard) false name v)
      (isOfType (declared.foldl TypeTable.declare .standard) true name v) (!v.isNull) := by
  have hdeclared := isDeclaredInexact_iff declared name
  constructor
  · intro hexact
    rcases isOfType_eq_true_iff.1 hexact with ⟨hpresent, hsame | ⟨_, hancestor⟩⟩
    · exact isOfType_eq_true_iff.2 ⟨hpresent, .inl hsame⟩
    · exact isOfType_eq_true_iff.2 ⟨hpresent, .inr ⟨.inl rfl, hancestor⟩⟩
  · intro hnever
    -- Both checks ask what the value is assignable to.
    simp only [isOfType, hdeclared.2 hnever, Bool.or_true]
  · intro hnever
    have hplain : ¬isDeclaredInexact (declared.foldl TypeTable.declare .standard) name = true :=
      fun h => hnever (hdeclared.1 h)
    simp [isOfType_eq_true_iff, hplain]
  · intro hnull
    constructor <;> simp [isOfType, hnull]
  · rw [Bool.not_eq_true']
  · intro hobject
    simp [isOfType_eq_true_iff, hobject]

/-- Both checks of a type, and a test that the same expression is not null, fail for the path alone,
or all three are built and answer in every context that is not null.  Then what has a type is
assignable to it.  The checks agree for a name whose last declaration is that of an interface or an
abstract type, and otherwise the first compares the name of the type.  Neither holds of null, and
all but null is assignable to `Object`. -/
theorem type_checks_are_ordered (modules : ModuleTable) (declared : List NamedType)
    (node : RuleNode) (typeText : String) (htype : node.parameter? "type" = some typeText)
    (hblank : Text.isBlankText typeText = false) :
    let d := dialect modules (declared.foldl TypeTable.declare .standard)
    let path := (node.parameter? "binding").getD "Exception"
    (∃ found, Expression.read path = .error found ∧
      (∀ byAssignability, d.build (asRule (typeCheckName byAssignability) node) =
        .error (.whileBuilding (typeCheckName byAssignability) (.path found))) ∧
      ∀ n, n.parameter? "binding" = some path →
        d.build (asRule "is-not-null" n) = .error (.whileBuilding "is-not-null" (.path found))) ∨
    ∃ exactCheck assignableCheck presenceTest,
      d.build (asRule "is-type" node) = .ok exactCheck ∧
      d.build (asRule "is-type-compatible" node) = .ok assignableCheck ∧
      (∀ n, n.parameter? "binding" = some path →
        d.build (asRule "is-not-null" n) = .ok presenceTest) ∧
      ∀ context : Value, context.isNull = false →
        ∃ exact assignable present, exactCheck.test context = .ok exact ∧
          assignableCheck.test context = .ok assignable ∧
          presenceTest.test context = .ok present ∧
          AreOrdered (initialTypes ++ declared) (Text.trim typeText) (context.leniently path)
            exact assignable present := by
  intro d path
  let types := declared.foldl TypeTable.declare .standard
  have hcheck := build_typeCheck htype hblank modules types
  cases hread : Expression.read path with
  | error found =>
      refine .inl ⟨found, rfl, ?_, ?_⟩
      · intro byAssignability
        rw [hcheck, hread]
        rfl
      · intro n hn
        rw [build_isNotNull hn, hread]
        rfl
  | ok e =>
      have hbuilt (byAssignability : Bool) :
          d.build (asRule (typeCheckName byAssignability) node) =
            .ok (Assertion.ofType (some e) (types.resolve typeText) byAssignability) := by
        rw [hcheck, hread]
        rfl
      refine .inr ⟨_, _, .not (.isNull e), hbuilt false, hbuilt true, ?_, ?_⟩
      · intro n hn
        rw [build_isNotNull hn, hread]
        rfl
      · intro context hcontext
        have htest := test_typeCheck hread hcontext types typeText
        exact ⟨_, _, _, htest false, htest true, test_isNotNull hread hcontext,
          areOrdered_isOfType declared (Text.trim typeText) (context.leniently path)⟩

/-- A check of the type of a status, under a name that was first declared to be an interface. -/
def statusTypeCheck : RuleNode :=
  ⟨"is-type", none, .ofList [("binding", "Status"), ("type", " Int64 ")], []⟩

theorem type_checks_are_ordered_status :
    let declared : List NamedType := [⟨"Int64", .interface⟩, ⟨"Int64", .concrete⟩]
    let d := dialect {} (declared.foldl TypeTable.declare .standard)
    statusTypeCheck.parameter? "type" = some " Int64 " ∧ Text.isBlankText " Int64 " = false ∧
    ∃ exactCheck assignableCheck,
      d.build (asRule "is-type" statusTypeCheck) = .ok exactCheck ∧
      d.build (asRule "is-type-compatible" statusTypeCheck) = .ok assignableCheck ∧
      exactCheck.test missingPage = .ok true ∧ assignableCheck.test missingPage = .ok true := by
  intro declared d
  have htype : statusTypeCheck.parameter? "type" = some " Int64 " := by decide +kernel
  have hblank : Text.isBlankText " Int64 " = false := by decide +kernel
  have hpath : (failure? (Expression.read "Status")).isNone = true := by decide +kernel
  have hlast : lastDeclaration? (initialTypes ++ declared) (Text.trim " Int64 ") =
      some ⟨"Int64", .concrete⟩ := by
    decide +kernel
  have hconcrete : ¬IsDeclaredNeverExact (initialTypes ++ declared) (Text.trim " Int64 ") := by
    rintro ⟨t, ht, hkind⟩
    cases hlast.symm.trans ht
    exact hkind.elim (fun h => nomatch h) (fun h => nomatch h)
  rcases type_checks_are_ordered {} declared statusTypeCheck " Int64 " htype hblank with
    ⟨found, hfails, _⟩ | ⟨exactCheck, assignableCheck, _, hexact, hassignable, _, htest⟩
  · have hstatus : Expression.read "Status" = .error found := hfails
    simp [hstatus] at hpath
  · rcases htest missingPage rfl with ⟨exact, assignable, _, hfirst, hsecond, _, hordered⟩
    have hstatus : (missingPage.leniently "Status").isNull = false ∧
        (missingPage.leniently "Status").typeName = Text.trim " Int64 " := by
      decide +kernel
    have hholds : exact = true := (hordered.exact_iff hconcrete).2 hstatus
    rw [hordered.assignable_of_exact hholds] at hsecond
    rw [hholds] at hfirst
    exact ⟨htype, hblank, exactCheck, assignableCheck, hexact, hassignable, hfirst, hsecond⟩

end Standard
end ErrorTriage
