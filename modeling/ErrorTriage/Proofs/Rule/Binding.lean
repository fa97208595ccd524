import ErrorTriage.Rule.Parameter

/-!
# Rule.Binding — what binding finds and why it fails

Parameters are bound one after another, so the first one with a defect decides the error.  When
none has a defect, each name is bound to what its parameter reads as, and the kind of a bound value
is the declared one.
-/

namespace ErrorTriage

/-- The kind of a bound value. -/
def Argument.kind : Argument → ParameterKind
  | .expression _ => .expression
  | .namedType _ => .namedType
  | .flag _ => .flag
  | .typeCode _ => .typeCode
  | .integer _ => .integer
  | .text _ => .text

/-- A bound value is what its text is read as. -/
def Argument.StandsFor (types : TypeTable) (text : String) : Argument → Prop
  | .expression e => Expression.read text = .ok e
  | .namedType t => Text.isBlankText text = false ∧ t = types.resolve text
  | .flag b => b = readsTrue text
  | .typeCode code => TypeCode.ofText? text = some code
  | .integer n => Integer.read64 (Text.trimList text.toList) = .ok n
  | .text s => s = text

namespace Parameter

variable {types : TypeTable} {node : RuleNode} {p : Parameter}

/-- What a parameter of a node reads as; one that may be missing reads as nothing. -/
def reading (types : TypeTable) (node : RuleNode) (p : Parameter) :
    Except RuleError (Option Argument) :=
  match node.parameter? p.name with
  | none => if p.required then .error (.missingParameter node.name p.name) else .ok none
  | some text => (p.convert types node.name text).map some

/-- What is wrong with a parameter of a node. -/
def defect? (types : TypeTable) (node : RuleNode) (p : Parameter) : Option RuleError :=
  match p.reading types node with
  | .ok _ => none
  | .error e => some e

/-- The defect of a parameter is the error of its reading. -/
theorem defect?_eq_some_iff {e : RuleError} :
    p.defect? types node = some e ↔ p.reading types node = .error e := by
  cases h : p.reading types node <;> simp [defect?, h]

/-! ## Converting a text -/

/-- What a parameter becomes of a text: a value of the declared kind that stands for the text, or an
error that blames the text, and never the declaration. -/
theorem convert_cases (types : TypeTable) (rule : String) (p : Parameter) (text : String) :
    (∃ arg, p.convert types rule text = .ok arg ∧ arg.kind = p.kind ∧ arg.StandsFor types text) ∨
    (∃ found, p.convert types rule text = .error (.path found)) ∨
    ∃ fault, p.convert types rule text = .error (.invalidParameter rule p.name text fault) ∧
      ∀ kind, fault ≠ .notDeclaredAs kind := by
  rcases p with ⟨name, kind, required⟩
  cases kind with
  | expression =>
      cases hread : Expression.read text with
      | ok e => exact .inl ⟨.expression e, by simp [convert, hread], rfl, hread⟩
      | error found => exact .inr (.inl ⟨found, by simp [convert, hread]⟩)
  | namedType =>
      cases hblank : Text.isBlankText text with
      | true => exact .inr (.inr ⟨.emptyTypeName, by simp [convert, hblank], by simp⟩)
      | false =>
          exact .inl ⟨.namedType (types.resolve text), by simp [convert, hblank], rfl, hblank, rfl⟩
  | flag => exact .inl ⟨.flag (readsTrue text), rfl, rfl, rfl⟩
  | typeCode =>
      cases hcode : TypeCode.ofText? text with
      | some code => exact .inl ⟨.typeCode code, by simp [convert, hcode], rfl, hcode⟩
      | none =>
          exact .inr (.inr ⟨.unknownTypeCode text, by simp [convert, hcode], by simp⟩)
  | integer =>
      cases hread : Integer.read64 (Text.trimList text.toList) with
      | ok n => exact .inl ⟨.integer n, by simp [convert, hread], rfl, hread⟩
      | error fault => exact .inr (.inr ⟨.notInteger fault, by simp [convert, hread], by simp⟩)
  | text => exact .inl ⟨.text text, rfl, rfl, rfl⟩

/-- What is converted has the kind of the parameter and stands for the text. -/
theorem convert_eq_ok {rule text : String} {arg : Argument}
    (h : p.convert types rule text = .ok arg) : arg.kind = p.kind ∧ arg.StandsFor types text := by
  rcases convert_cases types rule p text with
    ⟨found, hfound, hstands⟩ | ⟨found, hfound⟩ | ⟨fault, hfound, _⟩
  · have hsame := hfound.symm.trans h
    cases hsame
    exact hstands
  · have hsame := hfound.symm.trans h
    cases hsame
  · have hsame := hfound.symm.trans h
    cases hsame

/-- A parameter is read off its text, unless it may be missing and is. -/
theorem reading_eq_ok {arg? : Option Argument} (h : p.reading types node = .ok arg?) :
    (p.required = false ∧ node.parameter? p.name = none ∧ arg? = none) ∨
    ∃ text arg, node.parameter? p.name = some text ∧ arg? = some arg ∧ arg.kind = p.kind ∧
      arg.StandsFor types text := by
  simp only [reading] at h
  cases htext : node.parameter? p.name with
  | none =>
      cases hrequired : p.required with
      | true => simp [htext, hrequired] at h
      | false => simp_all
  | some text =>
      cases hconvert : p.convert types node.name text with
      | error e => simp [htext, hconvert, Except.map] at h
      | ok arg =>
          have harg : some arg = arg? := by simpa [htext, hconvert, Except.map] using h
          rcases convert_eq_ok hconvert with ⟨hkind, hstands⟩
          exact .inr ⟨text, arg, rfl, harg.symm, hkind, hstands⟩

end Parameter

namespace Bindings

variable {types : TypeTable} {node : RuleNode}

/-! ## Binding all of them -/

/-- What is bound once a parameter of a name was read. -/
def extend (values : SortedMap Argument) (name : String) : Option Argument → SortedMap Argument
  | none => values
  | some arg => values.insert name arg

theorem get?_extend_self {values : SortedMap Argument} {name : String}
    (h : values.get? name = none) (arg? : Option Argument) :
    (extend values name arg?).get? name = arg? := by
  cases arg? with
  | none => exact h
  | some arg => simp [extend, SortedMap.get?_insert]

theorem get?_extend_of_ne {name other : String} (h : name ≠ other) (values : SortedMap Argument)
    (arg? : Option Argument) :
    (extend values name arg?).get? other = values.get? other := by
  cases arg? with
  | none => rfl
  | some arg => simp [extend, SortedMap.get?_insert, h]

/-- One parameter and then the others. -/
theorem bindFrom_cons (p : Parameter) (rest : List Parameter) (values : SortedMap Argument) :
    bindFrom types node values (p :: rest) =
      match p.reading types node with
      | .error e => .error e
      | .ok arg? => bindFrom types node (extend values p.name arg?) rest := by
  simp only [bindFrom, Parameter.reading]
  cases node.parameter? p.name with
  | none => cases p.required <;> rfl
  | some text =>
      simp only
      cases p.convert types node.name text <;> rfl

/-- Binding fails with the first defect of a parameter. -/
theorem bindFrom_eq_error_iff {params : List Parameter} {values : SortedMap Argument}
    {e : RuleError} :
    bindFrom types node values params = .error e ↔
      params.findSome? (·.defect? types node) = some e := by
  induction params generalizing values with
  | nil => simp [bindFrom]
  | cons p rest ih =>
      simp only [bindFrom_cons, List.findSome?_cons, Parameter.defect?]
      cases p.reading types node with
      | error found => simp
      | ok arg? => exact ih

/-- When no parameter has a defect, every name is bound to what its parameter reads as. -/
theorem bindFrom_eq_ok {params : List Parameter} {values bound : SortedMap Argument}
    (h : bindFrom types node values params = .ok bound)
    (hnames : (params.map (·.name)).Nodup)
    (hfresh : ∀ p ∈ params, values.get? p.name = none) :
    (∀ name, name ∉ params.map (·.name) → bound.get? name = values.get? name) ∧
      ∀ p ∈ params, p.reading types node = .ok (bound.get? p.name) := by
  -- What is bound grows along the list, so both halves are carried: the names of the rest are
  -- still free, and what is bound for the first one is not touched by the rest.
  induction params generalizing values with
  | nil =>
      cases h
      simp
  | cons p rest ih =>
      rcases List.nodup_cons.1 hnames with ⟨hp, hrest⟩
      simp only [bindFrom_cons] at h
      cases hread : p.reading types node with
      | error e => simp [hread] at h
      | ok arg? =>
          have hrestFresh : ∀ q ∈ rest, (extend values p.name arg?).get? q.name = none := by
            intro q hq
            have hne : p.name ≠ q.name := fun heq => hp (List.mem_map.2 ⟨q, hq, heq.symm⟩)
            exact (get?_extend_of_ne hne values arg?).trans (hfresh q (List.mem_cons_of_mem p hq))
          rcases ih (by simpa [hread] using h) hrest hrestFresh with ⟨hkept, hbound⟩
          refine ⟨?_, ?_⟩
          · intro name hname
            rcases not_or.1 (mt List.mem_cons.2 hname) with ⟨hne, hmem⟩
            exact (hkept name hmem).trans (get?_extend_of_ne (Ne.symm hne) values arg?)
          · intro q hq
            rcases List.mem_cons.1 hq with rfl | hq
            · have hself := get?_extend_self (hfresh q List.mem_cons_self) arg?
              exact hread.trans (congrArg Except.ok ((hkept _ hp).trans hself).symm)
            · exact hbound q hq

/-- Binding fails with the first defect of the parameters. -/
theorem bind_eq_error_iff {params : List Parameter} {e : RuleError} :
    bind types node params = .error e ↔ params.findSome? (·.defect? types node) = some e := by
  have hfrom : bindFrom types node .empty params = .error e ↔ _ := bindFrom_eq_error_iff
  simp only [← hfrom, bind]
  cases bindFrom types node .empty params <;> simp [Except.map]

/-- Once bound, every parameter is held as it was read. -/
theorem bind_eq_ok {params : List Parameter} {args : Bindings}
    (h : bind types node params = .ok args) (hnames : (params.map (·.name)).Nodup) :
    ∀ p ∈ params, p.reading types node = .ok (args.values.get? p.name) := by
  simp only [bind] at h
  cases hbound : bindFrom types node .empty params with
  | error e => simp [hbound, Except.map] at h
  | ok bound =>
      simp only [hbound, Except.map, Except.ok.injEq] at h
      subst h
      exact (bindFrom_eq_ok hbound hnames fun _ _ => rfl).2

end Bindings
end ErrorTriage
