import ErrorTriage.Proofs.Outcome
import ErrorTriage.Proofs.Rule.Standard

/-!
# Rule.Failure — a tree that cannot be built reports its first defective rule

Building comes to the root and to every rule under a rule that it combines.  Each of these rules is
looked at by itself: `defect?` says what is wrong with it, whatever stands elsewhere in the tree.
Building fails with the first of the defects in the order of the document, where a rule stands
before those under it, and wraps it once for every rule on the way to it.

Two errors are never reported: that a bound value is of another kind than it is asked for, and that
a parameter is missing which the rule has.
-/

namespace ErrorTriage

namespace RuleError

/-- Every wrapping of an error is worded as the error that it wraps. -/
def IsFaithful : RuleError → Prop
  | @build _ message source => message = source.message ∧ source.IsFaithful
  | _ => True

theorem isFaithful_foldr {e : RuleError} (h : e.IsFaithful) (names : List String) :
    (names.foldr whileBuilding e).IsFaithful := by
  induction names with
  | nil => exact h
  | cons name rest ih => exact ⟨rfl, ih⟩

theorem root_foldr (names : List String) (e : RuleError) :
    (names.foldr whileBuilding e).root = e.root := by
  induction names with
  | nil => rfl
  | cons name rest ih => exact ih

/-- The trail of an error names the rules around it, the outermost one first. -/
theorem trail_foldr (names : List String) (e : RuleError) :
    (names.foldr whileBuilding e).trail = names ++ e.trail := by
  induction names with
  | nil => rfl
  | cons name rest ih => exact congrArg (List.cons name) ih

/-- An error that is worded faithfully is known by its trail and by what it ends in. -/
theorem eq_foldr_of_isFaithful {e : RuleError} (h : e.IsFaithful) :
    e = e.trail.foldr whileBuilding e.root := by
  induction e with
  | @build rule message source ih =>
      rcases h with ⟨hmessage, hsource⟩
      subst hmessage
      exact congrArg (whileBuilding rule) (ih hsource)
  | _ => rfl

end RuleError

namespace Standard

/-! ## Defects of one rule -/

/-- What is wrong with the literal of a comparison. -/
def literalDefect? (node : RuleNode) : Option RuleError :=
  match (node.parameter? "type").bind TypeCode.ofText?, node.parameter? "value" with
  | some code, some text =>
    (failure? (TypedLiteral.read code text)).map fun found => .evaluation (.literal found)
  | _, _ => none

/-- What is wrong with the pattern of a search; the empty pattern is not read. -/
def patternDefect? (node : RuleNode) : Option RuleError :=
  let pattern := (node.parameter? "pattern").getD ""
  let caseSensitive := ((node.parameter? "caseSensitive").map readsTrue).getD false
  if pattern.isEmpty ∨ (Pattern.read? pattern (!caseSensitive)).isSome then none
  else some .pattern

namespace Rule

/-- What is wrong with a node whose parameters have no defect. -/
def ownDefect? (node : RuleNode) : Rule → Option RuleError
  | .logical _ => node.strayText?.map (.unexpectedContent node.name)
  | .comparison _ _ => literalDefect? node
  | .search => patternDefect? node
  | _ => none

/-- What is wrong with a node of a rule: its first parameter that is missing or does not convert,
or else what cannot be made of its parameters. -/
def defect? (types : TypeTable) (node : RuleNode) (rule : Rule) : Option RuleError :=
  (rule.parameters.findSome? (·.defect? types node)).or (rule.ownDefect? node)

end Rule

/-- What is wrong with a node by itself. -/
def defect? (types : TypeTable) (node : RuleNode) : Option RuleError :=
  match Rule.ofName? node.name with
  | none => some (.missingBuilder node.name (builderName node.name))
  | some rule => rule.defect? types node

/-! ## The rules that building comes to -/

/-- Whether a node combines the rules under it. -/
def isLogical (node : RuleNode) : Bool :=
  ((Rule.ofName? node.name).bind Rule.mode?).isSome

/-- Building comes to a node, and the rules around it have the given names, outermost first. -/
inductive Reached (root : RuleNode) : List String → RuleNode → Prop where
  | root : Reached root [] root
  | under {around : List String} {parent child : RuleNode} (hparent : Reached root around parent)
      (hlogical : isLogical parent = true) (hchild : child ∈ parent.elements) :
      Reached root (around ++ [parent.name]) child

/-- A node of a tree with the names of the rules around it, outermost first. -/
structure Occurrence where
  around : List String
  node : RuleNode

/-- The occurrence in a tree whose root has a name, of an occurrence under that root. -/
def Occurrence.under (name : String) (o : Occurrence) : Occurrence :=
  { o with around := name :: o.around }

mutual

/-- The nodes that building comes to in the order of the document, a node before those under it. -/
def occurrences : RuleNode → List Occurrence
  | ⟨name, locator, attributes, children⟩ =>
    ⟨[], ⟨name, locator, attributes, children⟩⟩ ::
      if isLogical ⟨name, locator, attributes, children⟩ then
        (occurrencesAmong children).map (.under name)
      else []

def occurrencesAmong : List (RuleContent RuleNode) → List Occurrence
  | [] => []
  | .element node :: rest => occurrences node ++ occurrencesAmong rest
  | .comment _ :: rest => occurrencesAmong rest
  | .text _ :: rest => occurrencesAmong rest

end

/-- The occurrences among contents are those of their rules, in order. -/
theorem occurrencesAmong_eq_flatMap (contents : List (RuleContent RuleNode)) :
    occurrencesAmong contents = (RuleNode.elementsOf contents).flatMap occurrences := by
  induction contents with
  | nil => rfl
  | cons content rest ih =>
      cases content with
      | element node => simp [occurrencesAmong, RuleNode.elementsOf, ih]
      | comment _ => simpa [occurrencesAmong, RuleNode.elementsOf] using ih
      | text _ => simpa [occurrencesAmong, RuleNode.elementsOf] using ih

/-- The occurrences in a tree are its root, and those below it if the root is a combination. -/
theorem occurrences_eq (node : RuleNode) :
    occurrences node =
      ⟨[], node⟩ ::
        if isLogical node then (node.elements.flatMap occurrences).map (.under node.name)
        else [] := by
  rcases node with ⟨name, locator, attributes, children⟩
  simp only [occurrences, occurrencesAmong_eq_flatMap]
  rfl

theorem mem_occurrences_self (node : RuleNode) : ⟨[], node⟩ ∈ occurrences node := by
  simp only [occurrences_eq]
  exact List.mem_cons_self

/-- What occurs in a child occurs in the combination around it. -/
theorem mem_occurrences_of_mem {node child : RuleNode} {o : Occurrence}
    (hlogical : isLogical node = true) (hchild : child ∈ node.elements)
    (ho : o ∈ occurrences child) : o.under node.name ∈ occurrences node := by
  simp only [occurrences_eq, if_pos hlogical]
  have hmem : o ∈ node.elements.flatMap occurrences := List.mem_flatMap.2 ⟨child, hchild, ho⟩
  exact List.mem_cons_of_mem _ (List.mem_map_of_mem hmem)

/-- Every occurrence but that of the root is one under a rule under the root. -/
theorem cases_of_mem_occurrences {node : RuleNode} {o : Occurrence} (h : o ∈ occurrences node) :
    o = ⟨[], node⟩ ∨ ∃ child ∈ node.elements, ∃ below ∈ occurrences child,
      isLogical node = true ∧ o = below.under node.name := by
  simp only [occurrences_eq] at h
  rcases List.mem_cons.1 h with h | h
  · exact .inl h
  · cases hlogical : isLogical node with
    | false => simp [hlogical] at h
    | true =>
        simp only [if_pos hlogical] at h
        rcases List.mem_map.1 h with ⟨below, hbelow, rfl⟩
        rcases List.mem_flatMap.1 hbelow with ⟨child, hchild, hmem⟩
        exact .inr ⟨child, hchild, below, hmem, rfl, rfl⟩

/-- What building comes to from a rule under a node, it comes to from the node. -/
theorem Reached.from_child {node child : RuleNode} {around : List String} {n : RuleNode}
    (h : Reached child around n) (hlogical : isLogical node = true)
    (hchild : child ∈ node.elements) : Reached node (node.name :: around) n := by
  induction h with
  | root => exact .under .root hlogical hchild
  | under _ hparent hmem ih => exact .under ih hparent hmem

theorem reached_of_mem_occurrences {root : RuleNode} {o : Occurrence}
    (h : o ∈ occurrences root) : Reached root o.around o.node := by
  induction root using RuleNode.inductionOnElements generalizing o with
  | step node ih =>
      rcases cases_of_mem_occurrences h with rfl | ⟨child, hchild, below, hbelow, hlogical, rfl⟩
      · exact .root
      · exact (ih child hchild hbelow).from_child hlogical hchild

/-- With a node that combines them, the rules under it occur as well. -/
theorem mem_occurrences_under {root parent child : RuleNode} {around : List String}
    (h : ⟨around, parent⟩ ∈ occurrences root) (hlogical : isLogical parent = true)
    (hchild : child ∈ parent.elements) :
    ⟨around ++ [parent.name], child⟩ ∈ occurrences root := by
  -- On the tree, not on the way to the parent: the names around it grow at the inner end.
  induction root using RuleNode.inductionOnElements generalizing around with
  | step node ih =>
      rcases cases_of_mem_occurrences h with heq | ⟨top, htop, below, hbelow, hnode, heq⟩
      · cases heq
        exact mem_occurrences_of_mem hlogical hchild (mem_occurrences_self child)
      · rcases below with ⟨rest, n⟩
        cases heq
        exact mem_occurrences_of_mem hnode htop (ih top htop hbelow)

theorem mem_occurrences_of_reached {root node : RuleNode} {around : List String}
    (h : Reached root around node) : ⟨around, node⟩ ∈ occurrences root := by
  induction h with
  | root => exact mem_occurrences_self root
  | under _ hlogical hchild ih => exact mem_occurrences_under ih hlogical hchild

/-- The occurrences in a tree are the rules that are reached from its root. -/
theorem mem_occurrences_iff {root : RuleNode} {o : Occurrence} :
    o ∈ occurrences root ↔ Reached root o.around o.node :=
  ⟨reached_of_mem_occurrences, mem_occurrences_of_reached⟩

/-! ## What a defect is -/

/-- The errors that a node can be defective with.  A missing parameter is one that the node does
not have, and a wrong one is wrong for its text. -/
inductive IsDefect (node : RuleNode) : RuleError → Prop where
  | missingBuilder : IsDefect node (.missingBuilder node.name (builderName node.name))
  | unexpectedContent (text : String) : IsDefect node (.unexpectedContent node.name text)
  | missingParameter {name : String} (habsent : node.parameter? name = none) :
      IsDefect node (.missingParameter node.name name)
  | invalidParameter {name text : String} {fault : ParameterFault}
      (hgiven : node.parameter? name = some text)
      (hfault : ∀ kind, fault ≠ .notDeclaredAs kind) :
      IsDefect node (.invalidParameter node.name name text fault)
  | path (e : PathSyntaxError) : IsDefect node (.path e)
  | evaluation (e : EvaluationError) : IsDefect node (.evaluation e)
  | pattern : IsDefect node .pattern

variable {types : TypeTable} {node : RuleNode} {e : RuleError}

theorem isDefect_of_convert {p : Parameter} {text : String}
    (hgiven : node.parameter? p.name = some text)
    (h : p.convert types node.name text = .error e) : IsDefect node e := by
  rcases Parameter.convert_cases types node.name p text with
    ⟨arg, hfound, _⟩ | ⟨found, hfound⟩ | ⟨fault, hfound, hfault⟩
  · have hsame := hfound.symm.trans h
    cases hsame
  · have hsame := hfound.symm.trans h
    cases hsame
    exact .path found
  · have hsame := hfound.symm.trans h
    cases hsame
    exact .invalidParameter hgiven hfault

theorem isDefect_of_parameter {p : Parameter} (h : p.defect? types node = some e) :
    IsDefect node e := by
  have hreading := Parameter.defect?_eq_some_iff.1 h
  simp only [Parameter.reading] at hreading
  cases htext : node.parameter? p.name with
  | none =>
      cases hrequired : p.required with
      | false => simp [htext, hrequired] at hreading
      | true =>
          have he : .missingParameter node.name p.name = e := by
            simpa [htext, hrequired] using hreading
          exact he ▸ .missingParameter htext
  | some text =>
      cases hconvert : p.convert types node.name text with
      | ok arg => simp [htext, hconvert, Except.map] at hreading
      | error found =>
          have he : found = e := by simpa [htext, hconvert, Except.map] using hreading
          exact he ▸ isDefect_of_convert htext hconvert

theorem isDefect_of_own {rule : Rule} (h : rule.ownDefect? node = some e) : IsDefect node e := by
  cases rule with
  | logical mode =>
      rcases Option.map_eq_some_iff.1 h with ⟨text, _, rfl⟩
      exact .unexpectedContent text
  | comparison relation negated =>
      simp only [Rule.ownDefect?, literalDefect?] at h
      split at h
      · rcases Option.map_eq_some_iff.1 h with ⟨found, _, rfl⟩
        exact .evaluation _
      · cases h
  | search =>
      simp only [Rule.ownDefect?, patternDefect?] at h
      split at h
      · cases h
      · cases h
        exact .pattern
  | constant b => cases h
  | nullTest negated => cases h
  | typeCheck byAssignability => cases h

/-- What is found first is one of the defects. -/
theorem isDefect_of_defect? (h : defect? types node = some e) : IsDefect node e := by
  simp only [defect?] at h
  cases hrule : Rule.ofName? node.name with
  | none =>
      have he : .missingBuilder node.name (builderName node.name) = e := by simpa [hrule] using h
      exact he ▸ .missingBuilder
  | some rule =>
      have hdefect : rule.defect? types node = some e := by simpa [hrule] using h
      rcases Option.or_eq_some_iff.1 hdefect with hparameter | ⟨_, hown⟩
      · rcases List.exists_of_findSome?_eq_some hparameter with ⟨p, _, hp⟩
        exact isDefect_of_parameter hp
      · exact isDefect_of_own hown

/-- A defect wraps no other error, so there is no wording in it to be faithful to. -/
theorem IsDefect.isFaithful (h : IsDefect node e) : e.IsFaithful := by
  cases h <;> trivial

/-- A defect has no rule around it yet. -/
theorem IsDefect.root_eq (h : IsDefect node e) : e.root = e := by
  cases h <;> rfl

theorem IsDefect.trail_eq (h : IsDefect node e) : e.trail = [] := by
  cases h <;> rfl

/-! ## Building reports the first defect -/

/-- The names that an error of an occurrence is wrapped for, outermost first: a node without a
builder is not wrapped for itself. -/
def Occurrence.trail (o : Occurrence) : List String :=
  match Rule.ofName? o.node.name with
  | none => o.around
  | some _ => o.around ++ [o.node.name]

/-- The error that building reports if an occurrence is the first with a defect. -/
def report? (types : TypeTable) (o : Occurrence) : Option RuleError :=
  (defect? types o.node).map fun e => o.trail.foldr .whileBuilding e

theorem trail_under (name : String) (o : Occurrence) :
    (o.under name).trail = name :: o.trail := by
  simp only [Occurrence.trail, Occurrence.under]
  cases Rule.ofName? o.node.name <;> rfl

@[simp] theorem node_under (name : String) (o : Occurrence) : (o.under name).node = o.node := rfl

/-- One more rule around an occurrence is around its report, too. -/
theorem report?_under (types : TypeTable) (name : String) (o : Occurrence) :
    report? types (o.under name) = (report? types o).map (.whileBuilding name) := by
  simp only [report?, node_under, trail_under, List.foldr_cons, Option.map_map,
    Function.comp_def]

/-- The first report under a rule is wrapped for the rule. -/
theorem findSome?_report?_under (types : TypeTable) (name : String)
    (below : List Occurrence) :
    (below.map (.under name)).findSome? (report? types) =
      (below.findSome? (report? types)).map (.whileBuilding name) := by
  induction below with
  | nil => rfl
  | cons o rest ih =>
      simp only [List.map_cons, List.findSome?_cons, List.findSome?_cons, report?_under, ih]
      cases report? types o <;> rfl

/-- What a rule makes of its parameters fails with the rule's own defect. -/
theorem failure?_of_makes {rule : Rule} {result : Except RuleError Assertion}
    (h : rule.Makes types node result) : failure? result = rule.ownDefect? node := by
  cases h with
  | constant b => rfl
  | nullTest negated hpath he => rfl
  | @comparison path codeText text e code relation negated hpath he hcodeText hcode htext =>
      simp [Rule.ownDefect?, literalDefect?, Assertion.compare, hcodeText, hcode, htext]
  | typeCheck byAssignability he htype => rfl
  | search hpath he =>
      simp only [Rule.ownDefect?, patternDefect?, Assertion.ofPattern?]
      cases hempty : ((node.parameter? "pattern").getD "").isEmpty with
      | true => simp
      | false =>
          cases Pattern.read? ((node.parameter? "pattern").getD "")
            (!((node.parameter? "caseSensitive").map readsTrue).getD false) <;> simp

/-- What is below a rule fails with its stray text, or else with the first child that does. -/
theorem failure?_buildUnder (d : Dialect) (node : RuleNode) :
    failure? (d.buildUnder node) =
      (node.strayText?.map (.unexpectedContent node.name)).or
        (node.elements.findSome? fun child => failure? (d.build child)) := by
  simp only [Dialect.buildUnder, Dialect.unexpected?]
  cases node.strayText? with
  | some text => rfl
  | none =>
      simp only [← failure?_mapM, RuleNode.elements, ← Dialect.buildAll_eq_mapM]
      rfl

/-- A rule without rules below it fails with its first defect. -/
theorem failure?_build_of_mode?_eq_none {rule : Rule} (hplain : node.locator = none)
    (hrule : Rule.ofName? node.name = some rule) (hmode : rule.mode? = none)
    (modules : ModuleTable) (types : TypeTable) :
    failure? ((dialect modules types).build node) =
      (rule.defect? types node).map (.whileBuilding node.name) := by
  rcases build_of_mode?_eq_none hplain hrule hmode modules types with ⟨result, heq, hresult⟩
  have hfailure : failure? result = rule.defect? types node := by
    simp only [Rule.defect?]
    split at hresult
    · next e hparameter => simp [hparameter, hresult]
    · next hparameter => simp [hparameter, failure?_of_makes hresult]
  simp only [heq, failure?_mapError, hfailure]

/-- A combination fails with its stray text, or else with the first child that does. -/
theorem failure?_build_of_logical {mode : Connective} (hplain : node.locator = none)
    (hrule : Rule.ofName? node.name = some (.logical mode)) (modules : ModuleTable)
    (types : TypeTable) :
    failure? ((dialect modules types).build node) =
      ((node.strayText?.map (.unexpectedContent node.name)).or
        (node.elements.findSome? fun child =>
          failure? ((dialect modules types).build child))).map (.whileBuilding node.name) := by
  simp only [build_of_logical hplain hrule, failure?_mapError, failure?_map, failure?_buildUnder]

/-- The root of a tree reports its own defect. -/
theorem report?_of_ofName? {rule : Rule} (hrule : Rule.ofName? node.name = some rule)
    (types : TypeTable) :
    report? types ⟨[], node⟩ = (rule.defect? types node).map (.whileBuilding node.name) := by
  simp [report?, defect?, Occurrence.trail, hrule]

/-- Where nothing is below the root, only the root can report. -/
theorem findSome?_report?_of_leaf (hleaf : isLogical node = false) (types : TypeTable) :
    (occurrences node).findSome? (report? types) = report? types ⟨[], node⟩ := by
  simp only [occurrences_eq, hleaf, List.findSome?_cons]
  cases report? types ⟨[], node⟩ <;> rfl

/-- Among what building comes to from a node that combines the rules under it, the first report is
that of the node, or else the first one of a rule under it. -/
theorem findSome?_report?_of_logical (hlogical : isLogical node = true) (types : TypeTable) :
    (occurrences node).findSome? (report? types) =
      (report? types ⟨[], node⟩).or
        ((node.elements.findSome? fun child =>
          (occurrences child).findSome? (report? types)).map (.whileBuilding node.name)) := by
  simp only [occurrences_eq, if_pos hlogical, List.findSome?_cons, findSome?_report?_under,
    findSome?_flatMap]
  cases report? types ⟨[], node⟩ <;> rfl

/-- Building fails exactly if a node that it comes to has a defect, and reports the first one. -/
theorem failure?_build (modules : ModuleTable) (types : TypeTable) (node : RuleNode)
    (hplain : node.isUnqualified = true) :
    failure? ((dialect modules types).build node) =
      (occurrences node).findSome? (report? types) := by
  induction node using RuleNode.inductionOnElements with
  | step node ih =>
      rcases RuleNode.isUnqualified_iff.1 hplain with ⟨hlocator, hunder⟩
      cases hrule : Rule.ofName? node.name with
      | none =>
          have hleaf : isLogical node = false := by simp [isLogical, hrule]
          simp only [build_of_ofName?_eq_none hlocator hrule, findSome?_report?_of_leaf hleaf]
          simp [report?, defect?, Occurrence.trail, hrule]
      | some rule =>
          have hreport := report?_of_ofName? hrule types
          cases hmode : rule.mode? with
          | none =>
              have hleaf : isLogical node = false := by simp [isLogical, hrule, hmode]
              have hfailure := failure?_build_of_mode?_eq_none hlocator hrule hmode modules types
              simp only [hfailure, findSome?_report?_of_leaf hleaf, hreport]
          | some mode =>
              have hlogical : isLogical node = true := by simp [isLogical, hrule, hmode]
              have heq := Rule.eq_logical_of_mode? hmode
              subst heq
              -- What the induction gives for the rules under the node, taken together.
              have hbelow : (node.elements.findSome? fun child =>
                  failure? ((dialect modules types).build child)) =
                  node.elements.findSome? fun child =>
                    (occurrences child).findSome? (report? types) := by
                refine findSome?_congr ?_
                intro child hchild
                exact ih child hchild (hunder child hchild)
              have hown : (Rule.logical mode).defect? types node =
                  node.strayText?.map (.unexpectedContent node.name) := rfl
              simp only [failure?_build_of_logical hlocator hrule, hbelow,
                findSome?_report?_of_logical hlogical, hreport, hown]
              -- A stray text is found before any rule under the node is built.
              cases node.strayText? <;> rfl

/-- An error is that of an occurrence: it ends in the defect of the node, its wrappings name the
trail of the occurrence, and each of them is worded as the error that it wraps. -/
structure Reports (types : TypeTable) (o : Occurrence) (e : RuleError) : Prop where
  defect : defect? types o.node = some e.root
  trail : e.trail = o.trail
  faithful : e.IsFaithful

/-- A report is the defect of the occurrence, in the words of the rules around it. -/
theorem report?_eq_some_iff {o : Occurrence} :
    report? types o = some e ↔ Reports types o e := by
  constructor
  · intro h
    rcases Option.map_eq_some_iff.1 h with ⟨defect, hdefect, he⟩
    have hkind := isDefect_of_defect? hdefect
    have hroot : e.root = defect := by
      simp only [← he, RuleError.root_foldr, hkind.root_eq]
    have htrail : e.trail = o.trail := by
      simp only [← he, RuleError.trail_foldr, hkind.trail_eq, List.append_nil]
    refine ⟨hroot ▸ hdefect, htrail, ?_⟩
    -- The names are forgotten first: `IsFaithful` would otherwise be evaluated along the trail.
    generalize o.trail = names at he
    exact he ▸ RuleError.isFaithful_foldr hkind.isFaithful names
  · intro h
    simp only [report?, h.defect, Option.map_some, ← h.trail]
    exact congrArg some (RuleError.eq_foldr_of_isFaithful h.faithful).symm

/-- Nothing is reported of an occurrence without a defect. -/
theorem report?_eq_none_iff {o : Occurrence} :
    report? types o = none ↔ defect? types o.node = none :=
  Option.map_eq_none_iff

/-- A tree without locators cannot be built exactly if building comes to a defective node.  The
error is that of the first one in the order of the document, and it is never one about how the
parameters of a rule are declared or handed out. -/
theorem build_reports_first_defect (modules : ModuleTable) (types : TypeTable) {root : RuleNode}
    (hplain : root.isUnqualified = true) :
    ((∃ e, (dialect modules types).build root = .error e) ↔
      ∃ around node, Reached root around node ∧ (defect? types node).isSome = true) ∧
    (∀ e, (dialect modules types).build root = .error e ↔
      ∃ before first after, occurrences root = before ++ first :: after ∧
        (∀ o ∈ before, defect? types o.node = none) ∧ Reports types first e) ∧
    (∀ o, o ∈ occurrences root ↔ Reached root o.around o.node) ∧
    ∀ e, (dialect modules types).build root = .error e →
      (∀ rule name value kind, e.root ≠ .invalidParameter rule name value (.notDeclaredAs kind)) ∧
      ∀ rule name, e.root = .missingParameter rule name →
        ∃ around node, Reached root around node ∧ node.name = rule ∧
          node.parameter? name = none := by
  have hbuild : ∀ e, (dialect modules types).build root = .error e ↔
      (occurrences root).findSome? (report? types) = some e := by
    intro e
    simp only [← failure?_build modules types root hplain, failure?_eq_some_iff]
  refine ⟨?_, ?_, fun o => mem_occurrences_iff, ?_⟩
  · constructor
    · rintro ⟨e, he⟩
      rcases List.exists_of_findSome?_eq_some ((hbuild e).1 he) with ⟨o, ho, hreport⟩
      have hdefect := (report?_eq_some_iff.1 hreport).defect
      exact ⟨o.around, o.node, reached_of_mem_occurrences ho, by simp [hdefect]⟩
    · rintro ⟨around, node, hreached, hdefect⟩
      have hsome : ((occurrences root).findSome? (report? types)).isSome = true := by
        simp only [List.findSome?_isSome_iff]
        have hmem := mem_occurrences_of_reached hreached
        exact ⟨⟨around, node⟩, hmem, by simpa [report?] using hdefect⟩
      rcases Option.isSome_iff_exists.1 hsome with ⟨e, he⟩
      exact ⟨e, (hbuild e).2 he⟩
  · intro e
    simp only [hbuild, List.findSome?_eq_some_iff]
    constructor
    · rintro ⟨before, first, after, hsplit, hfirst, hbefore⟩
      refine ⟨before, first, after, hsplit, ?_, report?_eq_some_iff.1 hfirst⟩
      intro o ho
      exact report?_eq_none_iff.1 (hbefore o ho)
    · rintro ⟨before, first, after, hsplit, hbefore, hfirst⟩
      refine ⟨before, first, after, hsplit, report?_eq_some_iff.2 hfirst, ?_⟩
      intro o ho
      exact report?_eq_none_iff.2 (hbefore o ho)
  · intro e he
    rcases List.exists_of_findSome?_eq_some ((hbuild e).1 he) with ⟨o, ho, hreport⟩
    have hkind := isDefect_of_defect? (report?_eq_some_iff.1 hreport).defect
    -- What is said of the error is said of any defect that a node can have.
    generalize e.root = found at hkind ⊢
    refine ⟨?_, ?_⟩
    · rintro rule name value kind rfl
      cases hkind with
      | invalidParameter _ hfault => exact hfault kind rfl
    · rintro rule name rfl
      cases hkind with
      | missingParameter habsent =>
          exact ⟨o.around, o.node, reached_of_mem_occurrences ho, rfl, habsent⟩

/-- A tree in which a search lacks its expression, before a rule without a builder. -/
def brokenTree : RuleNode :=
  ⟨"and", none, .empty,
    [.text "  ", .element ⟨"true", none, .empty, []⟩,
      .element ⟨"not", none, .empty, [.element ⟨"regex", none, .empty, []⟩]⟩,
      .element ⟨"nor", none, .empty, []⟩]⟩

/-- The first broken rule is named with the rules around it. -/
theorem build_brokenTree :
    ∃ e, (dialect {} .standard).build brokenTree = .error e ∧ e.trail = ["and", "not", "regex"] ∧
      e.root = .missingParameter "regex" "binding" := by
  have hplain : brokenTree.isUnqualified = true := by decide +kernel
  have hreached : Reached brokenTree ["and"] ⟨"nor", none, .empty, []⟩ := by
    have hlogical : isLogical brokenTree = true := by decide +kernel
    exact .under .root hlogical (.tail _ (.tail _ (.head _)))
  have hdefect : (defect? .standard ⟨"nor", none, .empty, []⟩).isSome = true := by decide +kernel
  rcases build_reports_first_defect {} .standard hplain with ⟨hfails, _⟩
  rcases hfails.2 ⟨_, _, hreached, hdefect⟩ with ⟨e, he⟩
  have hreport : (failure? ((dialect {} .standard).build brokenTree)).map
      (fun e => (e.trail, e.root)) =
        some (["and", "not", "regex"], .missingParameter "regex" "binding") := by
    decide +kernel
  have hboth : (e.trail, e.root) =
      (["and", "not", "regex"], RuleError.missingParameter "regex" "binding") := by
    simpa [he] using hreport
  rcases Prod.mk.inj hboth with ⟨htrail, hroot⟩
  exact ⟨e, he, htrail, hroot⟩

end Standard
end ErrorTriage
