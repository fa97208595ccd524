import ErrorTriage.Proofs.Outcome
import ErrorTriage.Proofs.Rule.Failure
import ErrorTriage.Proofs.Text.Words
import Mathlib.Data.List.Forall2

/-!
# Rule.Naming — one rule under many names

Blanks around the name of a rule do not count, and hyphens and underscores are not told apart, so a
rule can be written in many ways.  The names of the rules that building comes to can be written
otherwise, one by one, and the tree is still built to the same assertion or still fails.

The errors do differ: they name the rule as it is written.  So results are compared by their values.
The rules under a rule that combines nothing are not built but looked up as parameters, and their
names have to stay as they are.
-/

namespace ErrorTriage

open ErrorTriage.Path (AreBlanks)
open Text (trimList isBlank)

/-! ## Names -/

namespace Standard

/-- A character of a plain name. -/
def underscored (c : Char) : Char := if c = '-' then '_' else c

theorem plainName_eq (name : String) :
    plainName name = String.ofList ((trimList name.toList).map underscored) := rfl

/-- Hyphens and underscores are no blanks. -/
theorem isBlank_underscored (c : Char) : isBlank (underscored c) = isBlank c := by
  by_cases h : c = '-'
  · subst h
    decide
  · simp [underscored, h]

/-- Trimming and reading hyphens as underscores can be done in either order. -/
theorem trimList_map_underscored (cs : List Char) :
    trimList (cs.map underscored) = (trimList cs).map underscored := by
  have hblank : isBlank ∘ underscored = isBlank := funext isBlank_underscored
  simp only [trimList, Text.trimBack, Text.trimFront, List.dropWhile_map, hblank,
    ← List.map_reverse]

/-- Two characters that stand for each other in names. -/
def SameLetter (c d : Char) : Prop := c = d ∨ (c = '-' ∨ c = '_') ∧ (d = '-' ∨ d = '_')

theorem sameLetter_iff {c d : Char} : SameLetter c d ↔ underscored c = underscored d := by
  by_cases hc : c = '-'
  · by_cases hd : d = '-' <;> simp [SameLetter, underscored, hc, hd, eq_comm]
  · by_cases hd : d = '-'
    · simp [SameLetter, underscored, hc, hd]
    · simp only [SameLetter, underscored, hc, hd, if_false, false_or]
      constructor
      · rintro (rfl | ⟨rfl, rfl⟩) <;> rfl
      · exact .inl

/-- Two names that differ in the blanks around them and in hyphens and underscores only. -/
def IsRespelling (name other : String) : Prop :=
  ∃ front core back front' core' back',
    AreBlanks front ∧ AreBlanks back ∧ AreBlanks front' ∧ AreBlanks back' ∧
    name.toList = front ++ (core ++ back) ∧ other.toList = front' ++ (core' ++ back') ∧
    List.Forall₂ SameLetter core core'

/-- Names are the same if their letters are, one by one. -/
theorem map_underscored_eq_iff {xs ys : List Char} :
    xs.map underscored = ys.map underscored ↔ List.Forall₂ SameLetter xs ys := by
  have hsame : SameLetter = fun c d => underscored c = underscored d := by
    funext c d
    exact propext sameLetter_iff
  rw [← List.forall₂_eq_eq_eq, List.forall₂_map_left_iff, List.forall₂_map_right_iff, hsame]

/-- The plain names are the same exactly for respellings. -/
theorem plainName_eq_plainName_iff {name other : String} :
    plainName name = plainName other ↔ IsRespelling name other := by
  constructor
  · intro h
    have hcores : (trimList name.toList).map underscored
        = (trimList other.toList).map underscored := String.ofList_injective h
    rcases Text.exists_blanks_around_trimList name.toList with ⟨front, back, hfront, hback, hname⟩
    rcases Text.exists_blanks_around_trimList other.toList with
      ⟨front', back', hfront', hback', hother⟩
    exact ⟨front, _, back, front', _, back', hfront, hback, hfront', hback', hname, hother,
      map_underscored_eq_iff.1 hcores⟩
  · rintro ⟨front, core, back, front', core', back', hfront, hback, hfront', hback', hname, hother,
      hcores⟩
    rw [plainName_eq, plainName_eq, hname, hother, Text.trimList_between hfront hback,
      Text.trimList_between hfront' hback', ← trimList_map_underscored,
      ← trimList_map_underscored, map_underscored_eq_iff.2 hcores]

/-- Only the plain name of a rule decides what the rule is. -/
theorem IsRespelling.ofName?_eq {name other : String} (h : IsRespelling name other) :
    Rule.ofName? name = Rule.ofName? other := by
  rw [Rule.ofName?, Rule.ofName?, plainName_eq_plainName_iff.2 h]

end Standard

/-! ## Builders that do not look at the name of their rule -/

namespace Taking

variable {α β : Type}

/-- What a builder came to under two names of a rule: the same value, or an error each, which may
name the rule.  It left the same values. -/
inductive SameOutcome (rule other : String) :
    Except RuleError α × Bindings → Except RuleError α × Bindings → Prop where
  | ok (a : α) (rest : SortedMap Argument) :
      SameOutcome rule other (.ok a, ⟨rule, rest⟩) (.ok a, ⟨other, rest⟩)
  | error (e e' : RuleError) (rest : SortedMap Argument) :
      SameOutcome rule other (.error e, ⟨rule, rest⟩) (.error e', ⟨other, rest⟩)

/-- A builder that makes the same of the same values whatever the rule is called. -/
def IgnoresName (t : Taking α) : Prop :=
  ∀ rule other values, SameOutcome rule other (t.outcome ⟨rule, values⟩) (t.outcome ⟨other, values⟩)

/-- What ignores the name of the rule has the same value under any name. -/
theorem IgnoresName.value?_runOn {t : Taking α} (h : t.IgnoresName) (rule other : String)
    (values : SortedMap Argument) :
    value? (t.runOn ⟨rule, values⟩) = value? (t.runOn ⟨other, values⟩) := by
  have hsame := h rule other values
  rw [runOn_eq_outcome, runOn_eq_outcome]
  generalize t.outcome ⟨rule, values⟩ = one at hsame ⊢
  generalize t.outcome ⟨other, values⟩ = two at hsame ⊢
  cases hsame <;> rfl

theorem ignoresName_pure (a : α) : (pure a : Taking α).IgnoresName :=
  fun _ _ values => .ok a values

/-- What is done after another ignores the name if both do. -/
theorem IgnoresName.bind {t : Taking α} {f : α → Taking β} (ht : t.IgnoresName)
    (hf : ∀ a, (f a).IgnoresName) : (t >>= f).IgnoresName := by
  intro rule other values
  have hsame := ht rule other values
  simp only [outcome_bind]
  generalize t.outcome ⟨rule, values⟩ = one at hsame ⊢
  generalize t.outcome ⟨other, values⟩ = two at hsame ⊢
  cases hsame with
  | ok a rest => exact hf a rule other rest
  | error e e' rest => exact .error e e' rest

theorem ignoresName_failMissing (name : String) : (failMissing name : Taking α).IgnoresName :=
  fun _ _ values => .error _ _ values

theorem ignoresName_failKind (name : String) (kind : ParameterKind) :
    (failKind name kind : Taking α).IgnoresName :=
  fun _ _ values => .error _ _ values

/-- A value is taken out under any name of the rule; what is made of it has to ignore the name. -/
theorem ignoresName_take_bind {name : String} {f : Option Argument → Taking α}
    (hnone : (f none).IgnoresName) (hsome : ∀ arg, (f (some arg)).IgnoresName) :
    (take name >>= f).IgnoresName := by
  have htake : (take name).IgnoresName := fun _ _ values => .ok _ (values.erase name)
  refine htake.bind fun found => ?_
  cases found with
  | none => exact hnone
  | some arg => exact hsome arg

theorem ignoresName_expression (name : String) : (expression name).IgnoresName :=
  ignoresName_take_bind (ignoresName_failMissing name) fun arg => by
    cases arg <;> first | exact ignoresName_pure _ | exact ignoresName_failKind name _

theorem ignoresName_optionalExpression (name : String) : (optionalExpression name).IgnoresName :=
  ignoresName_take_bind (ignoresName_pure none) fun arg => by
    cases arg <;> first | exact ignoresName_pure _ | exact ignoresName_failKind name _

theorem ignoresName_namedType (name : String) : (namedType name).IgnoresName :=
  ignoresName_take_bind (ignoresName_failMissing name) fun arg => by
    cases arg <;> first | exact ignoresName_pure _ | exact ignoresName_failKind name _

theorem ignoresName_typeCode (name : String) : (typeCode name).IgnoresName :=
  ignoresName_take_bind (ignoresName_failMissing name) fun arg => by
    cases arg <;> first | exact ignoresName_pure _ | exact ignoresName_failKind name _

theorem ignoresName_text (name : String) : (text name).IgnoresName :=
  ignoresName_take_bind (ignoresName_pure "") fun arg => by
    cases arg <;> first | exact ignoresName_pure _ | exact ignoresName_failKind name _

theorem ignoresName_flag (name : String) : (flag name).IgnoresName :=
  ignoresName_take_bind (ignoresName_pure false) fun arg => by
    cases arg <;> first | exact ignoresName_pure _ | exact ignoresName_failKind name _

theorem ignoresName_ofLiteral (result : Except LiteralError α) :
    (ofLiteral result).IgnoresName := by
  cases result with
  | ok a => exact ignoresName_pure a
  | error e => exact fun _ _ values => .error _ _ values

theorem ignoresName_ofPattern (result : Option α) : (ofPattern result).IgnoresName := by
  cases result with
  | none => exact fun _ _ values => .error _ _ values
  | some a => exact ignoresName_pure a

end Taking

namespace Standard

/-- The standard rules do not look at their names once their parameters are bound. -/
theorem ignoresName_of_builder {rule : Rule} {params : List Parameter} {make : Taking Assertion}
    (h : rule.builder = .bound params make) : make.IgnoresName := by
  cases rule with
  | constant b => cases h
  | logical mode => cases h
  | nullTest negated =>
      cases h
      exact (Taking.ignoresName_expression _).bind fun _ => Taking.ignoresName_pure _
  | comparison relation negated =>
      cases h
      refine (Taking.ignoresName_expression _).bind fun e => ?_
      refine (Taking.ignoresName_typeCode _).bind fun code => ?_
      refine (Taking.ignoresName_text _).bind fun text => ?_
      exact (Taking.ignoresName_ofLiteral _).bind fun _ => Taking.ignoresName_pure _
  | typeCheck byAssignability =>
      cases h
      refine (Taking.ignoresName_optionalExpression _).bind fun e => ?_
      exact (Taking.ignoresName_namedType _).bind fun _ => Taking.ignoresName_pure _
  | search =>
      cases h
      refine (Taking.ignoresName_expression _).bind fun e => ?_
      refine (Taking.ignoresName_text _).bind fun text => ?_
      exact (Taking.ignoresName_flag _).bind fun _ => Taking.ignoresName_ofPattern _

end Standard

/-! ## Binding under another name -/

section Binding

variable {types : TypeTable} {node other : RuleNode}

/-- Conversion has the same value under any name. -/
theorem value?_convert (types : TypeTable) (rule other : String) (p : Parameter) (text : String) :
    value? (p.convert types rule text) = value? (p.convert types other text) := by
  rcases p with ⟨name, kind, required⟩
  cases kind <;> simp only [Parameter.convert] <;> split <;> rfl

theorem value?_bindFrom (h : ∀ name, node.parameter? name = other.parameter? name)
    (params : List Parameter) (values : SortedMap Argument) :
    value? (Bindings.bindFrom types node values params) =
      value? (Bindings.bindFrom types other values params) := by
  -- Over the parameters: as long as none fails, the same values are bound under both names.
  induction params generalizing values with
  | nil => rfl
  | cons p rest ih =>
      simp only [Bindings.bindFrom, h]
      cases other.parameter? p.name with
      | none => cases p.required <;> simp [ih]
      | some text =>
          have hconvert := value?_convert types node.name other.name p text
          simp only
          cases hnode : p.convert types node.name text <;>
            cases hother : p.convert types other.name text <;>
            simp_all

/-- Making from parameters has the same value under any name. -/
theorem Dialect.value?_makeBound (d : Dialect) {params : List Parameter} {make : Taking Assertion}
    (hmake : make.IgnoresName) (h : ∀ name, node.parameter? name = other.parameter? name) :
    value? (d.makeBound node params make) = value? (d.makeBound other params make) := by
  have hvalues : value? (Bindings.bindFrom d.types node .empty params) =
      value? (Bindings.bindFrom d.types other .empty params) := value?_bindFrom h params .empty
  simp only [makeBound, Bindings.bind]
  cases hnode : Bindings.bindFrom d.types node .empty params with
  | ok values =>
      simp only [hnode] at hvalues
      have hother : Bindings.bindFrom d.types other .empty params = .ok values :=
        value?_eq_some_iff.1 hvalues.symm
      simp only [hother, Except.map]
      exact hmake.value?_runOn node.name other.name values
  | error e =>
      simp only [hnode] at hvalues
      cases hother : Bindings.bindFrom d.types other .empty params with
      | ok values => simp [hother] at hvalues
      | error e' => rfl

end Binding

/-! ## Trees -/

/-- Two contents of a rule that are both rules, which are related, or that are equal. -/
inductive RuleContent.Related (r : RuleNode → RuleNode → Prop) :
    RuleContent RuleNode → RuleContent RuleNode → Prop where
  | element {node other : RuleNode} (h : r node other) : Related r (.element node) (.element other)
  | comment (text : String) : Related r (.comment text) (.comment text)
  | text (text : String) : Related r (.text text) (.text text)

namespace Standard

/-- Two trees that differ only in how the names of rules are written that building comes to: of the
root, and, if it combines them, of the rules under it. -/
inductive Respelled : RuleNode → RuleNode → Prop where
  | root {name other : String} (locator : Option String) (attributes : SortedMap String)
      (children : List (RuleContent RuleNode)) (hname : IsRespelling name other) :
      Respelled ⟨name, locator, attributes, children⟩ ⟨other, locator, attributes, children⟩
  | combined {name other : String} {children children' : List (RuleContent RuleNode)}
      (locator : Option String) (attributes : SortedMap String) (hname : IsRespelling name other)
      (hlogical : isLogical ⟨name, locator, attributes, children⟩ = true)
      (hchildren : List.Forall₂ (RuleContent.Related Respelled) children children') :
      Respelled ⟨name, locator, attributes, children⟩ ⟨other, locator, attributes, children'⟩

theorem elementsOf_of_related {r : RuleNode → RuleNode → Prop} {xs ys : List (RuleContent RuleNode)}
    (h : List.Forall₂ (RuleContent.Related r) xs ys) :
    List.Forall₂ r (RuleNode.elementsOf xs) (RuleNode.elementsOf ys) := by
  induction h with
  | nil => exact .nil
  | cons hcontent _ ih =>
      cases hcontent with
      | element hnode => exact .cons hnode ih
      | comment text => exact ih
      | text text => exact ih

/-- Related contents have the same stray text. -/
theorem strayTextOf?_of_related {r : RuleNode → RuleNode → Prop}
    {xs ys : List (RuleContent RuleNode)} (h : List.Forall₂ (RuleContent.Related r) xs ys) :
    RuleNode.strayTextOf? xs = RuleNode.strayTextOf? ys := by
  induction h with
  | nil => rfl
  | cons hcontent _ ih => cases hcontent <;> simp only [RuleNode.strayTextOf?, ih]

variable {modules : ModuleTable} {types : TypeTable} {node other : RuleNode}

/-- Where there are no modules, a qualified rule is not built. -/
theorem value?_build_of_locator {text : String} (h : node.locator = some text) :
    value? ((dialect {} types).build node) = none := by
  have hbuilder : value? ((dialect {} types).builderOf node) = none := by
    simp only [Dialect.builderOf, Dialect.vocabularyOf, h]
    cases Locator.ofText? text <;> rfl
  rw [Dialect.build_eq]
  cases hfound : (dialect {} types).builderOf node with
  | error e => rfl
  | ok b => simp [hfound] at hbuilder

/-- The value of a combination is that of the rules below it. -/
theorem value?_build_of_logical {mode : Connective} (hplain : node.locator = none)
    (hrule : Rule.ofName? node.name = some (.logical mode)) :
    value? ((dialect modules types).build node) =
      match node.strayText? with
      | some _ => none
      | none =>
        (node.elements.mapM fun child => value? ((dialect modules types).build child)).map
          (.logical mode) := by
  have hunder : value? ((dialect modules types).buildAll node.children) =
      node.elements.mapM fun child => value? ((dialect modules types).build child) := by
    rw [Dialect.buildAll_eq_mapM, value?_mapM]
    rfl
  rw [build_of_logical hplain hrule, value?_mapError, value?_map, Dialect.buildUnder,
    Dialect.unexpected?, ← hunder]
  cases node.strayText? <;> rfl

/-- A rule without rules below it has the same value in another spelling. -/
theorem value?_build_of_mode?_eq_none {rule : Rule} (hplain : node.locator = none)
    (hlocator : other.locator = none) (hrule : Rule.ofName? node.name = some rule)
    (hname : IsRespelling node.name other.name) (hmode : rule.mode? = none)
    (h : ∀ name, node.parameter? name = other.parameter? name) :
    value? ((dialect modules types).build node) = value? ((dialect modules types).build other) := by
  have hrule' : Rule.ofName? other.name = some rule := hname.ofName?_eq ▸ hrule
  simp only [Dialect.build_eq, builderOf_dialect hplain, builderOf_dialect hlocator, hrule, hrule']
  cases hbuilder : rule.builder with
  | leaf make =>
      cases rule <;> cases hbuilder
      rfl
  | bound params make =>
      simp only [value?_mapError]
      exact Dialect.value?_makeBound _ (ignoresName_of_builder hbuilder) h
  | composite combine =>
      cases rule <;> cases hbuilder
      cases hmode

theorem mapM_congr_of_forall₂ {α β : Type} {f : α → Option β} {xs ys : List α}
    (h : List.Forall₂ (fun x y => f x = f y) xs ys) : xs.mapM f = ys.mapM f := by
  induction h with
  | nil => rfl
  | cons hfirst _ ih => rw [List.mapM_cons, List.mapM_cons, hfirst, ih]

/-- A combination depends on what the rules under it are built to. -/
theorem value?_build_of_logical_congr {mode : Connective} (hplain : node.locator = none)
    (hlocator : other.locator = none) (hrule : Rule.ofName? node.name = some (.logical mode))
    (hname : IsRespelling node.name other.name) (hstray : node.strayText? = other.strayText?)
    (hunder : List.Forall₂ (fun child child' => value? ((dialect modules types).build child) =
      value? ((dialect modules types).build child')) node.elements other.elements) :
    value? ((dialect modules types).build node) = value? ((dialect modules types).build other) := by
  have hrule' : Rule.ofName? other.name = some (.logical mode) := hname.ofName?_eq ▸ hrule
  rw [value?_build_of_logical hplain hrule, value?_build_of_logical hlocator hrule', hstray,
    mapM_congr_of_forall₂ hunder]

/-- How names are written makes no difference to the assertion of a tree, nor to whether there is
one. -/
theorem Respelled.value?_build_eq (h : Respelled node other)
    (hplain : modules = {} ∨ node.isUnqualified = true) :
    value? ((dialect modules types).build node) = value? ((dialect modules types).build other) := by
  -- Over the rules under a rule.  A rule is compared with its respelling by what it asks for: the
  -- rules under it are built only if it combines them, and otherwise they are the same.
  induction node using RuleNode.inductionOnElements generalizing other with
  | step node ih =>
      cases hlocator : node.locator with
      | some text =>
          -- A plain tree has no locators, and without modules a locator is an error in both.
          have hmodules : modules = {} := by
            refine hplain.resolve_right fun hunqualified => ?_
            simp [(RuleNode.isUnqualified_iff.1 hunqualified).1] at hlocator
          have hother : other.locator = some text := by cases h <;> exact hlocator
          rw [hmodules, value?_build_of_locator hlocator, value?_build_of_locator hother]
      | none =>
          have hother : other.locator = none := by cases h <;> exact hlocator
          have hname : IsRespelling node.name other.name := by cases h <;> assumption
          cases hrule : Rule.ofName? node.name with
          | none =>
              have hrule' : Rule.ofName? other.name = none := hname.ofName?_eq ▸ hrule
              rw [build_of_ofName?_eq_none hlocator hrule, build_of_ofName?_eq_none hother hrule']
              rfl
          | some rule =>
              cases hmode : rule.mode? with
              | none =>
                  refine value?_build_of_mode?_eq_none hlocator hother hrule hname hmode ?_
                  cases h with
                  | root _ _ _ _ => exact fun _ => rfl
                  | combined _ _ _ hlogical _ => simp [isLogical, hrule, hmode] at hlogical
              | some mode =>
                  have heq := Rule.eq_logical_of_mode? hmode
                  subst heq
                  have hunder (child : RuleNode) (hchild : child ∈ node.elements) (b : RuleNode)
                      (hrespelled : Respelled child b) :
                      value? ((dialect modules types).build child) =
                        value? ((dialect modules types).build b) :=
                    ih child hchild hrespelled <| hplain.imp_right fun hunqualified =>
                      (RuleNode.isUnqualified_iff.1 hunqualified).2 child hchild
                  cases h with
                  | root _ _ children _ =>
                      exact value?_build_of_logical_congr hlocator hother hrule hname rfl
                        (List.forall₂_same.2 fun _ _ => rfl)
                  | combined _ _ _ _ hchildren =>
                      refine value?_build_of_logical_congr hlocator hother hrule hname
                        (strayTextOf?_of_related hchildren) ?_
                      have hpairs := (List.forall₂_and_left _ _).2
                        ⟨hunder, elementsOf_of_related hchildren⟩
                      exact hpairs.imp fun _ _ h => h.1 _ h.2

end Standard
end ErrorTriage
