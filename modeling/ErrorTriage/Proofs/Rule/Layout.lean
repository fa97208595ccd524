import ErrorTriage.Proofs.Rule.Failure
import Mathlib.Logic.Relation

/-!
# Rule.Layout — how a rule is laid out does not matter

A rule may be laid out in many ways: with comments, with blanks between the rules that it combines,
with texts around the parameters of a comparison, and with a parameter as an attribute or as a rule
under the node.  An `Edit` changes one of these things in one place, at any depth, whether building
comes to the place or not.

An edit cannot be seen from outside: what a rule around the edited one asks of it is the same before
and after, and this is `SameReading`.  Edits under a parameter are among these cases, because no
parameter has the name of a rule that may be edited.
-/

namespace ErrorTriage
namespace RuleNode

/-! ## Contents in two parts -/

theorem elementsOf_append (xs ys : List (RuleContent RuleNode)) :
    elementsOf (xs ++ ys) = elementsOf xs ++ elementsOf ys := by
  induction xs with
  | nil => rfl
  | cons content rest ih =>
      cases content with
      | element node => simpa [elementsOf] using ih
      | comment _ => simpa [elementsOf] using ih
      | text _ => simpa [elementsOf] using ih

theorem textsOf_append (xs ys : List (RuleContent RuleNode)) :
    textsOf (xs ++ ys) = textsOf xs ++ textsOf ys := by
  induction xs with
  | nil => rfl
  | cons content rest ih =>
      cases content with
      | element _ => simpa [textsOf] using ih
      | comment _ => simpa [textsOf] using ih
      | text _ => simpa [textsOf] using ih

/-- What is stray is so by its text alone. -/
theorem strayTextOf?_eq_find? (contents : List (RuleContent RuleNode)) :
    strayTextOf? contents = (textsOf contents).find? fun text => !Text.isBlankText text := by
  induction contents with
  | nil => rfl
  | cons content rest ih =>
      cases content with
      | element _ => simpa [strayTextOf?, textsOf] using ih
      | comment _ => simpa [strayTextOf?, textsOf] using ih
      | text text =>
          cases hblank : Text.isBlankText text with
          | true => simpa [strayTextOf?, textsOf, hblank] using ih
          | false => simp [strayTextOf?, textsOf, hblank]

def holding (node : RuleNode) (contents : List (RuleContent RuleNode)) : RuleNode :=
  { node with children := contents }

def ofText (name text : String) : RuleNode := ⟨name, none, .empty, [.text text]⟩

theorem innerText_ofText {name text : String} (htrim : Text.trim text = text) :
    (ofText name text).innerText = text := by
  have htexts : textsOf (ofText name text).children = [text] := rfl
  simp [innerText, htexts, htrim]

end RuleNode

/-! ## Parameters and rules under a node, of two nodes -/

section Congruence

variable {a b : RuleNode}

/-- Binding depends on the name of the rule and on its parameters. -/
theorem Bindings.bindFrom_congr {types : TypeTable} {params : List Parameter}
    (hname : a.name = b.name) (hparams : ∀ p ∈ params, a.parameter? p.name = b.parameter? p.name)
    (values : SortedMap Argument) :
    bindFrom types a values params = bindFrom types b values params := by
  induction params generalizing values with
  | nil => rfl
  | cons p rest ih =>
      have hfirst : p.reading types a = p.reading types b := by
        simp only [Parameter.reading, hname, hparams p List.mem_cons_self]
      have hrest : ∀ q ∈ rest, a.parameter? q.name = b.parameter? q.name := by
        intro q hq
        exact hparams q (List.mem_cons_of_mem p hq)
      simp only [bindFrom_cons, hfirst, ih hrest]

theorem Dialect.makeBound_congr (d : Dialect) {params : List Parameter} (hname : a.name = b.name)
    (hparams : ∀ p ∈ params, a.parameter? p.name = b.parameter? p.name)
    (make : Taking Assertion) : d.makeBound a params make = d.makeBound b params make := by
  have hbind : Bindings.bind d.types a params = Bindings.bind d.types b params := by
    simp only [Bindings.bind, hname, Bindings.bindFrom_congr hname hparams]
  simp only [makeBound, hbind]

/-- What is below a rule depends on its stray text and on the rules in it. -/
theorem Dialect.buildUnder_congr {d : Dialect} (hname : a.name = b.name)
    (hstray : a.strayText? = b.strayText?)
    (hbelow : a.elements.mapM d.build = b.elements.mapM d.build) :
    d.buildUnder a = d.buildUnder b := by
  have hcontents : d.buildAll a.children = d.buildAll b.children := by
    simp only [buildAll_eq_mapM]
    exact hbelow
  simp only [buildUnder, unexpected?, hname, hstray, hcontents]

end Congruence

/-- Whether a builder makes its assertion from bound parameters. -/
def Builder.isBound : Builder → Bool
  | .bound _ _ => true
  | _ => false

namespace Standard

open RuleNode

variable {a b node : RuleNode}

/-! ## Edits -/

/-- Whether a rule is built from parameters. -/
def hasParameters (node : RuleNode) : Bool :=
  (Vocabulary.standard.get? (builderName node.name)).any Builder.isBound

/-- What may stand under a rule without being read. -/
inductive Unread (node : RuleNode) : RuleContent RuleNode → Prop where
  | comment (text : String) : Unread node (.comment text)
  /-- Blanks stand among the rules that a rule combines. -/
  | blank {text : String} (hlogical : isLogical node = true)
      (hblank : Text.isBlankText text = true) : Unread node (.text text)
  /-- Any text stands among parameters. -/
  | text (text : String) (hparameters : hasParameters node = true) : Unread node (.text text)

/-- A change of the layout of a rule in one place. -/
inductive Edit : RuleNode → RuleNode → Prop where
  /-- Something that is not read is put in somewhere. -/
  | insert {node : RuleNode} {content : RuleContent RuleNode}
      (before after : List (RuleContent RuleNode)) (hunread : Unread node content) :
      Edit (node.holding (before ++ after)) (node.holding (before ++ content :: after))
  /-- An attribute becomes the first rule under the node. -/
  | nest {node : RuleNode} {key value : String} (hparameters : hasParameters node = true)
      (hvalue : node.attributes.get? key = some value) (htrim : Text.trim value = value) :
      Edit node
        { node with
          attributes := node.attributes.erase key
          children := .element (ofText key value) :: node.children }
  /-- A rule under the node is edited. -/
  | within (node : RuleNode) (before after : List (RuleContent RuleNode)) {child edited : RuleNode}
      (hedit : Edit child edited) :
      Edit (node.holding (before ++ .element child :: after))
        (node.holding (before ++ .element edited :: after))

theorem exists_rule_of_hasParameters (h : hasParameters node = true) :
    ∃ rule, Rule.ofName? node.name = some rule ∧ rule.mode? = none := by
  simp only [hasParameters, get?_standard] at h
  cases hrule : Rule.ofName? node.name with
  | none => simp [hrule] at h
  | some rule =>
      refine ⟨rule, rfl, ?_⟩
      cases rule with
      | logical mode => simp [hrule, Rule.builder, logical, Builder.isBound] at h
      | _ => rfl

/-- No combination has parameters. -/
theorem isLogical_of_hasParameters (h : hasParameters node = true) : isLogical node = false := by
  rcases exists_rule_of_hasParameters h with ⟨rule, hrule, hmode⟩
  simp [isLogical, hrule, hmode]

namespace Unread

variable {content : RuleContent RuleNode}

theorem elementsOf_eq (h : Unread node content) (before after : List (RuleContent RuleNode)) :
    elementsOf (before ++ content :: after) = elementsOf (before ++ after) := by
  cases h <;> simp [elementsOf_append, elementsOf]

/-- Only a comment is put into what may be asked for as a parameter. -/
theorem textsOf_eq (h : Unread node content) (hrule : Rule.ofName? node.name = none)
    (before after : List (RuleContent RuleNode)) :
    textsOf (before ++ content :: after) = textsOf (before ++ after) := by
  cases h with
  | comment text => simp [textsOf_append, textsOf]
  | blank hlogical hblank => simp [isLogical, hrule] at hlogical
  | text text hparameters =>
      rcases exists_rule_of_hasParameters hparameters with ⟨rule, hsome, _⟩
      simp [hrule] at hsome

/-- Contents that are not read are no stray text in a combination. -/
theorem strayTextOf?_eq (h : Unread node content) (hlogical : isLogical node = true)
    (before after : List (RuleContent RuleNode)) :
    strayTextOf? (before ++ content :: after) = strayTextOf? (before ++ after) := by
  cases h with
  | comment text => simp [strayTextOf?_eq_find?, textsOf_append, textsOf]
  | blank _ hblank => simp [strayTextOf?_eq_find?, textsOf_append, textsOf, hblank]
  | text text hparameters => simp [isLogical_of_hasParameters hparameters] at hlogical

end Unread

/-! ## What an edit leaves as it was -/

/-- Two nodes answer alike to all that is asked of a rule besides what becomes of the rules under
it: its name, the text that it has as a parameter, the text that stands in the way of combining
rules, and its own parameters. -/
structure SameReading (a b : RuleNode) : Prop where
  name : a.name = b.name
  locator : a.locator = b.locator
  innerText : Rule.ofName? a.name = none → a.innerText = b.innerText
  strayText : isLogical a = true → a.strayText? = b.strayText?
  parameter : ∀ key, Rule.ofName? key = none → a.parameter? key = b.parameter? key

/-- A rule reads the same with contents that are not read. -/
theorem Unread.sameReading {content : RuleContent RuleNode} (h : Unread node content)
    (before after : List (RuleContent RuleNode)) :
    SameReading (node.holding (before ++ after)) (node.holding (before ++ content :: after)) where
  name := rfl
  locator := rfl
  innerText := by
    intro hrule
    have hnode : Rule.ofName? node.name = none := hrule
    simp only [RuleNode.innerText, holding, h.textsOf_eq hnode]
  strayText := by
    intro hlogical
    exact (h.strayTextOf?_eq hlogical before after).symm
  parameter := by
    intro key _
    simp only [RuleNode.parameter?, RuleNode.elements, holding, h.elementsOf_eq]

/-- The new rule is the first of its name, and the name is asked for nowhere else. -/
theorem sameReading_nest {key value : String}
    (hvalue : node.attributes.get? key = some value) (htrim : Text.trim value = value) :
    SameReading node
      { node with
        attributes := node.attributes.erase key
        children := .element (ofText key value) :: node.children } where
  name := rfl
  locator := rfl
  innerText := fun _ => rfl
  strayText := fun _ => rfl
  parameter := by
    intro other _
    simp only [RuleNode.parameter?, SortedMap.get?_erase]
    by_cases hkey : key = other
    · subst hkey
      have hname : (ofText key value).name = key := rfl
      simp [hvalue, RuleNode.elements, elementsOf, hname, innerText_ofText htrim]
    · have hname : (ofText key value).name ≠ other := hkey
      simp [hkey, RuleNode.elements, elementsOf, hname]

/-- A rule around two that read alike reads alike.  It may ask for the text of one of them, but
then by the name of a parameter. -/
theorem SameReading.around (h : SameReading a b) (node : RuleNode)
    (before after : List (RuleContent RuleNode)) :
    SameReading (node.holding (before ++ .element a :: after))
      (node.holding (before ++ .element b :: after)) where
  name := rfl
  locator := rfl
  innerText := by
    intro _
    simp [RuleNode.innerText, holding, textsOf_append, textsOf]
  strayText := by
    intro _
    simp [RuleNode.strayText?, holding, strayTextOf?_eq_find?, textsOf_append, textsOf]
  parameter := by
    intro key hkey
    -- From the two on, the first rule of the name is the same one, or it is one of the two.
    have hfirst : ((a :: elementsOf after).find? fun child => child.name = key).map
        RuleNode.innerText =
          ((b :: elementsOf after).find? fun child => child.name = key).map
            RuleNode.innerText := by
      by_cases hname : a.name = key
      · have hother : b.name = key := h.name.symm.trans hname
        have htext : a.innerText = b.innerText := h.innerText (hname ▸ hkey)
        simp [hname, hother, htext]
      · have hother : b.name ≠ key := fun heq => hname (h.name.trans heq)
        simp [hname, hother]
    simp only [RuleNode.parameter?, RuleNode.elements, holding, elementsOf_append, elementsOf,
      List.find?_append]
    cases (elementsOf before).find? fun child => child.name = key with
    | some child => rfl
    | none => simp only [Option.none_or, hfirst]

/-- A rule reads the same after an edit. -/
theorem Edit.sameReading (h : Edit a b) : SameReading a b := by
  induction h with
  | insert before after hunread => exact hunread.sameReading before after
  | nest _ hvalue htrim => exact sameReading_nest hvalue htrim
  | within node before after _ ih => exact ih.around node before after

/-! ## Building what reads alike -/

/-- No parameter is named like a rule. -/
theorem ofName?_parameter {rule : Rule} {p : Parameter} (hp : p ∈ rule.parameters) :
    Rule.ofName? p.name = none := by
  have hknown : ∀ p ∈ [binding, optionalBinding, typeCode, value, namedType, pattern,
      caseSensitive], Rule.ofName? p.name = none := by
    decide +kernel
  have hsubset : rule.parameters ⊆ [binding, optionalBinding, typeCode, value, namedType, pattern,
      caseSensitive] := by
    cases rule <;> simp [Rule.parameters]
  exact hknown p (hsubset hp)

/-- What reads alike is built alike, if the rules that it combines are. -/
theorem build_congr {modules : ModuleTable} {types : TypeTable} (h : SameReading a b)
    (hplain : a.isUnqualified = true)
    (hbelow : isLogical a = true →
      a.elements.mapM (dialect modules types).build =
        b.elements.mapM (dialect modules types).build) :
    (dialect modules types).build a = (dialect modules types).build b := by
  have hlocator : a.locator = none := (RuleNode.isUnqualified_iff.1 hplain).1
  have hlocator' : b.locator = none := h.locator.symm.trans hlocator
  cases hrule : Rule.ofName? b.name with
  | none =>
      have hrule' : Rule.ofName? a.name = none := h.name ▸ hrule
      simp only [build_of_ofName?_eq_none hlocator hrule',
        build_of_ofName?_eq_none hlocator' hrule, h.name]
  | some rule =>
      have hrule' : Rule.ofName? a.name = some rule := h.name ▸ hrule
      -- The two may differ in what is named like a rule, and no parameter is.
      have hbound (make : Taking Assertion) :
          (dialect modules types).makeBound a rule.parameters make =
            (dialect modules types).makeBound b rule.parameters make := by
        refine Dialect.makeBound_congr _ h.name ?_ make
        intro p hp
        exact h.parameter p.name (ofName?_parameter hp)
      cases rule with
      | logical mode =>
          have hlogical : isLogical a = true := by simp [isLogical, hrule', Rule.mode?]
          have hunder := Dialect.buildUnder_congr h.name (h.strayText hlogical) (hbelow hlogical)
          simp only [build_of_logical hlocator hrule', build_of_logical hlocator' hrule, hunder,
            h.name]
      | constant truth =>
          simp only [Dialect.build_eq, builderOf_dialect hlocator, builderOf_dialect hlocator',
            hrule, h.name]
          rfl
      | _ =>
          simp only [Dialect.build_eq, builderOf_dialect hlocator, builderOf_dialect hlocator',
            hrule, h.name]
          exact congrArg (Except.mapError _) (hbound _)

/-! ## Edits do not change what is built -/

/-- Whether a tree is unqualified depends on its locator and on the trees below it. -/
theorem isUnqualified_congr (hlocator : a.locator = b.locator)
    (hunder : (∀ child ∈ a.elements, child.isUnqualified = true) ↔
      ∀ child ∈ b.elements, child.isUnqualified = true) :
    a.isUnqualified = true ↔ b.isUnqualified = true := by
  rw [RuleNode.isUnqualified_iff, RuleNode.isUnqualified_iff, hlocator, hunder]

/-- An edit does not qualify a tree or any rule in it. -/
theorem Edit.isUnqualified_iff (h : Edit a b) :
    a.isUnqualified = true ↔ b.isUnqualified = true := by
  induction h with
  | insert before after hunread =>
      refine isUnqualified_congr rfl ?_
      simp only [RuleNode.elements, holding, hunread.elementsOf_eq]
  | @nest node key value _ _ _ =>
      refine isUnqualified_congr rfl ?_
      have hnew : (ofText key value).isUnqualified = true := rfl
      simp [RuleNode.elements, elementsOf, hnew]
  | within node before after _ ih =>
      refine isUnqualified_congr rfl ?_
      simp only [RuleNode.elements, holding, elementsOf_append, elementsOf, List.forall_mem_append,
        List.forall_mem_cons, ih]

/-- A tree is built the same after an edit. -/
theorem Edit.build_eq (h : Edit a b) (hplain : a.isUnqualified = true) (modules : ModuleTable)
    (types : TypeTable) :
    (dialect modules types).build a = (dialect modules types).build b := by
  have hread : SameReading a b := h.sameReading
  -- On the way down to the edit: a rule under the node is the same, or edited and built alike.
  induction h with
  | insert before after hunread =>
      refine build_congr hread hplain fun _ => ?_
      simp only [RuleNode.elements, holding, hunread.elementsOf_eq]
  | nest hparameters hvalue htrim =>
      refine build_congr hread hplain fun hlogical => ?_
      simp [isLogical_of_hasParameters hparameters] at hlogical
  | @within node before after child edited hedit ih =>
      refine build_congr hread hplain fun _ => ?_
      have hmem : child ∈ (node.holding (before ++ .element child :: after)).elements := by
        simp [holding, RuleNode.elements, elementsOf_append, elementsOf]
      have hplainChild := (RuleNode.isUnqualified_iff.1 hplain).2 child hmem
      have hchild := ih hplainChild hedit.sameReading
      simp only [holding, RuleNode.elements, elementsOf_append, elementsOf, List.mapM_append,
        List.mapM_cons, hchild]

/-- Either both trees are free of locators, and built alike, or neither is. -/
structure BuiltAlike (modules : ModuleTable) (types : TypeTable) (a b : RuleNode) : Prop where
  unqualified : a.isUnqualified = true ↔ b.isUnqualified = true
  build : a.isUnqualified = true →
    (dialect modules types).build a = (dialect modules types).build b

theorem Edit.builtAlike (h : Edit a b) (modules : ModuleTable) (types : TypeTable) :
    BuiltAlike modules types a b :=
  ⟨h.isUnqualified_iff, fun hplain => h.build_eq hplain modules types⟩

/-- A tree is built the same after any edits, done or undone. -/
theorem builtAlike_of_eqvGen (h : Relation.EqvGen Edit a b) (modules : ModuleTable)
    (types : TypeTable) : BuiltAlike modules types a b := by
  induction h with
  | rel a b hedit => exact hedit.builtAlike modules types
  | refl a => exact ⟨Iff.rfl, fun _ => rfl⟩
  | symm a b _ ih =>
      refine ⟨ih.unqualified.symm, ?_⟩
      intro hplain
      exact (ih.build (ih.unqualified.2 hplain)).symm
  | trans a b c _ _ ihleft ihright =>
      refine ⟨ihleft.unqualified.trans ihright.unqualified, ?_⟩
      intro hplain
      have hmiddle : b.isUnqualified = true := ihleft.unqualified.1 hplain
      exact (ihleft.build hplain).trans (ihright.build hmiddle)

/-- Trees without locators that differ in their layout are built alike: one is an assertion exactly
if the other is, and then the same one, and else both fail with the same error. -/
theorem layout_is_not_read (modules : ModuleTable) (types : TypeTable)
    (hplain : a.isUnqualified = true) (h : Relation.EqvGen Edit a b) :
    b.isUnqualified = true ∧
      (dialect modules types).build b = (dialect modules types).build a := by
  have halike : BuiltAlike modules types a b := builtAlike_of_eqvGen h modules types
  exact ⟨halike.unqualified.1 hplain, (halike.build hplain).symm⟩

/-- A rule that is written without anything to spare. -/
def tightRule : RuleNode :=
  ⟨"not", none, .empty,
    [.element ⟨"equal", none,
      .ofList [("binding", "Status"), ("type", "double"), ("value", "404")], []⟩]⟩

/-- The same rule, spread over several lines. -/
def spreadRule : RuleNode :=
  ⟨"not", none, .empty,
    [.text "\n  ", .comment "pages that exist", .element ⟨"equal", none,
      .ofList [("binding", "Status"), ("type", "double")],
      [.element (ofText "value" "404"), .text "is what a missing page answers"]⟩]⟩

theorem eqvGen_spreadRule : Relation.EqvGen Edit tightRule spreadRule := by
  let attributes : SortedMap String :=
    .ofList [("binding", "Status"), ("type", "double"), ("value", "404")]
  let inner : RuleNode := ⟨"equal", none, .ofList [("binding", "Status"), ("type", "double")], []⟩
  have herase : attributes.erase "value" = inner.attributes :=
    SortedMap.ext_entries (by decide +kernel)
  have hparameters : hasParameters inner = true := by decide +kernel
  -- From the inside out: the value, the text beside it, then the comment and the line break.
  have hnest : Edit ⟨"equal", none, attributes, []⟩
      (inner.holding [.element (ofText "value" "404")]) := by
    have hmoved : Edit ⟨"equal", none, attributes, []⟩
        ⟨"equal", none, attributes.erase "value", [.element (ofText "value" "404")]⟩ :=
      .nest hparameters (by decide +kernel) (by decide +kernel)
    rwa [herase] at hmoved
  have htext : Edit (inner.holding [.element (ofText "value" "404")])
      (inner.holding
        [.element (ofText "value" "404"), .text "is what a missing page answers"]) :=
    .insert [.element (ofText "value" "404")] [] (.text _ hparameters)
  let outer : RuleNode := ⟨"not", none, .empty, []⟩
  have hcomment (node : RuleNode) : Edit (outer.holding [.element node])
      (outer.holding [.comment "pages that exist", .element node]) :=
    .insert [] [.element node] (.comment _)
  have hblank (contents : List (RuleContent RuleNode)) :
      Edit (outer.holding contents) (outer.holding (.text "\n  " :: contents)) :=
    .insert [] contents (.blank (by decide +kernel) (by decide +kernel))
  exact .trans _ _ _ (.rel _ _ (.within outer [] [] hnest))
    (.trans _ _ _ (.rel _ _ (.within outer [] [] htext))
      (.trans _ _ _ (.rel _ _ (hcomment _)) (.rel _ _ (hblank _))))

theorem layout_is_not_read_spreadRule :
    tightRule.isUnqualified = true ∧ Relation.EqvGen Edit tightRule spreadRule ∧
      failure? ((dialect {} .standard).build tightRule) = none ∧
      (dialect {} .standard).build spreadRule = (dialect {} .standard).build tightRule := by
  have hplain : tightRule.isUnqualified = true := by decide +kernel
  have hbuilt : failure? ((dialect {} .standard).build tightRule) = none := by decide +kernel
  rcases layout_is_not_read {} .standard hplain eqvGen_spreadRule with ⟨_, hbuild⟩
  exact ⟨hplain, eqvGen_spreadRule, hbuilt, hbuild⟩

end Standard
end ErrorTriage
