import ErrorTriage.Proofs.Rule.Layout

/-!
# Rule.Separation — qualified and plain rules

A rule with a locator is made by a builder of the module that the locator names, any other rule by a
builder of the main vocabulary.  This is decided for each rule alone: a builder that combines the
rules under its own is given what building them gave, and has no say in who builds them.

The builders of a `Dialect` are of three kinds.  The results here are about an `OpenDialect`, whose
builders may do anything with a rule and with what building the rules under it gave.  A dialect is
one of these (`Dialect.build_eq_opened`).
-/

namespace ErrorTriage

/-! ## Builders of any kind -/

/-- How the assertion of a rule is made: from the types, the rule, and what building the rules under
it gave. -/
abbrev Assembly : Type :=
  TypeTable → RuleNode → Except RuleError (List Assertion) → Except RuleError Assertion

/-- Assemblies by the names of their builders. -/
abbrev Assemblies : Type := String → Option Assembly

/-- What a builder does with a rule. -/
def Builder.assembly : Builder → Assembly
  | .leaf make => fun _ node _ => make node
  | .bound params make => fun types node _ =>
    match Bindings.bind types node params with
    | .error e => .error e
    | .ok args => make.runOn args
  | .composite combine => fun _ _ under => under.map combine

def Vocabulary.assemblies (v : Vocabulary) : Assemblies :=
  fun name => (v.get? name).map Builder.assembly

/-- Bound parameters are those of the rule, whatever its locator is and whatever is under it. -/
theorem Builder.assembly_bound_withoutLocator (params : List Parameter) (make : Taking Assertion)
    (types : TypeTable) (node : RuleNode) (under under' : Except RuleError (List Assertion)) :
    (Builder.bound params make).assembly types { node with locator := none } under =
      (Builder.bound params make).assembly types node under' := by
  let plain : RuleNode := { node with locator := none }
  have hvalues : Bindings.bindFrom types plain .empty params =
      Bindings.bindFrom types node .empty params := by
    apply Bindings.bindFrom_congr
    · rfl
    · intro p _
      rfl
  simp only [Builder.assembly, Bindings.bind, plain, hvalues]

structure OpenDialect where
  main : Assemblies
  modules : Locator → Option Assemblies
  types : TypeTable

namespace OpenDialect

variable {d e : OpenDialect} {node : RuleNode}

/-- The assemblies that one for a node is looked up in. -/
def assembliesOf (d : OpenDialect) (node : RuleNode) : Except RuleError Assemblies :=
  match node.locator with
  | none => .ok d.main
  | some text =>
    match Locator.ofText? text with
    | none => .error (.invalidLocator text)
    | some l =>
      match d.modules l with
      | none => .error (.unresolvedModule l)
      | some assemblies => .ok assemblies

/-- What the building of the rules under a node comes to: an error if there is a text that is not
blank, or else the assertions up to the first error. -/
def gather (node : RuleNode) (results : List (Except RuleError Assertion)) :
    Except RuleError (List Assertion) :=
  match Dialect.unexpected? node with
  | some e => .error e
  | none => results.mapM id

/-- Makes an assertion by one of several assemblies. -/
def makeWith (types : TypeTable) (assemblies : Assemblies) (node : RuleNode)
    (under : Except RuleError (List Assertion)) : Except RuleError Assertion :=
  match assemblies (builderName node.name) with
  | none => .error (.missingBuilder node.name (builderName node.name))
  | some make => (make types node under).mapError (.whileBuilding node.name)

def build (d : OpenDialect) : RuleNode → Except RuleError Assertion :=
  RuleNode.fold fun node results =>
    match d.assembliesOf node with
    | .error e => .error e
    | .ok assemblies => makeWith d.types assemblies node (gather node results)

def buildUnder (d : OpenDialect) (node : RuleNode) : Except RuleError (List Assertion) :=
  gather node (node.elements.map d.build)

/-- A rule as the assemblies of one vocabulary make it; the rules under it are built by the
dialect. -/
def buildWith (d : OpenDialect) (assemblies : Assemblies) (node : RuleNode) :
    Except RuleError Assertion :=
  makeWith d.types assemblies node (d.buildUnder node)

theorem build_eq (d : OpenDialect) (node : RuleNode) :
    d.build node =
      match d.assembliesOf node with
      | .error e => .error e
      | .ok assemblies => d.buildWith assemblies node :=
  RuleNode.fold_eq _ node

/-- A qualified rule is looked up in the module that its locator names. -/
theorem assembliesOf_of_locator {text : String} {l : Locator} (hlocator : node.locator = some text)
    (hread : Locator.ofText? text = some l) :
    d.assembliesOf node =
      match d.modules l with
      | none => .error (.unresolvedModule l)
      | some assemblies => .ok assemblies := by
  simp only [assembliesOf, hlocator, hread]

/-- A plain rule is built with the main vocabulary. -/
theorem build_of_locator_eq_none (hlocator : node.locator = none) :
    d.build node = d.buildWith d.main node := by
  simp only [build_eq, assembliesOf, hlocator]

/-- A qualified rule is built with the vocabulary of its module. -/
theorem build_of_module {text : String} {l : Locator} {assemblies : Assemblies}
    (hlocator : node.locator = some text) (hread : Locator.ofText? text = some l)
    (hmodule : d.modules l = some assemblies) : d.build node = d.buildWith assemblies node := by
  simp only [build_eq, assembliesOf_of_locator hlocator hread, hmodule]

/-- Without a builder of its name a rule is not built. -/
theorem buildWith_of_none {assemblies : Assemblies}
    (hmissing : assemblies (builderName node.name) = none) :
    d.buildWith assemblies node =
      .error (.missingBuilder node.name (builderName node.name)) := by
  simp only [buildWith, makeWith, hmissing]

/-- A rule is built by the builder of its name, with the results below it. -/
theorem buildWith_of_some {assemblies : Assemblies} {make : Assembly}
    (hmake : assemblies (builderName node.name) = some make) :
    d.buildWith assemblies node =
      (make d.types node (d.buildUnder node)).mapError (.whileBuilding node.name) := by
  simp only [buildWith, makeWith, hmake]

/-- Dialects with the same types build a tree alike if they look up the same builders for each rule
of the tree. -/
theorem build_congr (htypes : e.types = d.types)
    (h : node.Everywhere fun n => e.assembliesOf n = d.assembliesOf n) :
    e.build node = d.build node := by
  -- Over the tree: the results for the rules under a rule are the same, so its builder decides.
  induction h with
  | @intro node here _ ih =>
      have hunder : e.buildUnder node = d.buildUnder node := by
        rw [buildUnder, buildUnder, List.map_congr_left ih]
      simp only [build_eq, here, buildWith, htypes, hunder]

/-- A rule of a module with parameters is built as it would be without its locator in a dialect of
that module, whatever other modules there are. -/
theorem build_bound_in_module {text : String} {l : Locator} {assemblies : Assemblies}
    {params : List Parameter} {make : Taking Assertion} (hlocator : node.locator = some text)
    (hread : Locator.ofText? text = some l) (hmodule : d.modules l = some assemblies)
    (hmake : assemblies (builderName node.name) = some (Builder.bound params make).assembly)
    (modules : Locator → Option Assemblies) :
    d.build node =
      OpenDialect.build ⟨assemblies, modules, d.types⟩ { node with locator := none } := by
  let bound := (Builder.bound params make).assembly
  let plain : RuleNode := { node with locator := none }
  let alone : OpenDialect := ⟨assemblies, modules, d.types⟩
  have hname : assemblies (builderName plain.name) = some bound := hmake
  -- Nothing that is under the rule is built, so the modules of the other dialect do not matter.
  have hsame : bound d.types plain (alone.buildUnder plain) =
      bound d.types node (d.buildUnder node) :=
    Builder.assembly_bound_withoutLocator params make d.types node _ _
  have halone : alone.buildWith assemblies plain =
      (bound d.types plain (alone.buildUnder plain)).mapError (.whileBuilding node.name) :=
    buildWith_of_some hname
  calc d.build node
      = (bound d.types node (d.buildUnder node)).mapError (.whileBuilding node.name) := by
        rw [build_of_module hlocator hread hmodule, buildWith_of_some hmake]
    _ = (bound d.types plain (alone.buildUnder plain)).mapError (.whileBuilding node.name) := by
        rw [hsame]
    _ = alone.buildWith assemblies plain := halone.symm
    _ = alone.build plain := (build_of_locator_eq_none rfl).symm

end OpenDialect

/-! ## A dialect is an open dialect -/

/-- A dialect with its builders as assemblies. -/
def Dialect.opened (d : Dialect) : OpenDialect where
  main := d.vocabulary.assemblies
  modules := fun l => (d.modules.resolve? l).map Vocabulary.assemblies
  types := d.types

theorem Dialect.assembliesOf_opened (d : Dialect) (node : RuleNode) :
    d.opened.assembliesOf node = (d.vocabularyOf node).map Vocabulary.assemblies := by
  simp only [OpenDialect.assembliesOf, vocabularyOf, opened]
  cases node.locator with
  | none => rfl
  | some text =>
      simp only
      cases Locator.ofText? text with
      | none => rfl
      | some l =>
          simp only
          cases d.modules.resolve? l <;> rfl

theorem Dialect.buildUnder_eq_gather (d : Dialect) (node : RuleNode) :
    d.buildUnder node = OpenDialect.gather node (node.elements.map d.build) := by
  have hmap : (node.elements.map d.build).mapM id = node.elements.mapM d.build := by
    rw [List.mapM_map]
    rfl
  simp only [buildUnder, buildAll_eq_mapM, OpenDialect.gather, hmap]
  rfl

/-- An opened dialect builds what the dialect builds. -/
theorem Dialect.build_eq_opened (d : Dialect) (node : RuleNode) :
    d.build node = d.opened.build node := by
  -- Over the rules under a rule: the builders are the same, so these decide.
  induction node using RuleNode.inductionOnElements with
  | step node ih =>
      have hunder : d.buildUnder node = d.opened.buildUnder node := by
        rw [buildUnder_eq_gather, OpenDialect.buildUnder, List.map_congr_left ih]
      rw [build_eq, OpenDialect.build_eq, assembliesOf_opened, builderOf]
      cases d.vocabularyOf node with
      | error e => rfl
      | ok vocabulary =>
          simp only [Except.map, OpenDialect.buildWith, OpenDialect.makeWith, Vocabulary.assemblies]
          cases vocabulary.get? (builderName node.name) with
          | none => rfl
          | some b =>
              rw [← hunder]
              cases b <;> rfl

namespace OpenDialect

/-- A rule with a locator fails if the locator cannot be read, if there is no such module, or if the
module has no builder for it, whatever the main builders are; otherwise the module's builder makes
it.  With bound parameters that is what the plain rule becomes where the module's builders are the
main ones.  Plain rules are made by the main builders, those under a rule of a module as well.  So
the modules make no difference to a tree of plain rules, nor the main builders to one of qualified
rules.  All this holds of a dialect, which builds like its open dialect. -/
theorem qualified_and_plain_rules_are_separate (d : OpenDialect) :
    (∀ (node : RuleNode) (text : String), node.locator = some text →
      (Locator.ofText? text = none → d.build node = .error (.invalidLocator text)) ∧
      ∀ l, Locator.ofText? text = some l →
        (d.modules l = none → d.build node = .error (.unresolvedModule l)) ∧
        ∀ assemblies, d.modules l = some assemblies →
          (assemblies (builderName node.name) = none →
            d.build node = .error (.missingBuilder node.name (builderName node.name))) ∧
          ∀ make, assemblies (builderName node.name) = some make →
            d.build node = (make d.types node (gather node (node.elements.map d.build))).mapError
              (.whileBuilding node.name) ∧
            ∀ params taking, make = (Builder.bound params taking).assembly → ∀ modules,
              d.build node =
                OpenDialect.build ⟨assemblies, modules, d.types⟩ { node with locator := none }) ∧
    (∀ node, node.locator = none → d.build node = d.buildWith d.main node) ∧
    (∀ node modules, node.isUnqualified = true →
      { d with modules := modules }.build node = d.build node) ∧
    (∀ node main, node.Everywhere (·.locator ≠ none) →
      { d with main := main }.build node = d.build node) ∧
    ∀ (c : Dialect) (node : RuleNode), c.build node = c.opened.build node := by
  refine ⟨?_, ?_, ?_, ?_, Dialect.build_eq_opened⟩
  · intro node text hlocator
    constructor
    · intro hread
      simp only [build_eq, assembliesOf, hlocator, hread]
    · intro l hread
      constructor
      · intro hmodule
        simp only [build_eq, assembliesOf_of_locator hlocator hread, hmodule]
      · intro assemblies hmodule
        rw [build_of_module hlocator hread hmodule]
        refine ⟨buildWith_of_none, ?_⟩
        intro make hmake
        refine ⟨buildWith_of_some hmake, ?_⟩
        rintro params taking rfl modules
        rw [← build_of_module hlocator hread hmodule]
        exact build_bound_in_module hlocator hread hmodule hmake modules
  · intro node hlocator
    exact build_of_locator_eq_none hlocator
  · intro node modules hplain
    refine build_congr rfl ((RuleNode.isUnqualified_iff_everywhere.1 hplain).imp ?_)
    intro n hlocator
    simp only [assembliesOf, hlocator]
  · intro node main hqualified
    refine build_congr rfl (hqualified.imp ?_)
    intro n hlocator
    rcases Option.ne_none_iff_exists'.1 hlocator with ⟨text, htext⟩
    simp only [assembliesOf, htext]

/-- The builders of a module, none of them under the name of a standard one. -/
def opsBuilders : Vocabulary :=
  Vocabulary.empty.install
    [("assert_every", Standard.logical .all), ("assert_is_empty", Standard.nullTest id)]

/-- The standard rules and one module. -/
def opsDialect : Dialect := { modules := ({} : ModuleTable).register ⟨"Ops", "host"⟩ opsBuilders }

theorem get?_opsBuilders (name : String) :
    opsBuilders.get? name =
      SortedMap.lookup name
        [("assert_every", Standard.logical .all), ("assert_is_empty", Standard.nullTest id)] := by
  rw [opsBuilders, Standard.get?_install (by decide)]
  exact Option.or_none

/-- A rule of the module or a plain one. -/
def opsRule (locator : Option String) (name : String) (children : List RuleNode) : RuleNode :=
  ⟨name, locator, .ofList [("binding", "Status")], children.map .element⟩

theorem qualified_and_plain_rules_are_separate_ops :
    let ops := some "urn:x/ns/Ops"
    opsDialect.build (opsRule ops "every" [opsRule none "true" []]) =
      .ok (.logical .all [.constant true]) ∧
    opsDialect.build (opsRule ops "true" []) = .error (.missingBuilder "true" "assert_true") ∧
    opsDialect.build (opsRule ops "is-empty" []) =
      ({ vocabulary := opsBuilders } : Dialect).build (opsRule none "is-empty" []) ∧
    opsDialect.build (opsRule none "and" [opsRule none "true" []]) =
      ({} : Dialect).build (opsRule none "and" [opsRule none "true" []]) := by
  intro ops
  have hread : Locator.ofText? "urn:x/ns/Ops" = some ⟨"Ops", "host"⟩ := by decide +kernel
  have hmodule : opsDialect.opened.modules ⟨"Ops", "host"⟩ = some opsBuilders.assemblies := rfl
  have hevery : builderName "every" = "assert_every" := by decide +kernel
  have hempty : builderName "is-empty" = "assert_is_empty" := by decide +kernel
  have htrue : builderName "true" = "assert_true" := by decide +kernel
  have hconstant : Standard.Rule.ofName? "true" = some (.constant true) := by decide +kernel
  rcases qualified_and_plain_rules_are_separate opsDialect.opened with
    ⟨hqualified, hmain, hmodules, _, hopened⟩
  refine ⟨?_, ?_, ?_, ?_⟩
  · have hmake : opsBuilders.assemblies (builderName "every") =
        some (Standard.logical .all).assembly := by
      simp only [Vocabulary.assemblies, hevery, get?_opsBuilders]
      rfl
    have hbuilder : opsDialect.opened.main (builderName (opsRule none "true" []).name) =
        some (Standard.constant true).assembly := by
      simp only [opsDialect, Dialect.opened, Vocabulary.assemblies, opsRule,
        Standard.get?_standard, hconstant]
      rfl
    have hchild : opsDialect.opened.build (opsRule none "true" []) = .ok (.constant true) := by
      rw [hmain _ rfl, buildWith_of_some hbuilder]
      rfl
    have helements : (opsRule ops "every" [opsRule none "true" []]).elements =
        [opsRule none "true" []] := rfl
    have hnoText : Dialect.unexpected? (opsRule ops "every" [opsRule none "true" []]) = none := rfl
    rcases (hqualified (opsRule ops "every" [opsRule none "true" []]) _ rfl).2 _ hread with
      ⟨_, hmade⟩
    rcases (hmade _ hmodule).2 _ hmake with ⟨hbuild, _⟩
    rw [hopened, hbuild, helements, List.map_singleton, hchild, gather, hnoText]
    rfl
  · have hmissing : opsBuilders.assemblies (builderName "true") = none := by
      simp only [Vocabulary.assemblies, htrue, get?_opsBuilders]
      rfl
    rcases (hqualified (opsRule ops "true" []) _ rfl).2 _ hread with ⟨_, hmade⟩
    have hfails := (hmade _ hmodule).1 hmissing
    rw [hopened, hfails]
    exact congrArg (fun b => Except.error (RuleError.missingBuilder "true" b)) htrue
  · have hmake : opsBuilders.assemblies (builderName "is-empty") =
        some (Standard.nullTest id).assembly := by
      simp only [Vocabulary.assemblies, hempty, get?_opsBuilders]
      rfl
    rcases (hqualified (opsRule ops "is-empty" []) _ rfl).2 _ hread with ⟨_, hmade⟩
    rcases (hmade _ hmodule).2 _ hmake with ⟨_, hbound⟩
    rw [hopened, hopened]
    exact hbound [Standard.binding] (Standard.makeNullTest id) rfl
      ({ vocabulary := opsBuilders } : Dialect).opened.modules
  · have hplain : (opsRule none "and" [opsRule none "true" []]).isUnqualified = true := rfl
    -- Of any dialect, so that the standard vocabulary need not be opened.
    have hwithout (c : Dialect) :
        ({ c with modules := {} } : Dialect).opened = { c.opened with modules := fun _ => none } :=
      rfl
    have hsame : ({} : Dialect) = { opsDialect with modules := {} } := rfl
    rw [hsame, hopened, hopened, hwithout]
    exact (hmodules _ _ hplain).symm

end OpenDialect
end ErrorTriage
