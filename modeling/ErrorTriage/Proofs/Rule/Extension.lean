import ErrorTriage.Proofs.Latest
import ErrorTriage.Proofs.Rule.Naming
import ErrorTriage.Proofs.Rule.Separation

/-!
# Rule.Extension — what installing rules adds and what it leaves alone

A vocabulary is the history of what was registered: the last builder of a name counts.  Plugins may
register whatever they like, also depending on what is there before.

A tree that does not come to a rule of the plugin is built as before, to the same assertion or to
the same error.  The rules that building comes to are those that the standard combinations reach, so
the vocabulary must not have combinations of its own: its builders are standard ones or make an
assertion of bound parameters.  Nothing is assumed of the plugin's builders, which may even build
other trees; they are never asked.
-/

namespace ErrorTriage

/-! ## Changes of a vocabulary -/

inductive Change where
  | register (name : String) (b : Builder)
  /-- A plugin registers builders, which may depend on the vocabulary that it finds.  Those of the
  plugins that it installs itself are among them. -/
  | install (plugin : Vocabulary → List (String × Builder))

namespace Vocabulary

variable {v : Vocabulary} {name : String} {b : Builder}

def change (v : Vocabulary) : Change → Vocabulary
  | .register name b => v.register name b
  | .install plugin => v.install (plugin v)

/-- What a change registers. -/
def registeredBy (v : Vocabulary) : Change → List (String × Builder)
  | .register name b => [(name, b)]
  | .install plugin => plugin v

/-- What a sequence of changes registers, the last one at the end. -/
def registeredByAll (v : Vocabulary) : List Change → List (String × Builder)
  | [] => []
  | c :: rest => v.registeredBy c ++ (v.change c).registeredByAll rest

/-- Every change is an installation of what it registers. -/
theorem change_eq_install (v : Vocabulary) (c : Change) :
    v.change c = v.install (v.registeredBy c) := by
  cases c <;> rfl

/-- Changes in a row are one installation of all that they register. -/
theorem foldl_change_eq_install (v : Vocabulary) (changes : List Change) :
    changes.foldl change v = v.install (v.registeredByAll changes) := by
  induction changes generalizing v with
  | nil => rfl
  | cons c rest ih =>
      rw [List.foldl_cons, ih, registeredByAll, change_eq_install, install, install, install,
        List.foldl_append]

/-- A name has the builder that was registered last, or else the one that it had before. -/
theorem get?_install_eq_some_iff {builders : List (String × Builder)} :
    (v.install builders).get? name = some b ↔
      IsLastWith (fun entry => entry.1 = name) builders (name, b) ∨
        name ∉ builders.map (·.1) ∧ v.get? name = some b := by
  rw [Standard.get?_install_reverse, Option.or_eq_some_iff,
    SortedMap.lookup_reverse_eq_some_iff, SortedMap.lookup_reverse_eq_none_iff]

/-- What is installed leaves other names alone. -/
theorem get?_install_of_notMem {builders : List (String × Builder)}
    (h : name ∉ builders.map (·.1)) : (v.install builders).get? name = v.get? name := by
  rw [Standard.get?_install_reverse, SortedMap.lookup_reverse_eq_none_iff.2 h, Option.none_or]

/-- The names of a vocabulary are in ascending order, each once. -/
theorem pairwise_names (v : Vocabulary) : v.names.Pairwise (· < ·) :=
  List.pairwise_map.2 v.builders.ascending

/-- The builders are standard ones under their own names, or they make an assertion of bound
parameters. -/
def IsPlain (v : Vocabulary) : Prop :=
  ∀ name b, v.get? name = some b →
    standard.get? name = some b ∨ ∃ params make, b = .bound params make

/-- A builder of a plain vocabulary does not look at the rules under a rule that is no standard
combination. -/
theorem IsPlain.assembly_eq (h : v.IsPlain) {node : RuleNode}
    (hb : v.get? (builderName node.name) = some b) (hlogical : Standard.isLogical node = false)
    (types : TypeTable) (under under' : Except RuleError (List Assertion)) :
    b.assembly types node under = b.assembly types node under' := by
  cases b with
  | leaf make => rfl
  | bound params make => rfl
  | composite combine =>
      rcases h _ _ hb with hstandard | ⟨params, make, heq⟩
      · -- Of the standard builders only combinations are composite.
        rw [Standard.get?_standard] at hstandard
        rcases Option.map_eq_some_iff.1 hstandard with ⟨rule, hrule, hbuilder⟩
        cases rule <;> cases hbuilder
        simp [Standard.isLogical, hrule, Standard.Rule.mode?] at hlogical
      · cases heq

end Vocabulary

/-! ## Trees that a plugin does not touch -/

namespace Dialect

open OpenDialect (gather makeWith)
open Standard (Reached)

variable {d : Dialect} {node : RuleNode} {names : List String}
  {create : RuleNode → Except RuleError Assertion}

/-- Rules without a locator are built as a dialect builds them, from what is built of the rules
under them.  Of the rules whose builders have some names nothing is said. -/
def BuildsExcept (d : Dialect) (names : List String)
    (create : RuleNode → Except RuleError Assertion) : Prop :=
  ∀ node, node.locator = none → builderName node.name ∉ names →
    create node = makeWith d.types d.vocabulary.assemblies node
      (gather node (node.elements.map create))

/-- A rule of the main vocabulary is made of the results below it. -/
theorem build_eq_makeWith (d : Dialect) (h : node.locator = none) :
    d.build node = makeWith d.types d.vocabulary.assemblies node
      (gather node (node.elements.map d.build)) := by
  have hopened : d.build = d.opened.build := funext d.build_eq_opened
  rw [hopened, OpenDialect.build_of_locator_eq_none h]
  rfl

/-- A tree that does not come to a rule of the given names is built in one way only. -/
theorem BuildsExcept.create_eq_build (h : d.BuildsExcept names create)
    (hvocabulary : d.vocabulary.IsPlain) (hplain : node.isUnqualified = true)
    (hreached : ∀ around n, Reached node around n → builderName n.name ∉ names) :
    create node = d.build node := by
  induction node using RuleNode.inductionOnElements with
  | step node ih =>
      rcases RuleNode.isUnqualified_iff.1 hplain with ⟨hlocator, hbelow⟩
      rw [h node hlocator (hreached _ _ .root), build_eq_makeWith d hlocator]
      cases hlogical : Standard.isLogical node with
      | true =>
          -- Building comes to every rule under the node.
          have hunder : node.elements.map create = node.elements.map d.build := by
            refine List.map_congr_left fun child hchild => ?_
            exact ih child hchild (hbelow child hchild) fun around n hn =>
              hreached _ _ (hn.from_child hlogical hchild)
          rw [hunder]
      | false =>
          simp only [makeWith, Vocabulary.assemblies]
          cases hb : d.vocabulary.get? (builderName node.name) with
          | none => rfl
          | some b =>
              have hsame := hvocabulary.assembly_eq hb hlogical d.types
                (gather node (node.elements.map create)) (gather node (node.elements.map d.build))
              simp only [Option.map_some, hsame]

/-- Installing builders changes nothing for the rules of other names. -/
theorem buildsExcept_install (d : Dialect) (builders : List (String × Builder)) :
    d.BuildsExcept (builders.map (·.1))
      (build { d with vocabulary := d.vocabulary.install builders }) := by
  intro node hlocator hname
  rw [build_eq_makeWith _ hlocator]
  simp only [makeWith, Vocabulary.assemblies, Vocabulary.get?_install_of_notMem hname]

end Dialect

open Standard (Reached Respelled dialect) in
/-- A vocabulary has the builder that was registered last under each name, and lists its names in
ascending order.  Installing a plugin changes nothing for a tree without locators that does not come
to a rule of the plugin, however the rules of the plugin are built.  With the standard rules it
makes no difference either how the names of the rules are written that building comes to. -/
theorem installing_rules_extends_vocabulary :
    (∀ (v w : Vocabulary) (changes : List Change), changes.foldl Vocabulary.change v = w →
      (∀ name b, w.get? name = some b ↔
        IsLastWith (fun entry => entry.1 = name) (v.registeredByAll changes) (name, b) ∨
          name ∉ (v.registeredByAll changes).map (·.1) ∧ v.get? name = some b) ∧
      w.names.Pairwise (· < ·) ∧ (∀ name, name ∈ w.names ↔ ∃ b, w.get? name = some b) ∧
      w.size = w.names.length) ∧
    (∀ (d : Dialect) (plugin : Vocabulary → List (String × Builder)) (node : RuleNode),
      d.vocabulary.IsPlain → node.isUnqualified = true →
      (∀ around n, Reached node around n →
        builderName n.name ∉ (plugin d.vocabulary).map (·.1)) →
      ({ d with vocabulary := d.vocabulary.change (.install plugin) } : Dialect).build node =
        d.build node ∧
      ∀ create, d.BuildsExcept ((plugin d.vocabulary).map (·.1)) create →
        create node = d.build node) ∧
    ∀ (modules : ModuleTable) (types : TypeTable) (node other : RuleNode), Respelled node other →
      modules = {} ∨ node.isUnqualified = true →
      value? ((dialect modules types).build node) =
        value? ((dialect modules types).build other) := by
  refine ⟨?_, ?_, fun _ _ _ _ hrespelled hplain => hrespelled.value?_build_eq hplain⟩
  · rintro v w changes rfl
    refine ⟨?_, Vocabulary.pairwise_names _, ?_, ?_⟩
    · intro name b
      rw [Vocabulary.foldl_change_eq_install, Vocabulary.get?_install_eq_some_iff]
    · intro name
      exact SortedMap.isSome_get?_iff.symm.trans Option.isSome_iff_exists
    · exact List.length_map _ |>.symm
  · intro d plugin node hvocabulary hplain hreached
    have hsame {create : RuleNode → Except RuleError Assertion}
        (h : d.BuildsExcept ((plugin d.vocabulary).map (·.1)) create) :
        create node = d.build node :=
      h.create_eq_build hvocabulary hplain hreached
    exact ⟨hsame (d.buildsExcept_install (plugin d.vocabulary)), fun _ => hsame⟩

/-- A plugin with a rule of its own and another builder for a standard one. -/
def everyPlugin (_ : Vocabulary) : List (String × Builder) :=
  [("assert_every", Standard.logical .all), ("assert_not", Standard.constant true)]

/-- A test for null under a combination, with the names of both as given. -/
def nullTree (combination test : String) : RuleNode :=
  ⟨combination, none, .empty, [.element ⟨test, none, .ofList [("binding", "Error")], []⟩]⟩

theorem installing_rules_extends_vocabulary_every :
    (Vocabulary.standard.change (.install everyPlugin)).get? "assert_not" =
      some (Standard.constant true) ∧
    ({ vocabulary := Vocabulary.standard.change (.install everyPlugin) } : Dialect).build
      (nullTree "and" "is-null") = ({} : Dialect).build (nullTree "and" "is-null") ∧
    value? (({} : Dialect).build (nullTree "and" "is-null")) =
      value? (({} : Dialect).build (nullTree " and" "is_null\t")) := by
  rcases installing_rules_extends_vocabulary with ⟨hchanges, hinstall, hnames⟩
  refine ⟨?_, ?_, ?_⟩
  · -- Of any vocabulary, so that the standard one need not be opened.
    have hlast (v : Vocabulary) : IsLastWith (fun entry => entry.1 = "assert_not")
        (v.registeredByAll [.install everyPlugin]) ("assert_not", Standard.constant true) :=
      ⟨(everyPlugin v).take 1, [], rfl, rfl, by simp⟩
    have hfound (v : Vocabulary) : (v.change (.install everyPlugin)).get? "assert_not" =
        some (Standard.constant true) :=
      ((hchanges v _ [.install everyPlugin] rfl).1 _ _).2 (.inl (hlast v))
    exact hfound .standard
  · have hunqualified : (nullTree "and" "is-null").isUnqualified = true := by decide +kernel
    have hoccurrences : ∀ o ∈ Standard.occurrences (nullTree "and" "is-null"),
        builderName o.node.name ∉ ["assert_every", "assert_not"] := by decide +kernel
    have hsame (d : Dialect) (hplain : d.vocabulary.IsPlain) :
        ({ d with vocabulary := d.vocabulary.change (.install everyPlugin) } : Dialect).build
          (nullTree "and" "is-null") = d.build (nullTree "and" "is-null") := by
      have hregistered : (everyPlugin d.vocabulary).map (·.1) = ["assert_every", "assert_not"] :=
        rfl
      refine (hinstall d everyPlugin _ hplain hunqualified ?_).1
      intro around n hreached
      rw [hregistered]
      exact hoccurrences ⟨around, n⟩ (Standard.mem_occurrences_of_reached hreached)
    exact hsame {} fun _ _ h => .inl h
  · have hand : Standard.IsRespelling "and" " and" :=
      Standard.plainName_eq_plainName_iff.1 (by decide +kernel)
    have htest : Standard.IsRespelling "is-null" "is_null\t" :=
      Standard.plainName_eq_plainName_iff.1 (by decide +kernel)
    have hlogical : Standard.isLogical (nullTree "and" "is-null") = true := by decide +kernel
    have hrespelled : Standard.Respelled (nullTree "and" "is-null") (nullTree " and" "is_null\t") :=
      .combined none .empty hand hlogical (.cons (.element (.root none _ [] htest)) .nil)
    exact hnames {} .standard _ _ hrespelled (.inl rfl)

end ErrorTriage
