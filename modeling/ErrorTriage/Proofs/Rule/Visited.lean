import ErrorTriage.Proofs.Rule.Failure

/-!
# Rule.Visited — how far building comes

`Dialect.visited` lists nodes without building anything.  Here it is proved to be what building
comes to: all nodes that are reached if the tree can be built, and otherwise the nodes up to the one
whose own defect the error ends in.  That holds for every vocabulary and with modules, where a rule
may fail in any way.

Of the trail of names around a defect nothing is said here.  For the rules that come with the
program, `Rule.Failure` says it, and the nodes and the defects are the same ones.
-/

namespace ErrorTriage
namespace Dialect

variable {d : Dialect} {node : RuleNode}

/-! ## The nodes that are reached -/

theorem reachedAmong_eq_flatMap (d : Dialect) (contents : List (RuleContent RuleNode)) :
    d.reachedAmong contents = (RuleNode.elementsOf contents).flatMap d.reached := by
  induction contents with
  | nil => rfl
  | cons content rest ih =>
      cases content with
      | element node => simp [reachedAmong, RuleNode.elementsOf, ih]
      | comment _ => simpa [reachedAmong, RuleNode.elementsOf] using ih
      | text _ => simpa [reachedAmong, RuleNode.elementsOf] using ih

/-- A node is reached before the rules under it, and these only if a composite builder builds
them. -/
theorem reached_eq (d : Dialect) (node : RuleNode) :
    d.reached node =
      node :: if d.descends node then node.elements.flatMap d.reached else [] := by
  rcases node with ⟨name, locator, attributes, children⟩
  simp only [reached, reachedAmong_eq_flatMap]
  rfl

/-! ## Failing -/

/-- The defect of a node is what its builder fails with, the rules under the node left aside. -/
theorem defect?_eq (d : Dialect) (node : RuleNode) :
    d.defect? node =
      match d.builderOf node with
      | .error e => some e
      | .ok (.leaf make) => failure? (make node)
      | .ok (.bound params make) => failure? (d.makeBound node params make)
      | .ok (.composite _) => unexpected? node := by
  simp only [defect?]
  cases d.builderOf node with
  | error e => rfl
  | ok builder =>
      cases builder with
      | leaf make => cases hmade : make node <;> simp [hmade]
      | bound params make => cases hmade : d.makeBound node params make <;> simp [hmade]
      | composite combine => rfl

/-- Without rules under it that are built, a node can only fail with its own defect. -/
theorem root_failure?_build_of_leaf (hleaf : d.descends node = false) :
    (failure? (d.build node)).map RuleError.root = (d.defect? node).map RuleError.root := by
  simp only [descends] at hleaf
  simp only [build_eq d node, defect?_eq]
  cases hbuilder : d.builderOf node with
  | error e => rfl
  | ok builder =>
      cases builder with
      | leaf make =>
          simp only [failure?_mapError, Option.map_map]
          rfl
      | bound params make =>
          simp only [failure?_mapError, Option.map_map]
          rfl
      | composite combine => simp [hbuilder] at hleaf

/-- A node that combines the rules under it fails with a stray text, or else as the first of these
rules that fails. -/
theorem root_failure?_build_of_composite (hcomposite : d.descends node = true) :
    (failure? (d.build node)).map RuleError.root =
      ((d.defect? node).map RuleError.root).or
        (node.elements.findSome? fun child => (failure? (d.build child)).map RuleError.root) := by
  simp only [descends] at hcomposite
  rw [build_eq d node, defect?_eq]
  cases hbuilder : d.builderOf node with
  | error e => simp [hbuilder] at hcomposite
  | ok builder =>
      cases builder with
      | leaf make => simp [hbuilder] at hcomposite
      | bound params make => simp [hbuilder] at hcomposite
      | composite combine =>
          have hunder : failure? (d.buildUnder node) = (unexpected? node).or
              (node.elements.findSome? fun child => failure? (d.build child)) :=
            Standard.failure?_buildUnder d node
          simp only [failure?_mapError, failure?_map, hunder, Option.map_or, Option.map_map,
            List.map_findSome?, Function.comp_def]
          rfl

/-- Building fails exactly if a node that it comes to has a defect.  The error ends in the defect of
the first one. -/
theorem root_failure?_build (d : Dialect) (node : RuleNode) :
    (failure? (d.build node)).map RuleError.root =
      ((d.reached node).findSome? d.defect?).map RuleError.root := by
  -- By induction on the tree: the error of a child ends in the defect of the first node below it
  -- that has one, and wrapping it for the parent keeps its root.
  induction node using RuleNode.inductionOnElements with
  | step node ih =>
      rw [reached_eq]
      cases hdescends : d.descends node with
      | false =>
          simp only [root_failure?_build_of_leaf hdescends, List.findSome?_cons]
          cases d.defect? node <;> rfl
      | true =>
          have hbelow : (node.elements.findSome? fun child =>
              (failure? (d.build child)).map RuleError.root) =
              node.elements.findSome? fun child =>
                ((d.reached child).findSome? d.defect?).map RuleError.root :=
            findSome?_congr ih
          calc (failure? (d.build node)).map RuleError.root
              = ((d.defect? node).map RuleError.root).or
                  (node.elements.findSome? fun child =>
                    ((d.reached child).findSome? d.defect?).map RuleError.root) := by
                rw [root_failure?_build_of_composite hdescends, hbelow]
            _ = ((d.defect? node).or
                  ((node.elements.flatMap d.reached).findSome? d.defect?)).map RuleError.root := by
                rw [findSome?_flatMap, Option.map_or, List.map_findSome?]
                rfl
            _ = ((node :: node.elements.flatMap d.reached).findSome? d.defect?).map
                  RuleError.root := by
                rw [List.findSome?_cons]
                cases d.defect? node <;> rfl

/-! ## The nodes that are visited -/

section UpTo

variable {α : Type} {p : α → Bool} {items before after : List α} {last : α}

/-- Where nothing stops it, the list is gone through to the end. -/
theorem upTo_eq_self (h : ∀ item ∈ items, p item = false) : upTo p items = items := by
  induction items with
  | nil => rfl
  | cons item rest ih =>
      have hitem : p item = false := h item List.mem_cons_self
      have hrest : upTo p rest = rest := ih fun other hother => h other (.tail item hother)
      simp [upTo, hitem, hrest]

/-- A list is cut behind its first item with the property. -/
theorem upTo_append_cons (hbefore : ∀ item ∈ before, p item = false) (hlast : p last = true) :
    upTo p (before ++ last :: after) = before ++ [last] := by
  induction before with
  | nil => simp [upTo, hlast]
  | cons item rest ih =>
      have hitem : p item = false := hbefore item List.mem_cons_self
      have hrest := ih fun other hother => hbefore other (.tail item hother)
      simp [upTo, hitem, hrest]

end UpTo

/-- A tree that can be built is visited as a whole, and no node of it has a defect. -/
theorem visited_of_build_ok {a : Assertion} (h : d.build node = .ok a) :
    d.visited node = d.reached node ∧ ∀ n ∈ d.visited node, d.defect? n = none := by
  have hnone : (d.reached node).findSome? d.defect? = none := by
    have hroot : (failure? (d.build node)).map RuleError.root =
        ((d.reached node).findSome? d.defect?).map RuleError.root := root_failure?_build d node
    rw [h] at hroot
    exact Option.map_eq_none_iff.1 hroot.symm
  have hall : ∀ n ∈ d.reached node, d.defect? n = none := List.findSome?_eq_none_iff.1 hnone
  have hvisited : d.visited node = d.reached node := by
    refine upTo_eq_self fun n hn => ?_
    simp [hall n hn]
  exact ⟨hvisited, hvisited ▸ hall⟩

/-- A tree that cannot be built is visited up to the first node with a defect, which is the one that
the error ends in. -/
theorem visited_of_build_error {e : RuleError} (h : d.build node = .error e) :
    ∃ before last found, d.visited node = before ++ [last] ∧ d.visited node <+: d.reached node ∧
      (∀ n ∈ before, d.defect? n = none) ∧ d.defect? last = some found ∧ found.root = e.root := by
  have hroot : ((d.reached node).findSome? d.defect?).map RuleError.root = some e.root := by
    rw [← root_failure?_build, h]
    rfl
  rcases Option.map_eq_some_iff.1 hroot with ⟨found, hfound, hsame⟩
  -- The list of reached nodes is split at the first defect, and the visited ones end there.
  rcases List.findSome?_eq_some_iff.1 hfound with
    ⟨before, last, after, hsplit, hdefect, hbefore⟩
  have hvisited : d.visited node = before ++ [last] := by
    simp only [visited, hsplit]
    refine upTo_append_cons (fun n hn => ?_) ?_
    · simp [hbefore n hn]
    · simp [hdefect]
  refine ⟨before, last, found, hvisited, ?_, hbefore, hdefect, hsame⟩
  exact ⟨after, by simp [hvisited, hsplit]⟩

end Dialect

/-! ## The rules that come with the program -/

namespace Standard

variable {types : TypeTable} {node : RuleNode}

theorem descends_dialect (hplain : node.locator = none) (modules : ModuleTable)
    (types : TypeTable) : (dialect modules types).descends node = isLogical node := by
  simp only [Dialect.descends, builderOf_dialect hplain, isLogical]
  cases Rule.ofName? node.name with
  | none => rfl
  | some rule => cases rule <;> rfl

/-- Binding parameters and making the assertion fail with the defect that is found without
either. -/
theorem failure?_makeBound (rule : Rule) {make : Taking Assertion}
    (hbuilder : rule.builder = .bound rule.parameters make) (modules : ModuleTable) :
    failure? ((dialect modules types).makeBound node rule.parameters make) =
      rule.defect? types node := by
  -- Either a parameter has a defect, or all are bound and making the assertion may still fail.
  have hmade := @makeBound_of_builder types node rule make hbuilder modules
  simp only [Rule.defect?]
  split at hmade
  · next e hparameter => simp [hparameter, hmade]
  · next hparameter => simp [hparameter, failure?_of_makes hmade]

/-- Looked up in a dialect or among the rules by name, a node has the same defect. -/
theorem defect?_dialect (hplain : node.locator = none) (modules : ModuleTable)
    (types : TypeTable) : (dialect modules types).defect? node = defect? types node := by
  rw [Dialect.defect?_eq, builderOf_dialect hplain]
  simp only [defect?]
  cases Rule.ofName? node.name with
  | none => rfl
  | some rule =>
      cases rule with
      | constant b => rfl
      | logical mode => rfl
      | nullTest negated => exact failure?_makeBound (.nullTest negated) rfl modules
      | comparison relation negated =>
          exact failure?_makeBound (.comparison relation negated) rfl modules
      | typeCheck byAssignability =>
          exact failure?_makeBound (.typeCheck byAssignability) rfl modules
      | search => exact failure?_makeBound .search rfl modules

/-- Without locators the nodes that are reached are those that occur, in the same order. -/
theorem reached_dialect (hplain : node.isUnqualified = true) (modules : ModuleTable)
    (types : TypeTable) :
    (dialect modules types).reached node = (occurrences node).map (·.node) := by
  induction node using RuleNode.inductionOnElements with
  | step node ih =>
      rcases RuleNode.isUnqualified_iff.1 hplain with ⟨hlocator, hunder⟩
      have hbelow : node.elements.flatMap (dialect modules types).reached =
          (node.elements.flatMap occurrences).map (·.node) := by
        rw [List.map_flatMap, List.flatMap_def, List.flatMap_def]
        exact congrArg List.flatten
          (List.map_congr_left fun child hchild => ih child hchild (hunder child hchild))
      rw [Dialect.reached_eq, descends_dialect hlocator, hbelow, occurrences_eq]
      cases isLogical node with
      | false => rfl
      | true => simp

theorem isUnqualified_of_mem_occurrences {o : Occurrence} (hplain : node.isUnqualified = true)
    (ho : o ∈ occurrences node) : o.node.isUnqualified = true := by
  induction node using RuleNode.inductionOnElements generalizing o with
  | step node ih =>
      have hunder := (RuleNode.isUnqualified_iff.1 hplain).2
      rcases cases_of_mem_occurrences ho with rfl | ⟨child, hchild, below, hbelow, _, rfl⟩
      · exact hplain
      · have hplainBelow : below.node.isUnqualified = true :=
          ih child hchild (hunder child hchild) hbelow
        exact hplainBelow

/-- Of a tree that cannot be built, exactly the nodes up to the one that the error reports are
visited. -/
theorem visited_dialect (modules : ModuleTable) (hplain : node.isUnqualified = true) {e : RuleError}
    (h : (dialect modules types).build node = .error e) :
    ∃ before first after, occurrences node = before ++ first :: after ∧
      (dialect modules types).visited node = (before ++ [first]).map (·.node) ∧
      Reports types first e := by
  have hreport : (occurrences node).findSome? (report? types) = some e := by
    rw [← failure?_build modules types node hplain, h, failure?_error]
  rcases List.findSome?_eq_some_iff.1 hreport with
    ⟨before, first, after, hsplit, hfirst, hbefore⟩
  have hdefect : ∀ o ∈ occurrences node,
      (dialect modules types).defect? o.node = defect? types o.node := fun o ho =>
    defect?_dialect (RuleNode.isUnqualified_iff.1 (isUnqualified_of_mem_occurrences hplain ho)).1
      modules types
  refine ⟨before, first, after, hsplit, ?_, report?_eq_some_iff.1 hfirst⟩
  rw [Dialect.visited, reached_dialect hplain, hsplit, List.map_append, List.map_cons,
    List.map_append]
  refine Dialect.upTo_append_cons ?_ ?_
  · intro n hn
    rcases List.mem_map.1 hn with ⟨o, ho, rfl⟩
    have hsound : defect? types o.node = none := report?_eq_none_iff.1 (hbefore o ho)
    simp [hdefect o (hsplit ▸ List.mem_append_left _ ho), hsound]
  · have hmem : first ∈ occurrences node := hsplit ▸ List.mem_append_right _ List.mem_cons_self
    simp [hdefect first hmem, (report?_eq_some_iff.1 hfirst).defect]

end Standard
end ErrorTriage
