import ErrorTriage.Rule.Dialect

/-!
# Rule.Tree — induction over rules and what building makes of the rules under a node

Functions over rules recurse through the contents of a node.  Each of them is described here by what
it does to the rules among the contents, in the order of the document, so that later proofs are by
induction over the rules under a rule and never see the comments and the texts.
-/

namespace ErrorTriage
namespace RuleNode

/-! ## Induction -/

mutual

/-- Induction over the rules under a rule. -/
theorem inductionOnElements {P : RuleNode → Prop}
    (step : ∀ node : RuleNode, (∀ child ∈ node.elements, P child) → P node) :
    ∀ node, P node
  | ⟨name, locator, attributes, children⟩ =>
      step ⟨name, locator, attributes, children⟩ (inductionAmong step children)

theorem inductionAmong {P : RuleNode → Prop}
    (step : ∀ node : RuleNode, (∀ child ∈ node.elements, P child) → P node) :
    ∀ contents, ∀ child ∈ elementsOf contents, P child
  | [], child, h => by
      simp [elementsOf] at h
  | .element node :: rest, child, h => by
      have hnode := inductionOnElements step node
      rcases List.mem_cons.1 h with heq | h
      · exact heq ▸ hnode
      · exact inductionAmong step rest child h
  | .comment _ :: rest, child, h => inductionAmong step rest child h
  | .text _ :: rest, child, h => inductionAmong step rest child h

end

/-! ## Folding over rules -/

mutual

/-- What a function makes of a rule and of the results for the rules under it. -/
def fold {α : Type} (f : RuleNode → List α → α) : RuleNode → α
  | ⟨name, locator, attributes, children⟩ =>
    f ⟨name, locator, attributes, children⟩ (foldAmong f children)

def foldAmong {α : Type} (f : RuleNode → List α → α) : List (RuleContent RuleNode) → List α
  | [] => []
  | .element node :: rest => fold f node :: foldAmong f rest
  | .comment _ :: rest => foldAmong f rest
  | .text _ :: rest => foldAmong f rest

end

theorem foldAmong_eq_map {α : Type} (f : RuleNode → List α → α)
    (contents : List (RuleContent RuleNode)) :
    foldAmong f contents = (elementsOf contents).map (fold f) := by
  induction contents with
  | nil => rfl
  | cons content rest ih =>
      cases content with
      | element node => simp [foldAmong, elementsOf, ih]
      | comment _ => simpa [foldAmong, elementsOf] using ih
      | text _ => simpa [foldAmong, elementsOf] using ih

/-- A fold takes a rule with what was folded from the rules in it. -/
theorem fold_eq {α : Type} (f : RuleNode → List α → α) (node : RuleNode) :
    node.fold f = f node (node.elements.map (fold f)) := by
  rcases node with ⟨name, locator, attributes, children⟩
  simp only [fold, foldAmong_eq_map, elements]

/-! ## Rules without a locator -/

mutual

/-- Whether no rule of a tree is qualified by a locator. -/
def isUnqualified : RuleNode → Bool
  | ⟨_, locator, _, children⟩ => locator.isNone && areUnqualified children

/-- Whether no rule among contents, or under one of them, is qualified by a locator. -/
def areUnqualified : List (RuleContent RuleNode) → Bool
  | [] => true
  | .element node :: rest => isUnqualified node && areUnqualified rest
  | .comment _ :: rest => areUnqualified rest
  | .text _ :: rest => areUnqualified rest

end

theorem areUnqualified_iff {contents : List (RuleContent RuleNode)} :
    areUnqualified contents = true ↔ ∀ child ∈ elementsOf contents, child.isUnqualified = true := by
  induction contents with
  | nil => simp [areUnqualified, elementsOf]
  | cons content rest ih =>
      cases content with
      | element node => simp [areUnqualified, elementsOf, ih]
      | comment _ => simpa [areUnqualified, elementsOf] using ih
      | text _ => simpa [areUnqualified, elementsOf] using ih

/-- A tree is unqualified if its root has no locator and the trees below it are. -/
theorem isUnqualified_iff {node : RuleNode} :
    node.isUnqualified = true ↔
      node.locator = none ∧ ∀ child ∈ node.elements, child.isUnqualified = true := by
  rcases node with ⟨name, locator, attributes, children⟩
  simp [isUnqualified, elements, areUnqualified_iff]

/-- A property of a rule, of the rules under it, and so on. -/
inductive Everywhere (P : RuleNode → Prop) : RuleNode → Prop where
  | intro {node : RuleNode} (here : P node) (below : ∀ child ∈ node.elements, Everywhere P child) :
      Everywhere P node

/-- What holds everywhere holds everywhere with its consequences. -/
theorem Everywhere.imp {P Q : RuleNode → Prop} {node : RuleNode} (h : node.Everywhere P)
    (himp : ∀ n, P n → Q n) : node.Everywhere Q := by
  induction h with
  | intro here _ ih => exact .intro (himp _ here) ih

/-- A tree is unqualified if none of its rules has a locator. -/
theorem isUnqualified_iff_everywhere {node : RuleNode} :
    node.isUnqualified = true ↔ node.Everywhere (·.locator = none) := by
  induction node using inductionOnElements with
  | step node ih =>
      rw [isUnqualified_iff]
      constructor
      · rintro ⟨here, below⟩
        exact .intro here fun child hchild => (ih child hchild).1 (below child hchild)
      · intro h
        cases h with
        | intro here below =>
            exact ⟨here, fun child hchild => (ih child hchild).2 (below child hchild)⟩

end RuleNode

namespace Dialect

/-! ## Building -/

/-- One node is built from its builder and, for a composite one, from the rules under it. -/
theorem build_eq (d : Dialect) (node : RuleNode) :
    d.build node =
      match d.builderOf node with
      | .error e => .error e
      | .ok (.leaf make) => (make node).mapError (.whileBuilding node.name)
      | .ok (.bound params make) =>
        (d.makeBound node params make).mapError (.whileBuilding node.name)
      | .ok (.composite combine) =>
        ((d.buildUnder node).map combine).mapError (.whileBuilding node.name) := by
  rcases node with ⟨name, locator, attributes, children⟩
  simp only [build]
  cases h : d.builderOf ⟨name, locator, attributes, children⟩ with
  | error e => rfl
  | ok builder =>
      cases builder with
      | leaf make => rfl
      | bound params make => rfl
      | composite combine =>
          simp only [buildUnder]
          cases unexpected? ⟨name, locator, attributes, children⟩ with
          | some e => rfl
          | none =>
              simp only
              cases d.buildAll children <;> rfl

theorem buildAll_eq_mapM (d : Dialect) (contents : List (RuleContent RuleNode)) :
    d.buildAll contents = (RuleNode.elementsOf contents).mapM d.build := by
  induction contents with
  | nil => rfl
  | cons content rest ih =>
      cases content with
      | element node =>
          simp only [buildAll, RuleNode.elementsOf, List.mapM_cons, ih]
          cases d.build node with
          | error e => rfl
          | ok a =>
              cases (RuleNode.elementsOf rest).mapM d.build <;> rfl
      | comment _ => simpa [buildAll, RuleNode.elementsOf] using ih
      | text _ => simpa [buildAll, RuleNode.elementsOf] using ih

theorem builderOf_of_locator_eq_none {node : RuleNode} (h : node.locator = none) (d : Dialect) :
    d.builderOf node =
      match d.vocabulary.get? (builderName node.name) with
      | some b => .ok b
      | none => .error (.missingBuilder node.name (builderName node.name)) := by
  have hvocabulary : d.vocabularyOf node = .ok d.vocabulary := by
    simp [vocabularyOf, h]
  cases hfound : d.vocabulary.get? (builderName node.name) with
  | none => simp [builderOf, hvocabulary, hfound]
  | some b => simp [builderOf, hvocabulary, hfound]

end Dialect
end ErrorTriage
