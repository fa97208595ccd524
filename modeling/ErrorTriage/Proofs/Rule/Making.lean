import ErrorTriage.Proofs.Rule.Layout

/-!
# Rule.Making — rules made step by step

A rule can be made in code: from its name, with attributes and children added one after another, and
with a locator.  Every rule can be made in this way, and so the rules that are read from documents
are no others than these.  What one step adds, and that it leaves the rest as it was, is said here
of the parameters of a rule and of the assertions that are built of the rules under it.
-/

namespace ErrorTriage
namespace RuleNode

/-! ## All steps together -/

/-- A rule made from its name, its locator, its attributes and its children, in this order. -/
def made (name : String) (locator : Option String) (attributes : List (String × String))
    (children : List (RuleContent RuleNode)) : RuleNode :=
  let named : RuleNode := { name }
  let placed := locator.elim named named.inModule
  children.foldl withChild (attributes.foldl (fun n a => n.withAttribute a.1 a.2) placed)

theorem foldl_withAttribute (attributes : List (String × String)) (n : RuleNode) :
    attributes.foldl (fun n a => n.withAttribute a.1 a.2) n =
      { n with
        attributes := attributes.foldl (fun m a => m.insert a.1 a.2) n.attributes } := by
  induction attributes generalizing n with
  | nil =>
      cases n
      rfl
  | cons first rest ih =>
      rw [List.foldl_cons, ih]
      rfl

/-- Contents that are added one by one are behind those that were there. -/
theorem foldl_withChild (children : List (RuleContent RuleNode)) (n : RuleNode) :
    children.foldl withChild n = n.holding (n.children ++ children) := by
  induction children generalizing n with
  | nil =>
      cases n
      simp [holding]
  | cons first rest ih => simp [ih, withChild, holding]

/-- Of several attributes of one name the last one stays, and children keep their order. -/
theorem made_eq (name : String) (locator : Option String) (attributes : List (String × String))
    (children : List (RuleContent RuleNode)) :
    made name locator attributes children =
      ⟨name, locator, .ofList attributes, children⟩ := by
  simp only [made, foldl_withChild, foldl_withAttribute]
  cases locator <;> rfl

/-- Every rule is made of its parts. -/
theorem made_self (n : RuleNode) :
    made n.name n.locator n.attributes.entries n.children = n := by
  rw [made_eq, SortedMap.ofList_entries]
  cases n
  rfl

/-! ## One step -/

/-- An attribute is a parameter at once, before any child of its name, and no other parameter
changes. -/
theorem parameter?_withAttribute (n : RuleNode) (name value other : String) :
    (n.withAttribute name value).parameter? other =
      if name = other then some value else n.parameter? other := by
  simp only [parameter?, withAttribute, SortedMap.get?_insert]
  by_cases hname : name = other
  · simp [hname]
  · simp [hname, elements]

/-- A parameter that a rule has is not changed by further children. -/
theorem parameter?_withChild {n : RuleNode} {name value : String}
    (h : n.parameter? name = some value) (child : RuleContent RuleNode) :
    (n.withChild child).parameter? name = some value := by
  simp only [parameter?] at h
  simp only [parameter?, withChild, elements, elementsOf_append]
  cases hattribute : n.attributes.get? name with
  | some given =>
      rw [hattribute] at h
      exact h
  | none =>
      -- The first child of the name counts, and it stands before the new one.
      rw [hattribute] at h
      rcases Option.map_eq_some_iff.1 h with ⟨first, hfirst, htext⟩
      have hfound : (elementsOf n.children).find? (fun c => c.name = name) = some first := hfirst
      simp [List.find?_append, hfound, htext]

/-- A rule in a rule is not unexpected. -/
theorem unexpected?_withChild_element (n child : RuleNode) :
    Dialect.unexpected? (n.withChild (.element child)) = Dialect.unexpected? n := by
  simp [Dialect.unexpected?, strayText?, withChild, strayTextOf?_eq_find?, textsOf_append, textsOf]

end RuleNode

namespace Dialect

variable {d : Dialect} {n : RuleNode}

/-- A rule put at the end is built after all others: its assertion is the last one, and its error
counts if there is none before it. -/
theorem buildUnder_withChild_element (d : Dialect) (n child : RuleNode) :
    d.buildUnder (n.withChild (.element child)) = (do
      let built ← d.buildUnder n
      let last ← d.build child
      return built ++ [last]) := by
  simp only [buildUnder, RuleNode.unexpected?_withChild_element]
  -- A stray text is reported before any rule is built, the new one included.
  cases unexpected? n with
  | some e => rfl
  | none =>
      simp only [buildAll_eq_mapM, RuleNode.withChild, RuleNode.elementsOf_append,
        List.mapM_append]
      simp [RuleNode.elementsOf]

/-- A comment put at the end changes nothing. -/
theorem buildUnder_withChild_comment (d : Dialect) (n : RuleNode) (text : String) :
    d.buildUnder (n.withChild (.comment text)) = d.buildUnder n := by
  have hstray : (n.withChild (.comment text)).strayText? = n.strayText? := by
    simp [RuleNode.strayText?, RuleNode.withChild, RuleNode.strayTextOf?_eq_find?,
      RuleNode.textsOf_append, RuleNode.textsOf]
  have helements : (n.withChild (.comment text)).elements = n.elements := by
    simp [RuleNode.elements, RuleNode.withChild, RuleNode.elementsOf_append, RuleNode.elementsOf]
  exact buildUnder_congr rfl hstray (by rw [helements])

/-- In a module a rule is looked up among the rules of that module and no others. -/
theorem builderOf_inModule {text : String} {l : Locator} {vocabulary : Vocabulary}
    (hread : Locator.ofText? text = some l) (hmodule : d.modules.resolve? l = some vocabulary) :
    d.builderOf (n.inModule text) =
      match vocabulary.get? (builderName n.name) with
      | some b => .ok b
      | none => .error (.missingBuilder n.name (builderName n.name)) := by
  have hvocabulary : d.vocabularyOf (n.inModule text) = .ok vocabulary := by
    simp [vocabularyOf, RuleNode.inModule, hread, hmodule]
  simp only [builderOf, hvocabulary]
  rfl

/-- A rule put into a module that there is not cannot be built, whatever else it is. -/
theorem build_inModule_eq_error {text : String}
    (h : ∀ l, Locator.ofText? text = some l → d.modules.resolve? l = none) :
    d.build (n.inModule text) =
      .error (match Locator.ofText? text with
        | none => .invalidLocator text
        | some l => .unresolvedModule l) := by
  -- The builder is looked up before the contents are read, so nothing in them can fail first.
  have hlocator : (n.inModule text).locator = some text := rfl
  simp only [build_eq, builderOf, vocabularyOf, hlocator]
  cases hread : Locator.ofText? text with
  | none => rfl
  | some l => simp only [h l hread]

end Dialect
end ErrorTriage
