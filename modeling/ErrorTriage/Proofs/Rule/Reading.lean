import ErrorTriage.Rule.Node

/-!
# Rule.Reading — which parts of a document become rules

A rule is read from its members one after another; an array is read like the members that its
items are the values of.  `Draft.Records` says what has been read once some members were: each of
them is a field of a rule, and the last one of a name counts.

Under a rule, every object becomes a rule unless it holds a text as its comment.  Then it becomes a
comment, even if it has a name: a rule that is annotated in this way is lost without an error.
Nothing else is lost: a rule that has any other field makes the whole document unreadable.
-/

namespace ErrorTriage
namespace RuleNode

/-! ## Parts of documents -/

/-- The items of an array that may be missing. -/
def itemsOf : Option Json → List Json
  | some (.array items) => items
  | _ => []

/-- The members of a rule, also of one that is given as an array of its fields. -/
def membersOf : Json → List (String × Json)
  | .object members => members
  | .array items => fieldNames.zip items
  | _ => []

def childItems (j : Json) : List Json :=
  itemsOf ((SortedMap.ofList (membersOf j)).get? "children")

/-- Whether what stands under a rule stands for a rule: an array, or an object without a text as its
comment. -/
def standsForRule : Json → Bool
  | .object members => (commentOf? members).isNone
  | .array _ => true
  | _ => false

/-- What stands for rules under a rule of a document. -/
def ruleItems (j : Json) : List Json := (childItems j).filter standsForRule

/-- The part of a document that stands for the rule at a path of positions among rules. -/
def partAt? : List Nat → Json → Option Json
  | [], j => some j
  | i :: path, j => (ruleItems j)[i]?.bind (partAt? path)

/-- The rule of a tree at a path of positions among rules. -/
def nodeAt? : List Nat → RuleNode → Option RuleNode
  | [], n => some n
  | i :: path, n => n.elements[i]?.bind (nodeAt? path)

/-! ## Members -/

/-- A draft holds what members say of the name and the contents of a rule, and all of them are
fields of rules. -/
structure Draft.Records (d : Draft) (members : SortedMap Json) : Prop where
  name_eq : members.get? "name" = d.name.map Json.string
  children_eq : readContents (itemsOf (members.get? "children")) = some d.children
  known : ∀ key ∈ members.keys, key ∈ fieldNames

theorem Draft.records_empty : Draft.Records {} .empty :=
  ⟨rfl, rfl, fun _ h => by cases h⟩

/-- The four fields of a rule. -/
theorem readField_cases {key : String} {value : Json} {d d' : Draft}
    (h : readField key value d = some d') :
    (∃ s, key = "name" ∧ value = .string s ∧ d' = { d with name := some s }) ∨
    (∃ locator, key = "namespace" ∧ d' = { d with locator := locator }) ∨
    (∃ attributes, key = "attributes" ∧ d' = { d with attributes := attributes }) ∨
    ∃ items contents, key = "children" ∧ value = .array items ∧
      readContents items = some contents ∧ d' = { d with children := contents } := by
  rw [readField.eq_def] at h
  split at h
  · next hkey =>
      rcases Option.map_eq_some_iff.1 h with ⟨s, hs, rfl⟩
      cases value with
      | string text =>
          cases hs
          exact .inl ⟨_, hkey, rfl, rfl⟩
      | _ => cases hs
  · split at h
    · next hkey =>
        rcases Option.map_eq_some_iff.1 h with ⟨locator, _, rfl⟩
        exact .inr (.inl ⟨_, hkey, rfl⟩)
    · split at h
      · next hkey =>
          rcases Option.map_eq_some_iff.1 h with ⟨attributes, _, rfl⟩
          exact .inr (.inr (.inl ⟨_, hkey, rfl⟩))
      · split at h
        · next hkey =>
            cases value with
            | array items =>
                rcases Option.map_eq_some_iff.1 h with ⟨contents, hcontents, rfl⟩
                exact .inr (.inr (.inr ⟨_, _, hkey, rfl, hcontents, rfl⟩))
            | _ => cases h
        · cases h

/-- A member beside the name and the children leaves what is said of both. -/
theorem Draft.Records.insert_beside {d d' : Draft} {members : SortedMap Json}
    (h : d.Records members) {key : String} {value : Json} (hname : key ≠ "name")
    (hchildren : key ≠ "children")
    (hknown : ∀ k ∈ (members.insert key value).keys, k ∈ fieldNames)
    (hsame : d'.name = d.name ∧ d'.children = d.children) :
    d'.Records (members.insert key value) := by
  refine ⟨?_, ?_, hknown⟩
  · simpa [SortedMap.get?_insert, hname, hsame.1] using h.name_eq
  · simpa [SortedMap.get?_insert, hchildren, hsame.2] using h.children_eq

/-- A draft holds one more member once it is read. -/
theorem Draft.Records.insert {d d' : Draft} {members : SortedMap Json} (h : d.Records members)
    {key : String} {value : Json} (hread : readField key value d = some d') :
    d'.Records (members.insert key value) := by
  have hknown (hkey : key ∈ fieldNames) : ∀ k ∈ (members.insert key value).keys,
      k ∈ fieldNames := by
    intro k hk
    rcases SortedMap.mem_keys_insert.1 hk with rfl | hk
    · exact hkey
    · exact h.known k hk
  rcases readField_cases hread with ⟨s, rfl, rfl, rfl⟩ | ⟨locator, rfl, rfl⟩ |
    ⟨attributes, rfl, rfl⟩ | ⟨items, contents, rfl, rfl, hcontents, rfl⟩
  · refine ⟨?_, ?_, hknown (by decide)⟩
    · simp [SortedMap.get?_insert]
    · simpa [SortedMap.get?_insert] using h.children_eq
  · exact h.insert_beside (by decide) (by decide) (hknown (by decide)) ⟨rfl, rfl⟩
  · exact h.insert_beside (by decide) (by decide) (hknown (by decide)) ⟨rfl, rfl⟩
  · refine ⟨?_, ?_, hknown (by decide)⟩
    · simpa [SortedMap.get?_insert] using h.name_eq
    · simpa [SortedMap.get?_insert, itemsOf] using hcontents

/-- A draft holds all members once they are read, the last one of a key. -/
theorem Draft.Records.readMembers {pairs : List (String × Json)} {d d' : Draft}
    {members : SortedMap Json} (h : d.Records members)
    (hread : RuleNode.readMembers pairs d = some d') :
    d'.Records (pairs.foldl (fun m pair => m.insert pair.1 pair.2) members) := by
  induction pairs generalizing d members with
  | nil =>
      cases hread
      exact h
  | cons pair rest ih =>
      rcases pair with ⟨key, value⟩
      rw [RuleNode.readMembers] at hread
      rcases Option.bind_eq_some_iff.1 hread with ⟨next, hfield, hrest⟩
      exact ih (h.insert hfield) hrest

/-- Items are read like members with the names of the fields. -/
theorem readMembers_zip_of_readItems {names : List String} {items : List Json} {d d' : Draft}
    (h : readItems names items d = some d') : readMembers (names.zip items) d = some d' := by
  induction items generalizing names d with
  | nil => simpa [readItems, readMembers] using h
  | cons value rest ih =>
      cases names with
      | nil => simp [readItems] at h
      | cons name names =>
          rw [readItems] at h
          rcases Option.bind_eq_some_iff.1 h with ⟨next, hfield, hrest⟩
          rw [List.zip_cons_cons, readMembers, hfield]
          exact ih hrest

/-! ## One rule -/

/-- A rule is finished from a draft that holds its members. -/
theorem exists_records_of_ofJson? {j : Json} {n : RuleNode} (h : ofJson? j = some n) :
    ∃ d : Draft, d.finish = some n ∧ d.Records (.ofList (membersOf j)) := by
  cases j with
  | object members =>
      rw [ofJson?] at h
      rcases Option.bind_eq_some_iff.1 h with ⟨d, hread, hfinish⟩
      exact ⟨d, hfinish, Draft.records_empty.readMembers hread⟩
  | array items =>
      rw [ofJson?] at h
      rcases Option.bind_eq_some_iff.1 h with ⟨d, hread, hfinish⟩
      exact ⟨d, hfinish, Draft.records_empty.readMembers (readMembers_zip_of_readItems hread)⟩
  | _ => simp [ofJson?] at h

/-- A rule has the name that its part of the document says, and the contents that are read from
there; no member of the part is unknown. -/
theorem ofJson?_eq_some {j : Json} {n : RuleNode} (h : ofJson? j = some n) :
    (SortedMap.ofList (membersOf j)).get? "name" = some (.string n.name) ∧
      readContents (childItems j) = some n.children ∧
      ∀ key ∈ (membersOf j).map (·.1), key ∈ fieldNames := by
  rcases exists_records_of_ofJson? h with ⟨d, hfinish, hrecords⟩
  rcases Option.map_eq_some_iff.1 hfinish with ⟨name, hname, rfl⟩
  refine ⟨?_, hrecords.children_eq, fun key hkey => ?_⟩
  · rw [hrecords.name_eq, hname]
    rfl
  · exact hrecords.known key (SortedMap.mem_keys_ofList.2 hkey)

/-- A comment is no field of a rule. -/
theorem ofJson?_eq_none_of_comment {members : List (String × Json)} {text : String}
    (h : commentOf? members = some text) : ofJson? (.object members) = none := by
  rcases Option.bind_eq_some_iff.1 h with ⟨value, hvalue, _⟩
  have hkey : "comment" ∈ members.map (·.1) :=
    SortedMap.isSome_lookup_iff.1 (Option.isSome_iff_exists.2 ⟨value, hvalue⟩)
  cases hread : ofJson? (.object members) with
  | none => rfl
  | some n => exact absurd ((ofJson?_eq_some hread).2.2 _ hkey) (by decide)

/-! ## What stands under a rule -/

/-- An object among contents is a rule if it can be, and otherwise a comment. -/
theorem readContent_object (members : List (String × Json)) :
    readContent (.object members) =
      ((ofJson? (.object members)).map .element).or ((commentOf? members).map .comment) := by
  rw [readContent, ofJson?]
  cases (readMembers members {}).bind Draft.finish <;> rfl

theorem readContent_of_comment {members : List (String × Json)} {text : String}
    (h : commentOf? members = some text) :
    readContent (.object members) = some (.comment text) := by
  rw [readContent_object, ofJson?_eq_none_of_comment h, h]
  rfl

/-- What stands for a rule is read as one. -/
theorem exists_element_of_standsForRule {item : Json} {content : RuleContent RuleNode}
    (h : readContent item = some content) (hrule : standsForRule item = true) :
    ∃ n, ofJson? item = some n ∧ content = .element n := by
  cases item with
  | object members =>
      have hcomment : commentOf? members = none := Option.isNone_iff_eq_none.1 hrule
      rw [readContent_object] at h
      cases hread : ofJson? (.object members) with
      | none => simp [hread, hcomment] at h
      | some n =>
          rw [hread] at h
          cases h
          exact ⟨n, rfl, rfl⟩
  | array items =>
      rw [readContent] at h
      rcases Option.map_eq_some_iff.1 h with ⟨n, hread, rfl⟩
      exact ⟨n, by rw [ofJson?, hread], rfl⟩
  | _ => cases hrule

/-- What does not stand for a rule is not read as one. -/
theorem elementsOf_cons_of_not_standsForRule {item : Json} {content : RuleContent RuleNode}
    (h : readContent item = some content) (hrule : standsForRule item = false)
    (rest : List (RuleContent RuleNode)) : elementsOf (content :: rest) = elementsOf rest := by
  cases item with
  | object members =>
      rcases Option.isSome_iff_exists.1 (by simpa [standsForRule] using hrule) with ⟨text, htext⟩
      rw [readContent_of_comment htext] at h
      cases h
      rfl
  | string s =>
      rw [readContent] at h
      cases h
      rfl
  | array items => cases hrule
  | _ => simp [readContent] at h

/-- The rules among contents are what stands for rules, in order and without loss. -/
theorem map_ofJson?_of_readContents {items : List Json} {contents : List (RuleContent RuleNode)}
    (h : readContents items = some contents) :
    (items.filter standsForRule).map ofJson? = (elementsOf contents).map some := by
  -- An item that stands for a rule adds it on both sides; any other adds nothing to either.
  induction items generalizing contents with
  | nil =>
      cases h
      rfl
  | cons item rest ih =>
      rw [readContents] at h
      rcases Option.bind_eq_some_iff.1 h with ⟨content, hcontent, hmap⟩
      rcases Option.map_eq_some_iff.1 hmap with ⟨more, hmore, rfl⟩
      cases hrule : standsForRule item with
      | true =>
          rcases exists_element_of_standsForRule hcontent hrule with ⟨n, hread, rfl⟩
          simp [hrule, hread, elementsOf, ih hmore]
      | false =>
          rw [elementsOf_cons_of_not_standsForRule hcontent hrule]
          simp [hrule, ih hmore]

/-- The rules in a rule are those that stand in its document. -/
theorem map_ofJson?_ruleItems {j : Json} {n : RuleNode} (h : ofJson? j = some n) :
    (ruleItems j).map ofJson? = n.elements.map some :=
  map_ofJson?_of_readContents (ofJson?_eq_some h).2.1

/-! ## Whole trees -/

/-- The rules of a tree are those that the parts of its document stand for. -/
theorem map_ofJson?_partAt? {j : Json} {n : RuleNode} (h : ofJson? j = some n) (path : List Nat) :
    (partAt? path j).map ofJson? = (nodeAt? path n).map some := by
  induction path generalizing j n with
  | nil => simp [partAt?, nodeAt?, h]
  | cons i path ih =>
      -- The items that stand for rules and the rules are as many, so both paths go on or end.
      have hitem : (ruleItems j)[i]?.map ofJson? = n.elements[i]?.map some := by
        rw [← List.getElem?_map, map_ofJson?_ruleItems h, List.getElem?_map]
      rw [partAt?, nodeAt?]
      cases hpart : (ruleItems j)[i]? with
      | none =>
          cases hnode : n.elements[i]? with
          | none => rfl
          | some child => simp [hpart, hnode] at hitem
      | some item =>
          cases hnode : n.elements[i]? with
          | none => simp [hpart, hnode] at hitem
          | some child =>
              have hchild : ofJson? item = some child := by simpa [hpart, hnode] using hitem
              exact ih hchild

/-- A part of a document is read as the rule at the same place. -/
theorem exists_node_of_partAt? {j part : Json} {n : RuleNode} (h : ofJson? j = some n)
    {path : List Nat} (hpart : partAt? path j = some part) :
    ∃ node, nodeAt? path n = some node ∧ ofJson? part = some node := by
  have hsame := map_ofJson?_partAt? h path
  rw [hpart] at hsame
  cases hnode : nodeAt? path n with
  | none => simp [hnode] at hsame
  | some node => exact ⟨node, rfl, by simpa [hnode] using hsame⟩

/-- A rule of a tree is read off the part at the same place. -/
theorem exists_part_of_nodeAt? {j : Json} {n node : RuleNode} (h : ofJson? j = some n)
    {path : List Nat} (hnode : nodeAt? path n = some node) :
    ∃ part, partAt? path j = some part ∧ ofJson? part = some node := by
  have hsame := map_ofJson?_partAt? h path
  rw [hnode] at hsame
  cases hpart : partAt? path j with
  | none => simp [hpart] at hsame
  | some part => exact ⟨part, rfl, by simpa [hpart] using hsame⟩

/-- An object under a rule of a tree becomes a rule of its name exactly if it holds no text as its
comment. -/
theorem exists_element_iff {part : Json} {node : RuleNode} (h : ofJson? part = some node)
    {members : List (String × Json)} (hmem : .object members ∈ childItems part) :
    (∃ child ∈ node.elements, ofJson? (.object members) = some child ∧
      (SortedMap.ofList members).get? "name" = some (.string child.name)) ↔
      commentOf? members = none := by
  constructor
  · rintro ⟨child, _, hread, _⟩
    cases hcomment : commentOf? members with
    | none => rfl
    | some text => cases hread.symm.trans (ofJson?_eq_none_of_comment hcomment)
  · intro hcomment
    have hrule : standsForRule (.object members) = true := by simp [standsForRule, hcomment]
    have hmapped : ofJson? (.object members) ∈ node.elements.map some :=
      map_ofJson?_ruleItems h ▸ List.mem_map_of_mem (List.mem_filter.2 ⟨hmem, hrule⟩)
    rcases List.mem_map.1 hmapped with ⟨child, hchild, hread⟩
    exact ⟨child, hchild, hread.symm, (ofJson?_eq_some hread.symm).1⟩

/-- In a tree that was read, the rules under each rule are what stands for rules in its part of the
document, in order and one to one, and an object there is one of them exactly if it holds no text as
its comment; an object that holds one is a comment, whatever its name.  A document in which an
object under a rule has an unknown field and is no such comment is no tree. -/
theorem objects_become_rules_iff_without_comment (j : Json) :
    (∀ n, ofJson? j = some n →
      (∀ path node, nodeAt? path n = some node → ∃ part, partAt? path j = some part) ∧
      ∀ path part, partAt? path j = some part →
        ∃ node, nodeAt? path n = some node ∧ ofJson? part = some node ∧
          ((childItems part).filter standsForRule).map ofJson? = node.elements.map some ∧
          ∀ members, .object members ∈ childItems part →
            ((∃ child ∈ node.elements, ofJson? (.object members) = some child ∧
              (SortedMap.ofList members).get? "name" = some (.string child.name)) ↔
              commentOf? members = none)) ∧
    (∀ path part members, partAt? path j = some part → .object members ∈ childItems part →
      (∃ key ∈ members.map (·.1), key ∉ fieldNames) → commentOf? members = none →
      ofJson? j = none) ∧
    ∀ members text, commentOf? members = some text →
      readContent (.object members) = some (.comment text) := by
  refine ⟨fun n h => ⟨fun path node hnode => ?_, fun path part hpart => ?_⟩, ?_, ?_⟩
  · rcases exists_part_of_nodeAt? h hnode with ⟨part, hpart, _⟩
    exact ⟨part, hpart⟩
  · rcases exists_node_of_partAt? h hpart with ⟨node, hnode, hread⟩
    exact ⟨node, hnode, hread, map_ofJson?_ruleItems hread, fun _ hmem =>
      exists_element_iff hread hmem⟩
  · rintro path part members hpart hmem ⟨key, hkey, hunknown⟩ hcomment
    -- In a tree that was read the object would be a rule, and rules have no unknown fields.
    cases h : ofJson? j with
    | none => rfl
    | some n =>
        rcases exists_node_of_partAt? h hpart with ⟨node, _, hread⟩
        rcases (exists_element_iff hread hmem).2 hcomment with ⟨child, _, hchild, _⟩
        exact absurd ((ofJson?_eq_some hchild).2.2 key hkey) hunknown
  · intro members text hcomment
    exact readContent_of_comment hcomment

/-- A rule under a rule with a comment and a text before it. -/
def nestedDocument : Json :=
  .object [("children", .array [.string " ", .object [("comment", .string "why")],
    .object [("children", .array [.object [("name", .string "true")]]), ("name", .string "not")]]),
    ("name", .string "or")]

theorem objects_become_rules_nested :
    ∃ n, ofJson? nestedDocument = some n ∧
      ∃ node, nodeAt? [0] n = some node ∧ ∃ child ∈ node.elements, child.name = "true" := by
  have hread : (ofJson? nestedDocument).isSome = true := by decide +kernel
  rcases Option.isSome_iff_exists.1 hread with ⟨n, hn⟩
  rcases (objects_become_rules_iff_without_comment nestedDocument).1 n hn with ⟨_, hparts⟩
  rcases hparts [0] _ rfl with ⟨node, hnode, _, _, hobjects⟩
  rcases (hobjects [("name", .string "true")] (List.mem_singleton.2 rfl)).2 rfl with
    ⟨child, hchild, _, hname⟩
  refine ⟨n, hn, node, hnode, child, hchild, ?_⟩
  simpa [SortedMap.ofList, SortedMap.get?_insert, eq_comm] using hname

def annotatedRule : Json := .object [("comment", .string "why"), ("name", .string "equal")]

/-- Under another rule an annotated rule is lost; by itself it cannot be read. -/
theorem annotated_rule_is_lost :
    (ofJson? (.object [("children", .array [annotatedRule]), ("name", .string "and")])).map
        (fun n => (n.name, n.elements.map (·.name), n.children.length)) = some ("and", [], 1) ∧
      (ofJson? annotatedRule).isNone = true := by
  decide +kernel

end RuleNode
end ErrorTriage
