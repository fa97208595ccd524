import ErrorTriage.Proofs.Rule.Reading

/-!
# Rule.Spelling — documents that spell an attribute differently

The value of an attribute may be written as a truth value or as a whole number in the place of its
text.  `Respelled` relates two documents that differ in one such value, of whatever rule of the
tree: the rule may be given as an object or as an array of its fields, and so may every rule around
it.  Both documents are read as the same tree, or neither of them is read.

Doubles are left out: a document may spell one of them in many ways, and a single one of these is
the text that is kept.
-/

namespace ErrorTriage
namespace RuleNode

/-! ## Values -/

/-- A truth value or a whole number, and the text that is kept of it. -/
inductive Spelled : Json → Json → Prop where
  | truth (b : Bool) : Spelled (.bool b) (.string (if b then "true" else "false"))
  | whole (n : Int) : Spelled (Json.int n) (.string (toString n))

/-- Both spellings are kept as the same text. -/
theorem Spelled.attributeText?_eq {v w : Json} (h : Spelled v w) :
    attributeText? v = attributeText? w := by
  cases h <;> rfl

/-- Attributes are read the same in either spelling. -/
theorem attributesOf?_respelled {v w : Json} (h : Spelled v w) (key : String)
    (front back : List (String × Json)) :
    attributesOf? (.object (front ++ (key, v) :: back)) =
      attributesOf? (.object (front ++ (key, w) :: back)) := by
  simp only [attributesOf?, List.mapM_append, List.mapM_cons, h.attributeText?_eq]

/-! ## Fields -/

/-- Two documents of a rule that differ in one field, which has one value in the first and the other
in the second. -/
inductive DifferIn (name : String) (v w : Json) : Json → Json → Prop where
  | object (before after : List (String × Json)) :
      DifferIn name v w (.object (before ++ (name, v) :: after))
        (.object (before ++ (name, w) :: after))
  | array {before : List Json} (after : List Json)
      (hname : fieldNames[before.length]? = some name) :
      DifferIn name v w (.array (before ++ v :: after)) (.array (before ++ w :: after))

variable {name : String} {v w j j' : Json}

/-- Members are read the same if one of them is. -/
theorem readMembers_congr (hread : ∀ d, readField name v d = readField name w d)
    (before after : List (String × Json)) (d : Draft) :
    readMembers (before ++ (name, v) :: after) d =
      readMembers (before ++ (name, w) :: after) d := by
  induction before generalizing d with
  | nil => simp only [List.nil_append, readMembers, hread]
  | cons member rest ih =>
      rcases member with ⟨key, value⟩
      simp only [List.cons_append, readMembers]
      cases readField key value d with
      | none => rfl
      | some next => exact ih next

theorem readItems_congr (hread : ∀ d, readField name v d = readField name w d)
    {before : List Json} (after : List Json) {names : List String}
    (hname : names[before.length]? = some name) (d : Draft) :
    readItems names (before ++ v :: after) d = readItems names (before ++ w :: after) d := by
  induction before generalizing names d with
  | nil =>
      cases names with
      | nil => cases hname
      | cons first others =>
          have hfirst : first = name := Option.some.inj hname
          simp only [List.nil_append, readItems, hfirst, hread]
  | cons item rest ih =>
      cases names with
      | nil => cases hname
      | cons first others =>
          have hothers : others[rest.length]? = some name := by simpa using hname
          simp only [List.cons_append, readItems]
          cases readField first item d with
          | none => rfl
          | some next => exact ih hothers next

/-- What two values of a field are both read as does not tell two rules apart. -/
theorem DifferIn.ofJson?_eq (h : DifferIn name v w j j')
    (hread : ∀ d, readField name v d = readField name w d) : ofJson? j = ofJson? j' := by
  cases h with
  | object before after => simp only [ofJson?, readMembers_congr hread]
  | array after hname => simp only [ofJson?, readItems_congr hread after hname]

/-- Whether an object is a comment does not depend on its other members. -/
theorem commentOf?_congr (hname : name ≠ "comment") (before after : List (String × Json)) :
    commentOf? (before ++ (name, v) :: after) = commentOf? (before ++ (name, w) :: after) := by
  have hlookup : SortedMap.lookup "comment" (before ++ (name, v) :: after) =
      SortedMap.lookup "comment" (before ++ (name, w) :: after) := by
    induction before with
    | nil => simp [SortedMap.lookup, hname]
    | cons member rest ih => simp only [List.cons_append, SortedMap.lookup, ih]
  simp only [commentOf?, hlookup]

/-- A field of a rule is not looked at for a comment, so the documents stay alike under a rule. -/
theorem DifferIn.readContent_eq (h : DifferIn name v w j j')
    (hread : ∀ d, readField name v d = readField name w d) (hname : name ≠ "comment") :
    readContent j = readContent j' := by
  have hrule := h.ofJson?_eq hread
  cases h with
  | object before after =>
      rw [readContent_object, readContent_object, hrule, commentOf?_congr hname]
  | array after hfield => simp only [readContent, readItems_congr hread after hfield]

/-! ## Trees -/

/-- Two documents of trees that differ in how one attribute of one rule is spelled: of the rule
itself, or of a rule under it. -/
inductive Respelled : Json → Json → Prop where
  | own {v w j j' : Json} {key : String} {front back : List (String × Json)}
      (h : Spelled v w)
      (hfield : DifferIn "attributes" (.object (front ++ (key, v) :: back))
        (.object (front ++ (key, w) :: back)) j j') : Respelled j j'
  | under {c c' j j' : Json} {front back : List Json} (h : Respelled c c')
      (hfield : DifferIn "children" (.array (front ++ c :: back)) (.array (front ++ c' :: back))
        j j') : Respelled j j'

theorem readField_attributes (value : Json) (d : Draft) :
    readField "attributes" value d =
      (attributesOf? value).map fun attributes => { d with attributes := attributes } := by
  simp [readField.eq_def]

theorem readField_children (items : List Json) (d : Draft) :
    readField "children" (.array items) d =
      (readContents items).map fun contents => { d with children := contents } := by
  simp [readField.eq_def]

theorem readContents_eq_mapM (items : List Json) :
    readContents items = items.mapM readContent := by
  induction items with
  | nil => rfl
  | cons item rest ih =>
      rw [readContents, List.mapM_cons, ih]
      cases readContent item <;> cases rest.mapM readContent <;> rfl

/-- The spelling of an attribute is lost in reading, by itself and under a rule. -/
theorem Respelled.reads_eq (h : Respelled j j') :
    ofJson? j = ofJson? j' ∧ readContent j = readContent j' := by
  induction h with
  | @own v w _ _ key front back h hfield =>
      have hread (d : Draft) :
          readField "attributes" (.object (front ++ (key, v) :: back)) d =
            readField "attributes" (.object (front ++ (key, w) :: back)) d := by
        rw [readField_attributes, readField_attributes, attributesOf?_respelled h]
      exact ⟨hfield.ofJson?_eq hread, hfield.readContent_eq hread (by decide)⟩
  | @under c c' _ _ front back _ hfield ih =>
      have hread (d : Draft) :
          readField "children" (.array (front ++ c :: back)) d =
            readField "children" (.array (front ++ c' :: back)) d := by
        simp only [readField_children, readContents_eq_mapM, List.mapM_append, List.mapM_cons,
          ih.2]
      exact ⟨hfield.ofJson?_eq hread, hfield.readContent_eq hread (by decide)⟩

end RuleNode
end ErrorTriage
