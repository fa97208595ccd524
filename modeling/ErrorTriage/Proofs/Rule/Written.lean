import ErrorTriage.Proofs.Rule.Spelling
import ErrorTriage.Proofs.Rule.Tree
import ErrorTriage.Settings

/-!
# Rule.Written — what is written of a configuration is read again

A child of a rule is written in a form that only its own kind is read from: a rule has a name and no
comment, a comment has a comment and no name, and a text is no object at all.  So the order in which
a reader tries the three kinds does not matter for what was written.  Members are found by name, and
a document comes back from either order of its members, that of the fields and that of the keys.

Reading back is no identity on documents: what may be left out is written, an array of fields
becomes an object, and the values of attributes become texts.  `Respelled` documents differ in the
last point alone.
-/

namespace ErrorTriage

/-! ## Lists of texts and texts that may be missing -/

theorem Json.strings?_ofStrings (texts : List String) :
    Json.strings? (Json.ofStrings texts) = some texts := by
  simp only [Json.strings?, Json.ofStrings, Json.list?]
  induction texts with
  | nil => rfl
  | cons text rest ih => simp [Json.string?, ih]

/-- A text that may be missing is read back, missing or not. -/
theorem Json.nullable?_ofText? (text : Option String) :
    Json.nullable? Json.string? (Json.ofText? text) = some text := by
  cases text <;> rfl

theorem Json.settled_ofStrings (texts : List String) :
    (Json.ofStrings texts).settled = Json.ofStrings texts := by
  simp [Json.ofStrings, Json.settled, Json.settledItems_eq_map]

theorem Json.settled_ofText? (text : Option String) :
    (Json.ofText? text).settled = Json.ofText? text := by
  cases text <;> rfl

namespace RuleNode

/-! ## Attributes -/

def attributesJson (attributes : SortedMap String) : Json :=
  .object (attributes.entries.map fun e => (e.1, .string e.2))

/-- Written attributes are read back. -/
theorem attributesOf?_attributesJson (attributes : SortedMap String) :
    attributesOf? (attributesJson attributes) = some attributes := by
  have hentries (entries : List (String × String)) :
      (entries.map fun e => (e.1, Json.string e.2)).mapM
        (fun m => (attributeText? m.2).map fun s => (m.1, s)) = some entries := by
    induction entries with
    | nil => rfl
    | cons e rest ih =>
        rw [List.map_cons, List.mapM_cons, ih]
        rfl
  simp [attributesOf?, attributesJson, hentries]

theorem settled_attributesJson (attributes : SortedMap String) :
    (attributesJson attributes).settled = attributesJson attributes := by
  have hmembers (entries : List (String × String)) :
      Json.settledMembers (entries.map fun e => (e.1, Json.string e.2)) =
        entries.map fun e => (e.1, Json.string e.2) := by
    simp [Json.settledMembers_eq_map, Json.settled]
  have hascending : (attributes.entries.map fun e => (e.1, Json.string e.2)).Pairwise
      fun a b => a.1 < b.1 :=
    List.pairwise_map.2 attributes.ascending
  simp only [attributesJson, Json.settled, hmembers, SortedMap.entries_ofList hascending]

/-! ## One rule -/

def contentJson : RuleContent RuleNode → Json
  | .element n => n.toJson
  | .comment s => .object [("comment", .string s)]
  | .text s => .string s

theorem contentsJson_eq_map (contents : List (RuleContent RuleNode)) :
    contentsJson contents = contents.map contentJson := by
  induction contents with
  | nil => rfl
  | cons content rest ih => cases content <;> simp [contentsJson, contentJson, ih]

/-- The member of a locator, if there is one. -/
def locatorMember (locator : Option String) : List (String × Json) :=
  (locator.map fun text => ("namespace", .string text)).toList

/-- A rule is written as its name, its locator if it has one, its attributes and its contents. -/
theorem toJson_eq (n : RuleNode) :
    n.toJson =
      .object (("name", .string n.name) :: locatorMember n.locator ++
        [("attributes", attributesJson n.attributes),
          ("children", .array (n.children.map contentJson))]) := by
  rcases n with ⟨name, locator, attributes, children⟩
  cases locator <;> simp [toJson, locatorMember, attributesJson, contentsJson_eq_map]

/-- In order, the members of a written rule are its attributes, its contents, its name and its
locator. -/
theorem settled_toJson (n : RuleNode) :
    n.toJson.settled =
      .object ([("attributes", attributesJson n.attributes),
        ("children", .array (n.children.map fun c => (contentJson c).settled)),
        ("name", .string n.name)] ++ locatorMember n.locator) := by
  have hmembers : Json.settledMembers (("name", .string n.name) :: locatorMember n.locator ++
      [("attributes", attributesJson n.attributes),
        ("children", .array (n.children.map contentJson))]) =
      ("name", .string n.name) :: locatorMember n.locator ++
        [("attributes", attributesJson n.attributes),
          ("children", .array (n.children.map fun c => (contentJson c).settled))] := by
    cases hlocator : n.locator <;>
      simp [locatorMember, Json.settledMembers, Json.settled, Json.settledItems_eq_map,
        settled_attributesJson]
  rw [toJson_eq, Json.settled, hmembers]
  cases n.locator <;>
    simp only [locatorMember, Option.map_none, Option.map_some, Option.toList_none,
      Option.toList_some, List.cons_append, List.nil_append, SortedMap.ofList, SortedMap.insert,
      SortedMap.empty, List.foldl_cons, List.foldl_nil, SortedMap.place, String.reduceLT,
      String.reduceEq, reduceIte]

/-! ## Reading the fields of one rule -/

theorem readField_name (s : String) (d : Draft) :
    readField "name" (.string s) d = some { d with name := some s } := by
  simp [readField.eq_def, Json.string?]

theorem readField_locator (s : String) (d : Draft) :
    readField "namespace" (.string s) d = some { d with locator := some s } := by
  simp [readField.eq_def, Json.nullable?, Json.string?]

variable {n : RuleNode} {items : List Json}

/-- The members of a rule may come in the order of its fields. -/
theorem ofJson?_in_order_of_fields (hitems : readContents items = some n.children) :
    ofJson? (.object (("name", .string n.name) :: locatorMember n.locator ++
        [("attributes", attributesJson n.attributes), ("children", .array items)])) = some n := by
  rcases n with ⟨name, locator, attributes, children⟩
  cases locator <;>
    simp_all [ofJson?, readMembers, readField_name, readField_locator, readField_attributes,
      readField_children, attributesOf?_attributesJson, locatorMember, Draft.finish]

/-- The members of a rule may come in the order of their keys. -/
theorem ofJson?_in_order_of_keys (hitems : readContents items = some n.children) :
    ofJson? (.object ([("attributes", attributesJson n.attributes), ("children", .array items),
        ("name", .string n.name)] ++ locatorMember n.locator)) = some n := by
  rcases n with ⟨name, locator, attributes, children⟩
  cases locator <;>
    simp_all [ofJson?, readMembers, readField_name, readField_locator, readField_attributes,
      readField_children, attributesOf?_attributesJson, locatorMember, Draft.finish]

/-! ## Trees -/

/-- Contents are read back if the rules among them are. -/
theorem readContents_map {write : RuleContent RuleNode → Json}
    {contents : List (RuleContent RuleNode)}
    (h : ∀ c ∈ contents, readContent (write c) = some c) :
    readContents (contents.map write) = some contents := by
  induction contents with
  | nil => rfl
  | cons c rest ih =>
      rcases List.forall_mem_cons.1 h with ⟨hc, hrest⟩
      rw [List.map_cons, readContents, hc, ih hrest]
      rfl

theorem mem_elementsOf_of_mem {child : RuleNode} {contents : List (RuleContent RuleNode)}
    (h : .element child ∈ contents) : child ∈ elementsOf contents := by
  induction contents with
  | nil => cases h
  | cons c rest ih =>
      rcases List.mem_cons.1 h with heq | hrest
      · subst heq
        exact List.mem_cons_self
      · cases c with
        | element other => exact List.mem_cons_of_mem other (ih hrest)
        | comment _ => exact ih hrest
        | text _ => exact ih hrest

/-- What is read as a rule by itself is a rule under another one. -/
theorem readContent_of_ofJson? {members : List (String × Json)}
    (h : ofJson? (.object members) = some n) :
    readContent (.object members) = some (.element n) := by
  rw [readContent_object, h]
  rfl

/-- A rule is read back from either order of its members, and so is what stands under it. -/
theorem ofJson?_toJson (n : RuleNode) :
    ofJson? n.toJson = some n ∧ ofJson? n.toJson.settled = some n := by
  -- Over the rules under a rule; of its contents only these were not read back yet.
  induction n using inductionOnElements with
  | step n ih =>
      have hcontent : ∀ c ∈ n.children, readContent (contentJson c) = some c := by
        intro c hc
        cases c with
        | element child =>
            have hchild := (ih child (mem_elementsOf_of_mem hc)).1
            rw [contentJson, toJson_eq] at *
            exact readContent_of_ofJson? hchild
        | comment s => exact readContent_of_comment rfl
        | text s => rfl
      have hsettled : ∀ c ∈ n.children, readContent (contentJson c).settled = some c := by
        intro c hc
        cases c with
        | element child =>
            have hchild := (ih child (mem_elementsOf_of_mem hc)).2
            rw [contentJson, settled_toJson] at *
            exact readContent_of_ofJson? hchild
        | comment s => exact readContent_of_comment rfl
        | text s => rfl
      rw [settled_toJson, toJson_eq]
      exact ⟨ofJson?_in_order_of_fields (readContents_map hcontent),
        ofJson?_in_order_of_keys (readContents_map hsettled)⟩

end RuleNode

/-! ## Profiles -/

/-- The fields of a record without repeated keys are those of the record in the order of its
keys. -/
theorem Json.fields?_settled {members : List (String × Json)}
    (h : (members.map (·.1)).Nodup) (names : List String) :
    (Json.object members).settled.fields? names =
      some (names.map fun name => (SortedMap.lookup name members).map settled) := by
  have hkeys : (settledMembers members).map (·.1) = members.map (·.1) := by
    rw [settledMembers_eq_map, List.map_map]
    rfl
  have hlookup (name : String) :
      SortedMap.lookup name (SortedMap.ofList (settledMembers members)).entries =
        (SortedMap.lookup name members).map settled := by
    rw [← SortedMap.lookup_map, ← settledMembers_eq_map]
    exact SortedMap.get?_ofList (hkeys.symm ▸ h) name
  simp only [settled, fields?, hlookup]

/-- The written settings of a filter are read back, in order or not. -/
theorem FilterSettings.ofJson?_toJson (s : FilterSettings) :
    ofJson? s.toJson = some s ∧ ofJson? s.toJson.settled = some s := by
  have hnotifiers := Json.strings?_ofStrings s.notifiers
  rcases s.test.ofJson?_toJson with ⟨htest, hsettled⟩
  constructor
  · simp [ofJson?, toJson, Json.fields?, SortedMap.lookup, Json.orElse, hnotifiers, htest]
  · rw [ofJson?, toJson, Json.fields?_settled (by simp)]
    simp [SortedMap.lookup, Json.orElse, Json.settled_ofStrings, hnotifiers, hsettled]

/-- The written settings of a query are read back, in order or not. -/
theorem QuerySettings.ofJson?_toJson (s : QuerySettings) :
    ofJson? s.toJson = some s ∧ ofJson? s.toJson.settled = some s := by
  have hpredicates := Json.strings?_ofStrings s.predicates
  have hsearch := Json.nullable?_ofText? s.search
  constructor
  · simp [ofJson?, toJson, Json.fields?, SortedMap.lookup, Json.orElse, hpredicates, hsearch]
  · rw [ofJson?, toJson, Json.fields?_settled (by simp)]
    simp [SortedMap.lookup, Json.orElse, Json.settled_ofStrings, Json.settled_ofText?, hpredicates,
      hsearch]

/-- A filter that may be missing, as it stands in a profile. -/
def FilterSettings.optionJson (filter : Option FilterSettings) : Json :=
  (filter.map toJson).getD .null

/-- The settings of a filter that may be missing are read back. -/
theorem FilterSettings.nullable?_optionJson (filter : Option FilterSettings) :
    Json.nullable? ofJson? (optionJson filter) = some filter ∧
      Json.nullable? ofJson? (optionJson filter).settled = some filter := by
  cases filter with
  | none => exact ⟨rfl, rfl⟩
  | some s =>
      rcases s.ofJson?_toJson with ⟨hread, hsettled⟩
      exact ⟨congrArg (Option.map some) hread, congrArg (Option.map some) hsettled⟩

theorem Settings.toJson_eq (s : Settings) :
    s.toJson = .object [("profile_name", .string s.profileName),
      ("error_filter", FilterSettings.optionJson s.errorFilter), ("query", s.query.toJson)] := by
  rcases s with ⟨name, filter, query⟩
  cases filter <;> rfl

/-- Written settings are read back, in order or not. -/
theorem Settings.ofJson?_toJson (s : Settings) :
    ofJson? s.toJson = some s ∧ ofJson? s.toJson.settled = some s := by
  rcases FilterSettings.nullable?_optionJson s.errorFilter with ⟨hfilter, hfilterSettled⟩
  rcases s.query.ofJson?_toJson with ⟨hquery, hquerySettled⟩
  rw [toJson_eq]
  constructor
  · simp [ofJson?, Json.fields?, SortedMap.lookup, Json.orElse, Json.string?, hfilter, hquery]
  · rw [ofJson?, Json.fields?_settled (by simp)]
    simp [SortedMap.lookup, Json.orElse, Json.settled, Json.string?, hfilterSettled,
      hquerySettled]

/-- A tree of rules that was written is read back as the same tree, whether its members come in the
order of the fields or in that of the keys, and so is a profile.  So what was read from a document
is read again from what is written of it.  A truth value or a whole number for an attribute makes a
document of the same tree as its text does. -/
theorem written_configuration_reads_back :
    (∀ n : RuleNode, RuleNode.ofJson? n.toJson = some n ∧
      RuleNode.ofJson? n.toJson.settled = some n) ∧
    (∀ s : Settings, Settings.ofJson? s.toJson = some s ∧
      Settings.ofJson? s.toJson.settled = some s) ∧
    (∀ j, (RuleNode.ofJson? j).bind (fun n => RuleNode.ofJson? n.toJson) = RuleNode.ofJson? j ∧
      (Settings.ofJson? j).bind (fun s => Settings.ofJson? s.toJson) = Settings.ofJson? j) ∧
    ∀ j j', RuleNode.Respelled j j' → RuleNode.ofJson? j = RuleNode.ofJson? j' := by
  refine ⟨RuleNode.ofJson?_toJson, Settings.ofJson?_toJson, fun j => ⟨?_, ?_⟩,
    fun j j' h => h.reads_eq.1⟩
  · cases RuleNode.ofJson? j with
    | none => rfl
    | some n => exact n.ofJson?_toJson.1
  · cases Settings.ofJson? j with
    | none => rfl
    | some s => exact s.ofJson?_toJson.1

/-- A rule, given as an array of its fields, under a rule with a comment before it. -/
def documentWithStatus (status : Json) : Json :=
  .object [("children", .array [.object [("comment", .string "not found")],
      .array [.string "equal", .null,
        .object [("type", .string "int32"), ("value", status), ("binding", .string "Status")]]]),
    ("name", .string "not")]

theorem written_configuration_reads_back_status :
    RuleNode.Respelled (documentWithStatus (Json.int 404)) (documentWithStatus (.string "404")) ∧
      ∃ n, RuleNode.ofJson? (documentWithStatus (Json.int 404)) = some n ∧
        RuleNode.ofJson? (documentWithStatus (.string "404")) = some n ∧
        RuleNode.ofJson? n.toJson = some n := by
  have hrule : RuleNode.Respelled
      (.array ([.string "equal", .null] ++ .object ([("type", .string "int32")] ++
        ("value", Json.int 404) :: [("binding", .string "Status")]) :: []))
      (.array ([.string "equal", .null] ++ .object ([("type", .string "int32")] ++
        ("value", .string "404") :: [("binding", .string "Status")]) :: [])) :=
    .own (.whole 404) (.array [] rfl)
  have hdocument : RuleNode.Respelled (documentWithStatus (Json.int 404))
      (documentWithStatus (.string "404")) :=
    @RuleNode.Respelled.under _ _ _ _ [.object [("comment", .string "not found")]] [] hrule
      (.object [] [("name", .string "not")])
  rcases written_configuration_reads_back with ⟨hwritten, _, _, hrespelled⟩
  have hread : (RuleNode.ofJson? (documentWithStatus (Json.int 404))).isSome = true := by
    decide +kernel
  rcases Option.isSome_iff_exists.1 hread with ⟨n, hn⟩
  exact ⟨hdocument, n, hn, (hrespelled _ _ hdocument).symm.trans hn, (hwritten n).1⟩

end ErrorTriage
