import ErrorTriage.Proofs.Latest
import ErrorTriage.Proofs.Path.Modes

/-!
# Path.Document — walking the value of a document is walking the document

A document has members under keys and items at positions, and a text has letters at positions.
What steps lead to is said of the document alone.  The value of the document is made of records,
lists and texts, each with look-ups of its own; a walk over it finds the value of what the steps
lead to in the document.  Lengths of texts and arrays are the only things found that are no part of
the document.

Keys may be repeated in a document.  Then the last member of a key counts; where no key is repeated,
it is the only one.  A key may be called as a length is, and an object has no length, so the two do
not meet.
-/

namespace ErrorTriage

/-- The key that a step asks an object for; a member and a textual index ask alike. -/
def Step.key? : Step → Option String
  | .member name => some name
  | .index (.str key) => some key
  | .index (.int _) => none

namespace Json

/-! ## Steps in a document -/

/-- A step leads from a document to a part of it. -/
inductive Holds : Json → Step → Json → Prop where
  | member {members : List (String × Json)} {step : Step} {key : String} {found : Json}
      (hkey : step.key? = some key)
      (hlast : IsLastWith (fun member => member.1 = key) members (key, found)) :
      Holds (.object members) step found
  | item {items : List Json} {position : Nat} {found : Json}
      (hitem : items[position]? = some found) :
      Holds (.array items) (.index (.int position)) found
  | letter {s : String} {position : Nat} {c : Char} (hletter : s.toList[position]? = some c) :
      Holds (.string s) (.index (.int position)) (.string c.toString)

/-- A step asks a text or an array for its length. -/
inductive HasLength : Json → Step → Nat → Prop where
  | text (s : String) : HasLength (.string s) (.member "Length") s.length
  | array (items : List Json) {name : String} (hname : name = "Length" ∨ name = "Count") :
      HasLength (.array items) (.member name) items.length

/-- What one step finds in a document: the value of a part, or a length. -/
inductive Offers (j : Json) (step : Step) : Value → Prop where
  | part {found : Json} (hstep : Holds j step found) : Offers j step (Value.ofJson found)
  | length {n : Nat} (hlength : HasLength j step n) : Offers j step (.int n)

/-- A step is present in a document. -/
def IsPresent (j : Json) (step : Step) : Prop := ∃ v, Offers j step v

/-- Steps lead from a document to a part of it, one after another. -/
inductive Leads : Json → List Step → Json → Prop where
  | here (j : Json) : Leads j [] j
  | step {j next found : Json} {step : Step} {rest : List Step} (hstep : Holds j step next)
      (hrest : Leads next rest found) : Leads j (step :: rest) found

/-- What steps find in a document: the part that they lead to, or the length of one. -/
inductive Finds (j : Json) : List Step → Value → Prop where
  | part {steps : List Step} {found : Json} (hleads : Leads j steps found) :
      Finds j steps (Value.ofJson found)
  | length {steps : List Step} {step : Step} {found : Json} {n : Nat} (hleads : Leads j steps found)
      (hlength : HasLength found step n) : Finds j (steps ++ [step]) (.int n)

/-- A scalar has a value that is exactly it; whole numbers have one if they fit into 64 bits. -/
inductive IsExactly : Json → Value → Prop where
  | null : IsExactly .null .null
  | bool (b : Bool) : IsExactly (.bool b) (.bool b)
  | whole {n : Int} (hn : Integer.fits64 n = true) : IsExactly (.number (.int n)) (.int n)
  | float (x : Binary64) : IsExactly (.number (.float x)) (.float x)
  | string (s : String) : IsExactly (.string s) (.str s)

variable {j found : Json} {step : Step} {front steps rest : List Step} {v : Value}

/-- A walk through a document goes one step further. -/
theorem Leads.concat {last : Json} (h : Leads j front found) (hstep : Holds found step last) :
    Leads j (front ++ [step]) last := by
  induction h with
  | here => exact .step hstep (.here last)
  | step hfirst _ ih => exact .step hfirst (ih hstep)

theorem finds_nil_iff : Finds j [] v ↔ v = Value.ofJson j := by
  constructor
  · intro h
    generalize hsteps : ([] : List Step) = steps at h
    cases h with
    | part hleads =>
        subst hsteps
        cases hleads
        rfl
    | length => simp at hsteps
  · rintro rfl
    exact .part (.here j)

/-- The first of several steps leads to a part, where the others go on, or is the last one and asks
for a length. -/
theorem finds_cons_iff :
    Finds j (step :: rest) v ↔
      (∃ next, Holds j step next ∧ Finds next rest v) ∨
        ∃ n, HasLength j step n ∧ rest = [] ∧ v = .int n := by
  constructor
  · intro h
    -- A length is asked for by the last step, so its case is split by whether that is the first.
    generalize hsteps : step :: rest = steps at h
    cases h with
    | part hleads =>
        subst hsteps
        cases hleads with
        | step hstep hrest => exact .inl ⟨_, hstep, .part hrest⟩
    | @length front last _ n hleads hlength =>
        cases hleads with
        | here =>
            cases hsteps
            exact .inr ⟨n, hlength, rfl, rfl⟩
        | step hstep hrest =>
            cases hsteps
            exact .inl ⟨_, hstep, .length hrest hlength⟩
  · rintro (⟨next, hstep, hrest⟩ | ⟨n, hlength, rfl, rfl⟩)
    · cases hrest with
      | part hleads => exact .part (.step hstep hleads)
      | length hleads hlength => exact .length (.step hstep hleads) hlength
    · exact .length (.here j) hlength

/-- Each of the steps that find something is present where the steps before it lead. -/
theorem exists_applied_of_finds (h : Finds j (front ++ step :: rest) v) :
    ∃ applied, Leads j front applied ∧ applied.IsPresent step := by
  induction front generalizing j with
  | nil =>
      rcases finds_cons_iff.1 h with ⟨next, hstep, _⟩ | ⟨n, hlength, _⟩
      · exact ⟨j, .here j, _, .part hstep⟩
      · exact ⟨j, .here j, _, .length hlength⟩
  | cons first front ih =>
      rcases finds_cons_iff.1 h with ⟨next, hfirst, hrest⟩ | ⟨_, _, hend, _⟩
      · rcases ih hrest with ⟨applied, hfront, hpresent⟩
        exact ⟨applied, .step hfirst hfront, hpresent⟩
      · -- There are steps behind this one, so it cannot have asked for a length.
        simp at hend

/-- A step that is there finds something. -/
theorem exists_finds_concat (hfront : Leads j front found) (hpresent : found.IsPresent step) :
    ∃ v, Finds j (front ++ [step]) v := by
  rcases hpresent with ⟨v, hstep | hlength⟩
  · exact ⟨_, .part (hfront.concat hstep)⟩
  · exact ⟨_, .length hfront hlength⟩

/-- Nothing is present in null. -/
theorem ne_null_of_isPresent (h : j.IsPresent step) : j ≠ .null := by
  rintro rfl
  rcases h with ⟨_, ⟨⟨⟩⟩ | ⟨⟨⟩⟩⟩

end Json

namespace Value

/-! ## One step over the value of a document -/

theorem ofJsonItems_eq_map (items : List Json) : ofJsonItems items = items.map ofJson := by
  induction items with
  | nil => rfl
  | cons item rest ih => simp [ofJsonItems, ih]

theorem ofJsonMembers_eq_map (members : List (String × Json)) :
    ofJsonMembers members = members.map fun member => (member.1, ofJson member.2) := by
  induction members with
  | nil => rfl
  | cons member rest ih => simp [ofJsonMembers, ih]

variable {j : Json} {step : Step} {v : Value}

/-- Of several members with one key the last one is read. -/
theorem get?_ofJsonMembers_eq_some_iff {members : List (String × Json)} {key : String} :
    (SortedMap.ofList (ofJsonMembers members)).get? key = some v ↔
      ∃ found, IsLastWith (fun member => member.1 = key) members (key, found) ∧
        v = ofJson found := by
  rw [SortedMap.get?_ofList_reverse, ofJsonMembers_eq_map, ← List.map_reverse,
    SortedMap.lookup_map, Option.map_eq_some_iff]
  constructor
  · rintro ⟨found, hfound, rfl⟩
    exact ⟨found, SortedMap.lookup_reverse_eq_some_iff.1 hfound, rfl⟩
  · rintro ⟨found, hlast, rfl⟩
    exact ⟨found, SortedMap.lookup_reverse_eq_some_iff.2 hlast, rfl⟩

/-- In an object a step finds the last member of its name. -/
theorem lookup?_object_eq_some_iff {members : List (String × Json)} :
    (ofJson (.object members)).lookup? step = some v ↔
      ∃ found, Json.Holds (.object members) step found ∧ v = ofJson found := by
  have hkey : (ofJson (.object members)).lookup? step =
      step.key?.bind (SortedMap.ofList (ofJsonMembers members)).get? := by
    rw [ofJson]
    rcases step with name | i | key <;> rfl
  rw [hkey, Option.bind_eq_some_iff]
  simp only [get?_ofJsonMembers_eq_some_iff]
  constructor
  · rintro ⟨key, hkey, found, hlast, rfl⟩
    exact ⟨found, .member hkey hlast, rfl⟩
  · rintro ⟨found, ⟨hkey, hlast⟩, rfl⟩
    exact ⟨_, hkey, found, hlast, rfl⟩

/-- In a list a step finds what the list offers: an item, or the length. -/
theorem lookup?_array_eq_some_iff {items : List Json} :
    (ofJson (.array items)).lookup? step = some v ↔ Json.Offers (.array items) step v := by
  rw [ofJson, ofJsonItems_eq_map]
  rcases step with name | i | key
  · have hlength : lookup? (.list (items.map ofJson)) (.member name) =
        if name = "Length" ∨ name = "Count" then some (.int items.length) else none := by
      simp only [lookup?, member?, List.length_map]
    rw [hlength, Option.ite_none_right_eq_some]
    constructor
    · rintro ⟨hname, hv⟩
      cases hv
      exact .length (.array items hname)
    · rintro (⟨⟨⟩⟩ | hcounted)
      cases hcounted with
      | array _ hname => exact ⟨hname, rfl⟩
  · rw [lookup?_list_position, itemAt_map, Option.map_eq_some_iff]
    simp only [itemAt_eq_some_iff]
    constructor
    · rintro ⟨found, ⟨position, rfl, hfound⟩, rfl⟩
      exact .part (.item hfound)
    · rintro (hstep | ⟨⟨⟩⟩)
      cases hstep with
      | item hfound => exact ⟨_, ⟨_, rfl, hfound⟩, rfl⟩
  · refine iff_of_false (by rintro ⟨⟩) ?_
    rintro (⟨⟨⟩⟩ | ⟨⟨⟩⟩)

/-- In a string a step finds what the string offers: a character, or the length. -/
theorem lookup?_string_eq_some_iff {s : String} :
    (ofJson (.string s)).lookup? step = some v ↔ Json.Offers (.string s) step v := by
  rw [ofJson]
  rcases step with name | i | key
  · have hlength : lookup? (.str s) (.member name) =
        if name = "Length" then some (.int s.length) else none := rfl
    rw [hlength, Option.ite_none_right_eq_some]
    constructor
    · rintro ⟨rfl, hv⟩
      cases hv
      exact .length (.text s)
    · rintro (⟨⟨⟩⟩ | ⟨⟨⟩⟩)
      exact ⟨rfl, rfl⟩
  · rw [lookup?_text_position, Option.map_eq_some_iff]
    simp only [itemAt_eq_some_iff]
    constructor
    · rintro ⟨c, ⟨position, rfl, hc⟩, rfl⟩
      have hoffers : Json.Offers (.string s) (.index (.int position)) _ := .part (.letter hc)
      rwa [ofJson] at hoffers
    · rintro (hstep | ⟨⟨⟩⟩)
      cases hstep with
      | letter hc => exact ⟨_, ⟨_, rfl, hc⟩, by rw [ofJson]⟩
  · refine iff_of_false (by rintro ⟨⟩) ?_
    rintro (⟨⟨⟩⟩ | ⟨⟨⟩⟩)

/-- A scalar is read as the very value that it stands for. -/
theorem ofJson_of_isExactly (h : j.IsExactly v) : ofJson j = v := by
  cases h with
  | null => rw [ofJson]
  | bool b => rw [ofJson]
  | whole hn => rw [ofJson, ofJsonNumber, if_pos hn]
  | float x => rw [ofJson, ofJsonNumber]
  | string s => rw [ofJson]

theorem lookup?_ofJsonNumber (n : JsonNumber) (step : Step) :
    (ofJsonNumber n).lookup? step = none := by
  cases n with
  | int n =>
      rw [ofJsonNumber]
      cases Integer.fits64 n <;> cases step <;> rfl
  | float x => cases step <;> rfl

/-- A step finds in the value of a document what it finds in the document. -/
theorem lookup?_ofJson_eq_some_iff :
    (ofJson j).lookup? step = some v ↔ j.Offers step v := by
  -- Scalars other than texts have neither parts nor a length.
  have hscalar {scalar : Json} (hnone : (ofJson scalar).lookup? step = none)
      (habsent : ¬scalar.Offers step v) :
      (ofJson scalar).lookup? step = some v ↔ scalar.Offers step v := by
    refine iff_of_false ?_ habsent
    rw [hnone]
    rintro ⟨⟩
  cases j with
  | null =>
      refine hscalar (by rw [ofJson, lookup?_null]) ?_
      rintro (⟨⟨⟩⟩ | ⟨⟨⟩⟩)
  | bool b =>
      refine hscalar (by rw [ofJson]; cases step <;> rfl) ?_
      rintro (⟨⟨⟩⟩ | ⟨⟨⟩⟩)
  | number n =>
      refine hscalar (by rw [ofJson, lookup?_ofJsonNumber]) ?_
      rintro (⟨⟨⟩⟩ | ⟨⟨⟩⟩)
  | string s => exact lookup?_string_eq_some_iff
  | array items => exact lookup?_array_eq_some_iff
  | object members =>
      rw [lookup?_object_eq_some_iff]
      constructor
      · rintro ⟨found, hstep, rfl⟩
        exact .part hstep
      · rintro (hstep | ⟨⟨⟩⟩)
        exact ⟨_, hstep, rfl⟩

/-- A key that no member has is not found, not even as a length. -/
theorem lookup?_object_eq_none {members : List (String × Json)} {key : String}
    (hkey : step.key? = some key) (habsent : key ∉ members.map (·.1)) :
    (ofJson (.object members)).lookup? step = none := by
  rw [Option.eq_none_iff_forall_ne_some]
  intro v hv
  rcases lookup?_object_eq_some_iff.1 hv with ⟨found, ⟨hkey', hlast⟩, _⟩
  cases hkey.symm.trans hkey'
  exact habsent (List.mem_map_of_mem hlast.mem)

/-! ## Walks over the value of a document -/

/-- The strict walk arrives if its first step finds something and the rest arrives from there. -/
theorem walk_strict_cons_eq_ok_iff {root : Value} {rest : List Step} :
    root.walk true (step :: rest) = .ok v ↔
      ∃ next, root.lookup? step = some next ∧ next.walk true rest = .ok v := by
  cases hnext : root.lookup? step with
  | none => simp [walk_strict_cons_of_lookup?_eq_none hnext]
  | some next => simp [walk_cons_of_lookup?_eq_some hnext]

/-- A number has no members, so it is the end of a walk. -/
theorem walk_strict_int_eq_ok_iff {n : Int} {steps : List Step} :
    (Value.int n).walk true steps = .ok v ↔ steps = [] ∧ v = .int n := by
  cases steps with
  | nil => simp [eq_comm]
  | cons step rest =>
      have hnone : (Value.int n).lookup? step = none := by cases step <;> rfl
      simp [walk_strict_cons_of_lookup?_eq_none hnone]

/-- The strict walk arrives exactly at what the document has under the steps. -/
theorem walk_strict_ofJson_eq_ok_iff {steps : List Step} :
    (ofJson j).walk true steps = .ok v ↔ j.Finds steps v := by
  induction steps generalizing j with
  | nil => rw [walk_nil, Json.finds_nil_iff, Except.ok.injEq, eq_comm]
  | cons step rest ih =>
      -- A part is a document again and the induction goes on; a length ends the walk.
      rw [walk_strict_cons_eq_ok_iff, Json.finds_cons_iff]
      constructor
      · rintro ⟨next, hnext, hwalk⟩
        rcases lookup?_ofJson_eq_some_iff.1 hnext with hstep | hlength
        · exact .inl ⟨_, hstep, ih.1 hwalk⟩
        · exact .inr ⟨_, hlength, walk_strict_int_eq_ok_iff.1 hwalk⟩
      · rintro (⟨next, hstep, hrest⟩ | ⟨n, hlength, hend⟩)
        · exact ⟨_, lookup?_ofJson_eq_some_iff.2 (.part hstep), ih.2 hrest⟩
        · exact ⟨_, lookup?_ofJson_eq_some_iff.2 (.length hlength),
            walk_strict_int_eq_ok_iff.2 hend⟩

/-- The lenient walk arrives where the strict one does, and at null where the document has
nothing. -/
theorem walk_lenient_ofJson_eq_ok_iff {steps : List Step} :
    (ofJson j).walk false steps = .ok v ↔
      j.Finds steps v ∨ v = .null ∧ ∀ w, ¬j.Finds steps w := by
  simp only [← walk_strict_ofJson_eq_ok_iff, walk_lenient_eq_collapsed, Except.ok.injEq]
  cases (ofJson j).walk true steps with
  | ok w => simp [collapsed]
  | error e => simp [collapsed, eq_comm]

/-- Behind a part of the document the walk goes on from the value of the part, in both modes. -/
theorem walk_ofJson_append {part : Json} {front : List Step} (h : j.Leads front part)
    (strict : Bool) (rest : List Step) :
    (ofJson j).walk strict (front ++ rest) = (ofJson part).walk strict rest := by
  induction h with
  | here => rfl
  | step hstep _ ih =>
      rw [List.cons_append,
        walk_cons_of_lookup?_eq_some (lookup?_ofJson_eq_some_iff.2 (.part hstep)), ih]

/-- The strict walk arrives exactly if every step is present where it is applied. -/
theorem succeeds_iff_present {steps : List Step} :
    (∃ v, (ofJson j).walk true steps = .ok v) ↔
      ∀ front step rest, steps = front ++ step :: rest →
        ∃ applied, j.Leads front applied ∧ applied ≠ .null ∧ applied.IsPresent step := by
  simp only [walk_strict_ofJson_eq_ok_iff]
  constructor
  · rintro ⟨v, h⟩ front step rest rfl
    rcases Json.exists_applied_of_finds h with ⟨applied, hfront, hpresent⟩
    exact ⟨applied, hfront, Json.ne_null_of_isPresent hpresent, hpresent⟩
  · intro h
    -- What is known of the last step is enough: the steps before it lead to where it is present.
    rcases List.eq_nil_or_concat steps with rfl | ⟨front, step, rfl⟩
    · exact ⟨_, Json.finds_nil_iff.2 rfl⟩
    · rw [List.concat_eq_append] at h ⊢
      rcases h front step [] rfl with ⟨applied, hfront, _, hpresent⟩
      exact Json.exists_finds_concat hfront hpresent

/-! ## The document and its value side by side -/

/-- A walk over the value of a document finds what its steps find in the document.  Null is found
strictly where it is a part of the document, and leniently where nothing is found as well. -/
structure FollowsDocument (j : Json) (steps : List Step) : Prop where
  strict_iff : ∀ v, (ofJson j).walk true steps = .ok v ↔ j.Finds steps v
  succeeds_iff : (∃ v, (ofJson j).walk true steps = .ok v) ↔
    ∀ front step rest, steps = front ++ step :: rest →
      ∃ applied, j.Leads front applied ∧ applied ≠ .null ∧ applied.IsPresent step
  lenient_iff : ∀ v, (ofJson j).walk false steps = .ok v ↔
    j.Finds steps v ∨ v = .null ∧ ∀ w, ¬j.Finds steps w
  scalar : ∀ scalar v, j.Leads steps scalar → scalar.IsExactly v →
    ∀ strict, (ofJson j).walk strict steps = .ok v
  empty_member : ∀ members step key, j.Leads steps (.object members) → step.key? = some key →
    IsLastWith (fun member => member.1 = key) members (key, .null) →
    (ofJson j).walk true (steps ++ [step]) = .ok .null ∧
      ∀ rest, (ofJson j).walk false (steps ++ step :: rest) = .ok .null
  absent_member : ∀ members step key, j.Leads steps (.object members) → step.key? = some key →
    key ∉ members.map (·.1) →
    (ofJson j).walk true (steps ++ [step]) = .error ((ofJson (.object members)).missing step) ∧
      ∀ rest, (ofJson j).walk false (steps ++ step :: rest) = .ok .null

/-- Over every document and along any steps, the walk over the value of the document is the walk
over the document. -/
theorem walks_follow_documents (j : Json) (steps : List Step) : FollowsDocument j steps where
  strict_iff := fun _ => walk_strict_ofJson_eq_ok_iff
  succeeds_iff := succeeds_iff_present
  lenient_iff := fun _ => walk_lenient_ofJson_eq_ok_iff
  scalar := by
    intro scalar v hleads hexactly strict
    have hwalk := walk_ofJson_append hleads strict []
    rwa [List.append_nil, walk_nil, ofJson_of_isExactly hexactly] at hwalk
  empty_member := by
    intro members step key hleads hkey hlast
    have hfound : (ofJson (.object members)).lookup? step = some .null :=
      lookup?_object_eq_some_iff.2 ⟨.null, .member hkey hlast, by rw [ofJson]⟩
    constructor
    · rw [walk_ofJson_append hleads, walk_cons_of_lookup?_eq_some hfound, walk_nil]
    · intro rest
      rw [walk_ofJson_append hleads, walk_cons_of_lookup?_eq_some hfound, walk_lenient_null]
  absent_member := by
    intro members step key hleads hkey habsent
    have hnone := lookup?_object_eq_none hkey habsent
    have hobject : (ofJson (.object members)).isNull = false := by rw [ofJson]; rfl
    constructor
    · rw [walk_ofJson_append hleads, walk_strict_cons_of_lookup?_eq_none hnone,
        blame_of_not_null hobject]
    · intro rest
      rw [walk_ofJson_append hleads, walk_lenient_cons_of_lookup?_eq_none hnone]

/-- A document whose members are called as lengths are, one of them twice, and one that is empty. -/
def lengthsDocument : Json :=
  .object [("Count", .null), ("Length", .array [.string "hé"]),
    ("Count", .number (.int 9223372036854775807)), ("note", .null)]

theorem walks_follow_documents_lengths :
    (ofJson lengthsDocument).walk true [.member "Length", .index (.int 0), .index (.int 1)] =
        .ok (.str "é") ∧
      (ofJson lengthsDocument).walk true [.index (.str "Length"), .member "Count"] =
        .ok (.int 1) ∧
      (ofJson lengthsDocument).walk false [.index (.str "Count")] =
        .ok (.int 9223372036854775807) ∧
      (ofJson lengthsDocument).walk true [.member "note"] = .ok .null ∧
      (ofJson lengthsDocument).walk true [.member "Note"] =
        .error (.missingMember "Object" "Note") ∧
      (ofJson lengthsDocument).walk false [.member "Note", .index (.int (-1))] = .ok .null := by
  have hlength {step : Step} (hkey : step.key? = some "Length") :
      lengthsDocument.Holds step (.array [.string "hé"]) :=
    .member hkey ⟨[_], [_, _], rfl, rfl, by decide⟩
  have hcount : lengthsDocument.Holds (.index (.str "Count"))
      (.number (.int 9223372036854775807)) :=
    .member rfl ⟨[_, _], [_], rfl, rfl, by decide⟩
  have hletter : Json.Holds (.string "hé") (.index (.int (1 : Nat))) (.string 'é'.toString) :=
    .letter (by decide +kernel)
  have hletters : lengthsDocument.Leads [.member "Length", .index (.int 0), .index (.int 1)]
      (.string 'é'.toString) :=
    .step (hlength rfl) (.step (.item rfl) (.step hletter (.here _)))
  have hitems : lengthsDocument.Finds [.index (.str "Length"), .member "Count"] (.int 1) :=
    .length (.step (hlength rfl) (.here _)) (.array _ (.inr rfl))
  have hobject := walks_follow_documents lengthsDocument []
  have hnote := hobject.empty_member _ (.member "note") "note" (.here _) rfl
    ⟨[_, _, _], [], rfl, rfl, by simp⟩
  have hNote := hobject.absent_member _ (.member "Note") "Note" (.here _) rfl (by decide)
  refine ⟨?_, ?_, ?_, hnote.1, hNote.1, hNote.2 _⟩
  · have hwalk := ((walks_follow_documents _ _).strict_iff _).2 (.part hletters)
    rw [ofJson] at hwalk
    exact hwalk
  · exact ((walks_follow_documents _ _).strict_iff _).2 hitems
  · have hwhole := (walks_follow_documents _ _).scalar _ _ (.step hcount (.here _))
      (.whole (by decide))
    exact hwhole false

end Value
end ErrorTriage
