import ErrorTriage.Capture.Request
import ErrorTriage.Proofs.Outcome
import ErrorTriage.Proofs.Path.Modes

/-!
# Capture.Collections — what names and positions find in collections and requests

A collection is the history of the pairs that were added to it, so every statement about it is one
about a list of pairs.  A name finds the values of all pairs whose name is the same up to the case
of ASCII letters; one more pair changes what its own name finds and nothing else.

A textual index on a request asks four collections in turn.  What it finds in one of them is not
changed by pairs that are added to later ones, however many there are; headers come after all that
are asked.
-/

namespace ErrorTriage

/-! ## Collections as histories -/

namespace NameValues

/-- The collection of pairs that are added one after another. -/
def ofAdds (adds : List (String × String)) : NameValues :=
  adds.foldl (fun m pair => m.add pair.1 pair.2) .empty

/-- Pairs are kept in the order in which they are added. -/
theorem entries_foldl_add (adds : List (String × String)) (m : NameValues) :
    (adds.foldl (fun m pair => m.add pair.1 pair.2) m).entries = m.entries ++ adds := by
  induction adds generalizing m with
  | nil => simp
  | cons pair rest ih =>
      rw [List.foldl_cons, ih]
      simp [add]

theorem ofAdds_eq (adds : List (String × String)) : ofAdds adds = ⟨adds⟩ :=
  congrArg NameValues.mk (entries_foldl_add adds .empty)

/-- The values of the pairs whose name is a key up to the case of ASCII letters. -/
def valuesUnder (key : String) : List (String × String) → List String
  | [] => []
  | (name, value) :: rest =>
    if Text.sameIgnoringAsciiCase name key then value :: valuesUnder key rest
    else valuesUnder key rest

/-- What was found so far, and one more value behind it. -/
def joined : Option String → String → String
  | none, value => value
  | some found, value => found ++ "," ++ value

variable {m : NameValues} {key : String}

/-- The values of a name stand in the order of their pairs. -/
theorem valuesOf_eq (m : NameValues) (key : String) :
    m.valuesOf key = valuesUnder key m.entries := by
  rcases m with ⟨entries⟩
  simp only [valuesOf]
  induction entries with
  | nil => rfl
  | cons pair rest ih =>
      by_cases hname : Text.sameIgnoringAsciiCase pair.1 key = true
      · simp [valuesUnder, hname, ih]
      · simp [valuesUnder, hname, ih]

/-- A name has no value exactly if no pair has it, in whatever case. -/
theorem get?_eq_none_iff :
    m.get? key = none ↔ ∀ pair ∈ m.entries, Text.sameIgnoringAsciiCase pair.1 key = false := by
  have hvalues : m.get? key = none ↔ m.valuesOf key = [] := by
    simp only [get?]
    cases m.valuesOf key <;> simp
  simp [hvalues, valuesOf, List.filter_eq_nil_iff]

/-- The values of a name are joined with commas, in order. -/
theorem get?_of_ne_none (h : m.get? key ≠ none) :
    m.get? key = some (",".intercalate (valuesUnder key m.entries)) := by
  simp only [get?, valuesOf_eq] at h ⊢
  cases hvalues : valuesUnder key m.entries with
  | nil => simp [hvalues] at h
  | cons first rest => rfl

/-- One more pair is found behind what its name found before, and by no other name. -/
theorem get?_add (m : NameValues) (name value key : String) :
    (m.add name value).get? key =
      if Text.sameIgnoringAsciiCase name key = true then some (joined (m.get? key) value)
      else m.get? key := by
  have hvalues : (m.add name value).valuesOf key = m.valuesOf key ++
      if Text.sameIgnoringAsciiCase name key = true then [value] else [] := by
    simp only [valuesOf, add, List.filter_append, List.map_append]
    by_cases hname : Text.sameIgnoringAsciiCase name key = true <;> simp [hname]
  simp only [get?, hvalues]
  by_cases hname : Text.sameIgnoringAsciiCase name key = true
  · cases hfound : m.valuesOf key with
    | nil => simp [hname, joined]
    | cons first rest =>
        have hjoin : ",".intercalate (first :: rest ++ [value]) =
            ",".intercalate (first :: rest) ++ "," ++ value := by
          simpa using String.intercalate_append_of_ne_nil (s := ",") (List.cons_ne_nil first rest)
            (List.cons_ne_nil value [])
        simp only [if_pos hname, joined, ← hjoin, List.cons_append]
  · simp [hname]

/-! ## Positions -/

/-- A textual index finds the values of its name, or null; it never fails. -/
theorem walk_key (m : NameValues) (key : String) (strict : Bool) :
    m.toValue.walk strict [.index (.str key)] = .ok (Value.ofOption (m.get? key)) :=
  Value.walk_cons_of_lookup?_eq_some rfl strict []

/-- The count of a collection is that of the pairs that were added. -/
theorem walk_count (adds : List (String × String)) (strict : Bool) :
    (ofAdds adds).toValue.walk strict [.member "Count"] = .ok (.int adds.length) := by
  rw [ofAdds_eq]
  exact Value.walk_cons_of_lookup?_eq_some rfl strict []

/-- The item at a position is the value of the pair there. -/
theorem lookup?_position (m : NameValues) (i : Int) :
    m.toValue.lookup? (.index (.int i)) =
      (Value.itemAt m.entries i).map fun pair => .str pair.2 := by
  by_cases hi : 0 ≤ i <;> simp [Value.lookup?, Value.item?, toValue, item?, Value.itemAt, hi]

/-- A position finds the value of its pair, and the list of names has the name there. -/
theorem walk_position {adds : List (String × String)} {position : Nat} {pair : String × String}
    (h : adds[position]? = some pair) (strict : Bool) :
    (ofAdds adds).toValue.walk strict [.index (.int position)] = .ok (.str pair.2) ∧
      (ofAdds adds).toValue.walk strict [.member "AllKeys", .index (.int position)] =
        .ok (.str pair.1) := by
  rw [ofAdds_eq]
  have hpair : Value.itemAt adds position = some pair :=
    Value.itemAt_eq_some_iff.2 ⟨position, rfl, h⟩
  have hitem : (toValue ⟨adds⟩).lookup? (.index (.int position)) = some (.str pair.2) := by
    rw [lookup?_position, hpair, Option.map_some]
  have hkeys : (toValue ⟨adds⟩).lookup? (.member "AllKeys") =
      some (.list (adds.map fun pair => .str pair.1)) := rfl
  have hname : (Value.list (adds.map fun pair => .str pair.1)).lookup? (.index (.int position)) =
      some (.str pair.1) := by
    rw [Value.lookup?_list_position, Value.itemAt_map, hpair, Option.map_some]
  constructor
  · exact Value.walk_cons_of_lookup?_eq_some hitem strict []
  · rw [Value.walk_cons_of_lookup?_eq_some hkeys, Value.walk_cons_of_lookup?_eq_some hname]
    rfl

/-- Outside of the positions the strict walk fails, for values and for names. -/
theorem walk_strict_outside {adds : List (String × String)} {i : Int}
    (h : i < 0 ∨ adds.length ≤ i) :
    (ofAdds adds).toValue.walk true [.index (.int i)] =
        .error (.missingIndexer "NameValueCollection" (.int i)) ∧
      (ofAdds adds).toValue.walk true [.member "AllKeys", .index (.int i)] =
        .error (.missingIndexer "Array" (.int i)) := by
  rw [ofAdds_eq]
  have hnothing : Value.itemAt adds i = none := Value.itemAt_eq_none_iff.2 (by omega)
  have hitem : (toValue ⟨adds⟩).lookup? (.index (.int i)) = none := by
    rw [lookup?_position, hnothing, Option.map_none]
  have hkeys : (toValue ⟨adds⟩).lookup? (.member "AllKeys") =
      some (.list (adds.map fun pair => .str pair.1)) := rfl
  have hname :
      (Value.list (adds.map fun pair => .str pair.1)).lookup? (.index (.int i)) = none := by
    rw [Value.lookup?_list_position, Value.itemAt_map, hnothing, Option.map_none]
  constructor
  · exact Value.walk_strict_cons_of_lookup?_eq_none hitem []
  · rw [Value.walk_cons_of_lookup?_eq_some hkeys, Value.walk_strict_cons_of_lookup?_eq_none hname]
    rfl

/-! ## Documents -/

/-- The pair of a member that is a text. -/
def pair? (member : String × Json) : Option (String × String) :=
  member.2.string?.map fun s => (member.1, s)

/-- The members of an object of texts. -/
def textMembers (pairs : List (String × String)) : List (String × Json) :=
  pairs.map fun pair => (pair.1, .string pair.2)

/-- Only a member that is a text makes a pair. -/
theorem pair?_eq_some_iff {member : String × Json} {pair : String × String} :
    pair? member = some pair ↔ member = (pair.1, .string pair.2) := by
  rcases member with ⟨key, j⟩
  rcases pair with ⟨name, value⟩
  cases j <;> simp [pair?, Json.string?]

/-- Members make pairs exactly if all of them are texts. -/
theorem mapM_pair?_eq_some_iff {members : List (String × Json)} {pairs : List (String × String)} :
    members.mapM pair? = some pairs ↔ members = textMembers pairs := by
  induction members generalizing pairs with
  | nil => cases pairs <;> simp [textMembers]
  | cons member rest ih =>
      simp only [List.mapM_cons, bind, Option.bind_eq_some_iff, pure, Option.some.injEq,
        pair?_eq_some_iff, ih]
      constructor
      · rintro ⟨pair, rfl, more, rfl, rfl⟩
        rfl
      · intro h
        cases pairs with
        | nil => cases h
        | cons pair more =>
            cases h
            exact ⟨pair, rfl, more, rfl, rfl⟩

/-- A collection is read of an object of texts, in ascending order of the names, and of nothing
else. -/
theorem ofJson?_eq_some_iff {j : Json} {m : NameValues} :
    ofJson? j = some m ↔
      ∃ pairs, j = .object (textMembers pairs) ∧ m = ofAdds (SortedMap.ofList pairs).entries := by
  cases j with
  | object members =>
      have hread : ofJson? (.object members) =
          (members.mapM pair?).map fun pairs => ⟨(SortedMap.ofList pairs).entries⟩ := rfl
      simp only [hread, Option.map_eq_some_iff, mapM_pair?_eq_some_iff, ofAdds_eq]
      constructor
      · rintro ⟨pairs, rfl, rfl⟩
        exact ⟨pairs, rfl, rfl⟩
      · rintro ⟨pairs, hmembers, rfl⟩
        cases hmembers
        exact ⟨pairs, rfl, rfl⟩
  | _ => simp [ofJson?]

end NameValues

/-! ## Requests -/

namespace Request

inductive Collection where
  | queryString
  | form
  | cookies
  | serverVariables
  | headers
deriving DecidableEq

namespace Collection

def name : Collection → String
  | .queryString => "QueryString"
  | .form => "Form"
  | .cookies => "Cookies"
  | .serverVariables => "ServerVariables"
  | .headers => "Headers"

def get (r : Request) : Collection → NameValues
  | .queryString => r.queryString
  | .form => r.form
  | .cookies => r.cookies
  | .serverVariables => r.serverVariables
  | .headers => r.headers

/-- The place of a collection in the order of the search; headers are not reached. -/
def rank : Collection → Nat
  | .queryString => 0
  | .form => 1
  | .cookies => 2
  | .serverVariables => 3
  | .headers => 4

/-- The collections that a textual index asks, in order. -/
def asked : List Collection := [.queryString, .form, .cookies, .serverVariables]

end Collection

/-- The request with one more pair in one of its collections. -/
def add (r : Request) (name value : String) : Collection → Request
  | .queryString => { r with queryString := r.queryString.add name value }
  | .form => { r with form := r.form.add name value }
  | .cookies => { r with cookies := r.cookies.add name value }
  | .serverVariables => { r with serverVariables := r.serverVariables.add name value }
  | .headers => { r with headers := r.headers.add name value }

/-- The request with further pairs, one after another. -/
def addAll (r : Request) (adds : List (Collection × String × String)) : Request :=
  adds.foldl (fun r a => r.add a.2.1 a.2.2 a.1) r

/-- The first value that is not null, and null if there is none. -/
def firstNotNull (values : List Value) : Value :=
  (values.find? fun v => !v.isNull).getD .null

variable {r : Request} {key : String}

/-- A collection of a request is asked by the name of its member. -/
theorem walk_collection (r : Request) (c : Collection) (key : String) (strict : Bool) :
    r.toValue.walk strict [.member c.name, .index (.str key)] =
      .ok (Value.ofOption ((c.get r).get? key)) := by
  have hmember : r.toValue.lookup? (.member c.name) = some (c.get r).toValue := by
    cases c <;> rfl
  rw [Value.walk_cons_of_lookup?_eq_some hmember]
  exact (c.get r).walk_key key strict

/-- A textual index on a request finds what the first collection has that has anything. -/
theorem walk_key (r : Request) (key : String) (strict : Bool) :
    r.toValue.walk strict [.index (.str key)] =
      .ok (Value.ofOption (r.searched.findSome? fun m => m.get? key)) :=
  Value.walk_cons_of_lookup?_eq_some rfl strict []

theorem ofOption_findSome?_eq_firstNotNull (ms : List NameValues) (key : String) :
    Value.ofOption (ms.findSome? fun m => m.get? key) =
      firstNotNull (ms.map fun m => Value.ofOption (m.get? key)) := by
  induction ms with
  | nil => rfl
  | cons m rest ih =>
      cases hfound : m.get? key with
      | none => simpa [hfound, firstNotNull, Value.ofOption, Value.isNull] using ih
      | some text => simp [hfound, firstNotNull, Value.ofOption, Value.isNull]

/-- Adding to one collection leaves those before it as they are. -/
theorem get_add_of_rank_lt {c other : Collection} (h : c.rank < other.rank) (r : Request)
    (name value : String) : c.get (r.add name value other) = c.get r := by
  cases other <;> cases c <;> first | rfl | exact absurd h (by decide)

/-- Pairs added to later collections do not change an earlier one. -/
theorem get_addAll_of_rank_lt {c : Collection} {adds : List (Collection × String × String)}
    (h : ∀ a ∈ adds, c.rank < a.1.rank) (r : Request) : c.get (r.addAll adds) = c.get r := by
  induction adds generalizing r with
  | nil => rfl
  | cons a rest ih =>
      rcases List.forall_mem_cons.1 h with ⟨ha, hrest⟩
      have hstep : c.get (r.add a.2.1 a.2.2 a.1) = c.get r := get_add_of_rank_lt ha r a.2.1 a.2.2
      exact (ih hrest (r.add a.2.1 a.2.2 a.1)).trans hstep

/-- A search that ends at a collection does not see what changes behind it. -/
theorem findSome?_eq_of_rank_le {c : Collection} {cs : List Collection}
    (hcs : cs.Pairwise fun a b => a.rank < b.rank) (hc : c ∈ cs) {f g : Collection → Option String}
    (hfound : f c ≠ none) (hsame : ∀ d : Collection, d.rank ≤ c.rank → g d = f d) :
    cs.findSome? g = cs.findSome? f := by
  induction cs with
  | nil => cases hc
  | cons d rest ih =>
      rcases List.pairwise_cons.1 hcs with ⟨hd, hrest⟩
      rcases List.mem_cons.1 hc with rfl | hc
      · -- The search ends here.
        have hhere : g c = f c := hsame c (Nat.le_refl _)
        cases hf : f c with
        | none => exact absurd hf hfound
        | some text => simp [hhere, hf]
      · have hhere : g d = f d := hsame d (Nat.le_of_lt (hd c hc))
        simp only [List.findSome?_cons, hhere, ih hrest hc]

theorem searched_eq (r : Request) : r.searched = Collection.asked.map (Collection.get r) := rfl

/-- What a collection has is found whatever is added to the collections behind it. -/
theorem walk_key_addAll {c : Collection} {adds : List (Collection × String × String)}
    (hc : c ∈ Collection.asked) (hfound : (c.get r).get? key ≠ none)
    (hlater : ∀ a ∈ adds, c.rank < a.1.rank) (strict : Bool) :
    (r.addAll adds).toValue.walk strict [.index (.str key)] =
      r.toValue.walk strict [.index (.str key)] := by
  have hascending : Collection.asked.Pairwise fun a b => a.rank < b.rank := by decide
  have hsame : ∀ d : Collection, d.rank ≤ c.rank →
      (d.get (r.addAll adds)).get? key = (d.get r).get? key := by
    intro d hd
    have hlater' : ∀ a ∈ adds, d.rank < a.1.rank := by
      intro a ha
      exact Nat.lt_of_le_of_lt hd (hlater a ha)
    rw [get_addAll_of_rank_lt hlater']
  have hsearch :=
    findSome?_eq_of_rank_le hascending hc (f := fun d => (d.get r).get? key) hfound hsame
  simp only [walk_key, searched_eq, List.findSome?_map, Function.comp_def, hsearch]

end Request

/-! ## The two kinds of lookup -/

/-- What names find in the collection of pairs that were added. -/
structure NameValues.FindsByName (adds : List (String × String)) : Prop where
  nothing_iff : ∀ key, (ofAdds adds).get? key = none ↔
    ∀ pair ∈ adds, Text.sameIgnoringAsciiCase pair.1 key = false
  values : ∀ key, (ofAdds adds).get? key ≠ none →
    (ofAdds adds).get? key = some (",".intercalate (valuesUnder key adds))
  one_more : ∀ name value key, (ofAdds (adds ++ [(name, value)])).get? key =
    if Text.sameIgnoringAsciiCase name key = true then
      some (joined ((ofAdds adds).get? key) value)
    else (ofAdds adds).get? key
  never_raises : ∀ key, (ofAdds adds).toValue.walk true [.index (.str key)] =
    .ok (Value.ofOption ((ofAdds adds).get? key))

/-- Names find the values that were added under them, in whatever case. -/
theorem NameValues.findsByName (adds : List (String × String)) : FindsByName adds where
  nothing_iff := by
    intro key
    rw [get?_eq_none_iff, ofAdds_eq]
  values := by
    intro key hfound
    rw [get?_of_ne_none hfound, ofAdds_eq]
  one_more := by
    intro name value key
    have happend : ofAdds (adds ++ [(name, value)]) = (ofAdds adds).add name value := by
      simp [ofAdds]
    rw [happend, get?_add]
  never_raises := by
    intro key
    exact walk_key _ key true

/-- What positions find in the collection of pairs that were added. -/
structure NameValues.FindsByPosition (adds : List (String × String)) : Prop where
  count : (ofAdds adds).toValue.walk true [.member "Count"] = .ok (.int adds.length)
  inside : ∀ (position : Nat) (pair : String × String), adds[position]? = some pair →
    (ofAdds adds).toValue.walk true [.index (.int position)] = .ok (.str pair.2) ∧
      (ofAdds adds).toValue.walk true [.member "AllKeys", .index (.int position)] =
        .ok (.str pair.1)
  outside : ∀ i : Int, i < 0 ∨ adds.length ≤ i →
    (ofAdds adds).toValue.walk true [.index (.int i)] =
        .error (.missingIndexer "NameValueCollection" (.int i)) ∧
      (ofAdds adds).toValue.walk true [.member "AllKeys", .index (.int i)] =
        .error (.missingIndexer "Array" (.int i))

/-- Positions find the pairs in the order in which they were added. -/
theorem NameValues.findsByPosition (adds : List (String × String)) : FindsByPosition adds where
  count := walk_count adds true
  inside := by
    intro position pair hpair
    exact walk_position hpair true
  outside := by
    intro i hi
    exact walk_strict_outside hi

/-- What a textual index finds on a request. -/
structure Request.SearchesInOrder (r : Request) (key : String) : Prop where
  first : ∃ values,
    Collection.asked.mapM (fun c => r.toValue.walk true [.member c.name, .index (.str key)]) =
      .ok values ∧
    r.toValue.walk true [.index (.str key)] = .ok (firstNotNull values)
  later : ∀ (c : Collection) (adds : List (Collection × String × String)), c ∈ Collection.asked →
    (c.get r).get? key ≠ none → (∀ a ∈ adds, c.rank < a.1.rank) →
    (r.addAll adds).toValue.walk true [.index (.str key)] =
      r.toValue.walk true [.index (.str key)]

/-- A textual index asks the collections of a request in their order. -/
theorem Request.searchesInOrder (r : Request) (key : String) : r.SearchesInOrder key where
  first := by
    let found := fun m : NameValues => Value.ofOption (m.get? key)
    refine ⟨(Collection.asked.map (Collection.get r)).map found, ?_, ?_⟩
    · simp only [Collection.asked, List.mapM_cons, List.mapM_nil, walk_collection]
      rfl
    · rw [walk_key, ofOption_findSome?_eq_firstNotNull, searched_eq]
  later := by
    intro c adds hc hfound hlater
    exact walk_key_addAll hc hfound hlater true

/-- Collections are ordered multimaps: names find the values of all pairs of the name in the order
in which they were added, positions find single pairs, and a document adds its pairs by key, of
those with one key the last.  A textual index on a request finds the first value that is not null in
the four collections that it asks, and what is added behind that collection does not matter. -/
theorem names_find_values_in_order :
    (∀ adds, NameValues.FindsByName adds ∧ NameValues.FindsByPosition adds) ∧
    (∀ pairs, ∃ adds,
      NameValues.ofJson? (.object (NameValues.textMembers pairs)) = some (NameValues.ofAdds adds) ∧
      adds.Pairwise (fun a b => a.1 < b.1) ∧
      ∀ key value, (key, value) ∈ adds ↔ SortedMap.lookup key pairs.reverse = some value) ∧
    (∀ j m, NameValues.ofJson? j = some m → ∃ pairs, j = .object (NameValues.textMembers pairs)) ∧
    ∀ (r : Request) (key : String), r.SearchesInOrder key := by
  refine ⟨?_, ?_, ?_, Request.searchesInOrder⟩
  · intro adds
    exact ⟨NameValues.findsByName adds, NameValues.findsByPosition adds⟩
  · intro pairs
    let byKey := SortedMap.ofList pairs
    refine ⟨byKey.entries, NameValues.ofJson?_eq_some_iff.2 ⟨pairs, rfl, rfl⟩, byKey.ascending, ?_⟩
    intro key value
    rw [SortedMap.mem_entries_iff, SortedMap.get?_ofList_reverse]
  · intro j m hread
    rcases NameValues.ofJson?_eq_some_iff.1 hread with ⟨pairs, hj, _⟩
    exact ⟨pairs, hj⟩

/-- A request whose form names a user twice, and an empty cookie of the same name. -/
def signIn : Request :=
  { form := .ofAdds [("user", "alice"), ("USER", "bob")], cookies := .ofAdds [("User", "")] }

/-- A form that names a user twice hides the cookie and, all the more, the header of that name. -/
theorem names_find_values_in_order_signIn :
    signIn.form.get? "uSeR" = some "alice,bob" ∧
    signIn.toValue.walk true [.index (.str "uSeR")] = .ok (.str "alice,bob") ∧
    (signIn.addAll [(.headers, "user", "carol"), (.cookies, "user", "dave")]).toValue.walk true
      [.index (.str "uSeR")] = .ok (.str "alice,bob") := by
  rcases names_find_values_in_order with ⟨hcollections, _, _, hrequests⟩
  have hfound : signIn.form.get? "uSeR" ≠ none := by decide +kernel
  have hvalues : NameValues.valuesUnder "uSeR" [("user", "alice"), ("USER", "bob")] =
      ["alice", "bob"] := by
    decide +kernel
  have hform := (hcollections [("user", "alice"), ("USER", "bob")]).1.values "uSeR" hfound
  rw [hvalues] at hform
  have hsearch : signIn.searched.findSome? (fun m => m.get? "uSeR") = some "alice,bob" := by
    decide +kernel
  have hwalk : signIn.toValue.walk true [.index (.str "uSeR")] = .ok (.str "alice,bob") := by
    rw [Request.walk_key, hsearch]
    rfl
  refine ⟨hform, hwalk, Eq.trans ?_ hwalk⟩
  exact (hrequests signIn "uSeR").later .form _ (by decide) hfound (by decide)

end ErrorTriage
