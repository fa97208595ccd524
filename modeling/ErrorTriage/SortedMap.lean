/-!
# SortedMap — a map from strings, listed in ascending order of its keys

The order is by code points.  The entries are a plain list with a proof that its keys ascend, so
two maps with the same pairs are equal and a map can be listed without sorting it first.
-/

namespace ErrorTriage

/-- A map from strings whose entries stand in ascending order of their keys. -/
structure SortedMap (α : Type) where
  entries : List (String × α)
  ascending : entries.Pairwise fun a b => a.1 < b.1

namespace SortedMap

variable {α : Type}

def empty : SortedMap α := ⟨[], List.Pairwise.nil⟩

instance : EmptyCollection (SortedMap α) := ⟨empty⟩

instance : Inhabited (SortedMap α) := ⟨empty⟩

def keys (m : SortedMap α) : List String := m.entries.map (·.1)

def lookup (key : String) : List (String × α) → Option α
  | [] => none
  | (k, v) :: rest => if k = key then some v else lookup key rest

def get? (m : SortedMap α) (key : String) : Option α :=
  lookup key m.entries

/-- Puts an entry in its place; an entry with the same key is replaced. -/
def place (key : String) (value : α) : List (String × α) → List (String × α)
  | [] => [(key, value)]
  | (k, v) :: rest =>
    if key < k then (key, value) :: (k, v) :: rest
    else if key = k then (key, value) :: rest
    else (k, v) :: place key value rest

/-- Placing an entry brings in no other one. -/
theorem mem_place {key : String} {value : α} {entries : List (String × α)} {e : String × α}
    (h : e ∈ place key value entries) : e = (key, value) ∨ e ∈ entries := by
  induction entries with
  | nil => simpa [place] using h
  | cons head rest ih =>
    simp only [place] at h
    split at h
    · simpa using h
    · split at h
      · rcases List.mem_cons.1 h with h | h
        · exact .inl h
        · exact .inr (List.mem_cons_of_mem _ h)
      · rcases List.mem_cons.1 h with h | h
        · exact .inr (h ▸ List.mem_cons_self)
        · rcases ih h with h | h
          · exact .inl h
          · exact .inr (List.mem_cons_of_mem _ h)

/-- Entries are still in ascending order once one more was put in its place. -/
theorem pairwise_place {key : String} {value : α} {entries : List (String × α)}
    (h : entries.Pairwise fun a b => a.1 < b.1) :
    (place key value entries).Pairwise fun a b => a.1 < b.1 := by
  induction entries with
  | nil => simp [place]
  | cons head rest ih =>
    obtain ⟨k, v⟩ := head
    obtain ⟨hhead, hrest⟩ := List.pairwise_cons.1 h
    simp only [place]
    split
    · next hlt =>
      refine List.pairwise_cons.2 ⟨?_, h⟩
      intro e he
      rcases List.mem_cons.1 he with he | he
      · exact he ▸ hlt
      · exact String.lt_trans hlt (hhead e he)
    · next hnlt =>
      split
      · next heq => exact List.pairwise_cons.2 ⟨fun e he => heq ▸ hhead e he, hrest⟩
      · next hne =>
        refine List.pairwise_cons.2 ⟨?_, ih hrest⟩
        intro e he
        rcases mem_place he with he | he
        · rcases String.le_total key k with hle | hle
          · exact absurd (String.le_antisymm hle (String.not_lt.1 hnlt)) hne
          · refine he ▸ ?_
            show k < key
            exact Decidable.byContradiction fun hn =>
              hne (String.le_antisymm (String.not_lt.1 hn) hle)
        · exact hhead e he

def insert (m : SortedMap α) (key : String) (value : α) : SortedMap α :=
  ⟨place key value m.entries, pairwise_place m.ascending⟩

/-- The map of a list of pairs; of two pairs with one key the later counts. -/
def ofList (pairs : List (String × α)) : SortedMap α :=
  pairs.foldl (fun m pair => m.insert pair.1 pair.2) empty

def erase (m : SortedMap α) (key : String) : SortedMap α :=
  ⟨m.entries.filter fun e => e.1 ≠ key, m.ascending.filter _⟩

def size (m : SortedMap α) : Nat := m.entries.length

/-- Two maps with the same entries are equal. -/
theorem ext_entries {a b : SortedMap α} (h : a.entries = b.entries) : a = b := by
  cases a
  cases b
  cases h
  rfl

instance [DecidableEq α] : DecidableEq (SortedMap α) := fun a b =>
  if h : a.entries = b.entries then isTrue (ext_entries h)
  else isFalse fun hab => h (hab ▸ rfl)

/-! ## Looking up after a change -/

@[simp] theorem get?_empty (key : String) : (empty : SortedMap α).get? key = none := rfl

/-- A key that no entry has is looked up in vain. -/
theorem lookup_eq_none {key : String} {entries : List (String × α)}
    (h : key ∉ entries.map (·.1)) : lookup key entries = none := by
  induction entries with
  | nil => rfl
  | cons head rest ih =>
    obtain ⟨hhead, hrest⟩ := not_or.1 (mt List.mem_cons.2 h)
    simpa [lookup, Ne.symm hhead] using ih hrest

/-- An entry in its place is found under its key, and all other keys find what they found. -/
theorem lookup_place (key other : String) (value : α) (entries : List (String × α)) :
    lookup other (place key value entries) =
      if key = other then some value else lookup other entries := by
  induction entries with
  | nil => simp [place, lookup]
  | cons head rest ih =>
    obtain ⟨k, v⟩ := head
    simp only [place]
    split
    · simp [lookup]
    · split
      · next heq =>
        subst heq
        by_cases hother : key = other
        · simp [lookup, hother]
        · simp [lookup, hother]
      · next hne =>
        by_cases hk : k = other
        · subst hk
          simp [lookup, hne]
        · simp [lookup, hk, ih]

/-- Without the entries of a key nothing is found under it, and all else as before. -/
theorem lookup_filter_ne (key other : String) (entries : List (String × α)) :
    lookup other (entries.filter fun e => e.1 ≠ key) =
      if key = other then none else lookup other entries := by
  induction entries with
  | nil => simp [lookup]
  | cons head rest ih =>
    obtain ⟨k, v⟩ := head
    by_cases hkey : k = key
    · subst hkey
      by_cases hother : k = other
      · simpa [hother] using ih
      · simpa [lookup, hother] using ih
    · by_cases hother : k = other
      · subst hother
        simp [lookup, hkey, Ne.symm hkey]
      · simpa [lookup, hkey, hother] using ih

/-- What was put under a key is found there; the other keys are left alone. -/
theorem get?_insert (m : SortedMap α) (key other : String) (value : α) :
    (m.insert key value).get? other = if key = other then some value else m.get? other :=
  lookup_place key other value m.entries

/-- A key that was erased has no value; the other keys are left alone. -/
theorem get?_erase (m : SortedMap α) (key other : String) :
    (m.erase key).get? other = if key = other then none else m.get? other :=
  lookup_filter_ne key other m.entries

/-! ## Which keys there are -/

/-- A key is found exactly if some entry has it. -/
theorem isSome_lookup_iff {key : String} {entries : List (String × α)} :
    (lookup key entries).isSome = true ↔ key ∈ entries.map (·.1) := by
  induction entries with
  | nil => simp [lookup]
  | cons head rest ih =>
    obtain ⟨k, v⟩ := head
    by_cases h : k = key
    · simp [lookup, h]
    · simp only [lookup, if_neg h, ih, List.map_cons, List.mem_cons, Ne.symm h, false_or]

/-- The keys of a map are those that have a value. -/
theorem isSome_get?_iff {m : SortedMap α} {key : String} :
    (m.get? key).isSome = true ↔ key ∈ m.keys := isSome_lookup_iff

/-- An entry adds its key and no other one. -/
theorem mem_keys_insert {m : SortedMap α} {key other : String} {value : α} :
    other ∈ (m.insert key value).keys ↔ key = other ∨ other ∈ m.keys := by
  rw [← isSome_get?_iff, ← isSome_get?_iff, get?_insert]
  by_cases h : key = other <;> simp [h]

/-- Of two lists of entries the second is asked for the keys that the first does not have. -/
theorem lookup_append (key : String) (xs ys : List (String × α)) :
    lookup key (xs ++ ys) = (lookup key xs).or (lookup key ys) := by
  induction xs with
  | nil => simp [lookup]
  | cons head rest ih =>
    obtain ⟨k, v⟩ := head
    by_cases h : k = key
    · simp [lookup, h]
    · simp [lookup, h, ih]

/-- Values that are mapped are found under the same keys. -/
theorem lookup_map {β : Type} (f : α → β) (key : String) (pairs : List (String × α)) :
    lookup key (pairs.map fun pair => (pair.1, f pair.2)) = (lookup key pairs).map f := by
  induction pairs with
  | nil => rfl
  | cons pair rest ih => by_cases h : pair.1 = key <;> simp [lookup, h, ih]

/-- Of several pairs with one key the last counts, and before what was there. -/
theorem get?_foldl_insert (pairs : List (String × α)) (m : SortedMap α) (key : String) :
    (pairs.foldl (fun m pair => m.insert pair.1 pair.2) m).get? key =
      (lookup key pairs.reverse).or (m.get? key) := by
  induction pairs generalizing m with
  | nil => simp [lookup]
  | cons pair rest ih =>
    rw [List.foldl_cons, ih, get?_insert, List.reverse_cons, lookup_append, Option.or_assoc]
    by_cases hkey : pair.1 = key <;> simp [lookup, hkey]

/-- Of a list of pairs, the last one of a key counts. -/
theorem get?_ofList_reverse (pairs : List (String × α)) (key : String) :
    (ofList pairs).get? key = lookup key pairs.reverse := by
  rw [ofList, get?_foldl_insert, get?_empty, Option.or_none]

/-- A map has the keys of the pairs that it was made of. -/
theorem mem_keys_ofList {pairs : List (String × α)} {key : String} :
    key ∈ (ofList pairs).keys ↔ key ∈ pairs.map (·.1) := by
  rw [← isSome_get?_iff, get?_ofList_reverse, isSome_lookup_iff, List.map_reverse,
    List.mem_reverse]

/-- With every key at most once, the order of the entries does not matter. -/
theorem lookup_reverse {pairs : List (String × α)} (h : (pairs.map (·.1)).Nodup) (key : String) :
    lookup key pairs.reverse = lookup key pairs := by
  induction pairs with
  | nil => rfl
  | cons pair rest ih =>
    obtain ⟨hpair, hrest⟩ := List.nodup_cons.1 h
    rw [List.reverse_cons, lookup_append, ih hrest]
    by_cases hkey : pair.1 = key
    · -- Nothing that is added later has the key.
      have hnone : lookup key rest = none := lookup_eq_none (hkey ▸ hpair)
      simp [lookup, hkey, hnone]
    · simp [lookup, hkey]

/-- A list without repeated keys and its map have the same values. -/
theorem get?_ofList {pairs : List (String × α)} (h : (pairs.map (·.1)).Nodup) (key : String) :
    (ofList pairs).get? key = lookup key pairs := by
  rw [get?_ofList_reverse, lookup_reverse h]

/-- The entries of a map are what it finds. -/
theorem mem_entries_iff {m : SortedMap α} {key : String} {value : α} :
    (key, value) ∈ m.entries ↔ m.get? key = some value := by
  have hascending := m.ascending
  rw [get?]
  generalize m.entries = entries at hascending
  induction entries with
  | nil => simp [lookup]
  | cons head rest ih =>
    obtain ⟨k, v⟩ := head
    obtain ⟨hhead, hrest⟩ := List.pairwise_cons.1 hascending
    by_cases h : k = key
    · subst h
      -- No later entry has the key, because the keys ascend.
      have hnot : (k, value) ∉ rest := fun hmem => String.lt_irrefl k (hhead _ hmem)
      simp [lookup, hnot, eq_comm]
    · simp [lookup, h, Ne.symm h, ih hrest]

/-! ## Lists that are in order already -/

/-- A key behind all others goes to the end. -/
theorem place_eq_append {key : String} {value : α} {entries : List (String × α)}
    (h : ∀ e ∈ entries, e.1 < key) : place key value entries = entries ++ [(key, value)] := by
  induction entries with
  | nil => rfl
  | cons head rest ih =>
    obtain ⟨k, v⟩ := head
    obtain ⟨hk, hrest⟩ := List.forall_mem_cons.1 h
    have hnlt : ¬key < k := fun hlt => String.lt_irrefl k (String.lt_trans hk hlt)
    have hne : key ≠ k := by
      rintro rfl
      exact String.lt_irrefl key hk
    simp [place, hnlt, hne, ih hrest]

/-- Entries that are inserted in ascending order, behind all others, are put at the end. -/
theorem entries_foldl_insert {pairs : List (String × α)} {m : SortedMap α}
    (h : (m.entries ++ pairs).Pairwise fun a b => a.1 < b.1) :
    (pairs.foldl (fun m pair => m.insert pair.1 pair.2) m).entries = m.entries ++ pairs := by
  induction pairs generalizing m with
  | nil => simp
  | cons pair rest ih =>
    have hbefore : ∀ e ∈ m.entries, e.1 < pair.1 := fun e he =>
      (List.pairwise_append.1 h).2.2 e he pair List.mem_cons_self
    have hentries : (m.insert pair.1 pair.2).entries = m.entries ++ [pair] :=
      place_eq_append hbefore
    have hsplit : m.entries ++ pair :: rest = (m.insert pair.1 pair.2).entries ++ rest := by
      rw [hentries, List.append_assoc, List.singleton_append]
    rw [List.foldl_cons, ih (hsplit ▸ h), hsplit]

/-- Pairs in ascending order of their keys are the entries of their map. -/
theorem entries_ofList {pairs : List (String × α)}
    (h : pairs.Pairwise fun a b => a.1 < b.1) : (ofList pairs).entries = pairs :=
  entries_foldl_insert (by simpa [empty] using h)

/-- A map is made of its own entries again. -/
@[simp] theorem ofList_entries (m : SortedMap α) : ofList m.entries = m :=
  ext_entries (entries_ofList m.ascending)

end SortedMap

end ErrorTriage
