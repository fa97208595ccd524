import ErrorTriage.SortedMap

/-!
# Latest — the last of several items of one kind

Where items are added one after another and a later one replaces those of its kind, the last one
counts.  It is found from behind, and the items after it are of other kinds.
-/

namespace ErrorTriage

variable {α : Type} {p : α → Prop} {items : List α} {a b : α}

/-- The last item of a list with a property. -/
def IsLastWith (p : α → Prop) (items : List α) (a : α) : Prop :=
  ∃ before after, items = before ++ a :: after ∧ p a ∧ ∀ b ∈ after, ¬p b

namespace IsLastWith

theorem mem (h : IsLastWith p items a) : a ∈ items := by
  rcases h with ⟨before, after, rfl, _⟩
  simp

theorem property (h : IsLastWith p items a) : p a := by
  rcases h with ⟨_, _, _, ha, _⟩
  exact ha

/-- The last item stays the last one when another is put in front. -/
theorem cons (h : IsLastWith p items a) (b : α) : IsLastWith p (b :: items) a := by
  rcases h with ⟨before, after, rfl, ha, hafter⟩
  exact ⟨b :: before, after, rfl, ha, hafter⟩

/-- An item in front is the last one if none behind it has the property. -/
theorem head (ha : p a) (hitems : ∀ b ∈ items, ¬p b) : IsLastWith p (a :: items) a :=
  ⟨[], items, rfl, ha, hitems⟩

end IsLastWith

/-- A search from the back finds the last item with the property. -/
theorem find?_reverse_eq_some_iff [DecidablePred p] :
    items.reverse.find? (fun a => decide (p a)) = some a ↔ IsLastWith p items a := by
  simp only [List.find?_eq_some_iff_append, decide_eq_true_eq, Bool.not_eq_true',
    decide_eq_false_iff_not]
  constructor
  · rintro ⟨ha, behind, front, hitems, hbehind⟩
    refine ⟨front.reverse, behind.reverse, ?_, ha, ?_⟩
    · simpa using congrArg List.reverse hitems
    · simpa using hbehind
  · rintro ⟨before, after, rfl, ha, hafter⟩
    refine ⟨ha, after.reverse, before.reverse, by simp, ?_⟩
    simpa using hafter

/-- There is at most one last item. -/
theorem IsLastWith.unique (ha : IsLastWith p items a) (hb : IsLastWith p items b) : a = b := by
  classical
  have hfound := (find?_reverse_eq_some_iff.2 ha).symm.trans (find?_reverse_eq_some_iff.2 hb)
  exact Option.some.inj hfound

/-- One more item is the last one if it has the property, and is passed over if it has not. -/
theorem isLastWith_concat_iff :
    IsLastWith p (items ++ [b]) a ↔ p b ∧ a = b ∨ ¬p b ∧ IsLastWith p items a := by
  classical
  rw [← find?_reverse_eq_some_iff, ← find?_reverse_eq_some_iff, List.reverse_concat,
    List.find?_cons]
  by_cases h : p b <;> simp [h, eq_comm]

/-! ## Pairs with keys -/

namespace SortedMap

variable {key : String} {value : α} {pairs : List (String × α)}

theorem lookup_eq_find? (key : String) (pairs : List (String × α)) :
    lookup key pairs = (pairs.find? fun pair => pair.1 = key).map (·.2) := by
  induction pairs with
  | nil => rfl
  | cons pair rest ih => by_cases h : pair.1 = key <;> simp [lookup, h, ih]

/-- In reverse order the last pair of a key is found. -/
theorem lookup_reverse_eq_some_iff :
    lookup key pairs.reverse = some value ↔
      IsLastWith (fun pair => pair.1 = key) pairs (key, value) := by
  rw [lookup_eq_find?, ← find?_reverse_eq_some_iff, Option.map_eq_some_iff]
  constructor
  · rintro ⟨⟨k, v⟩, hfound, rfl⟩
    have hkey : k = key := by simpa using List.find?_some hfound
    rwa [← hkey] at hfound ⊢
  · intro hfound
    exact ⟨_, hfound, rfl⟩

/-- In reverse order, too, only keys without a pair are not found. -/
theorem lookup_reverse_eq_none_iff :
    lookup key pairs.reverse = none ↔ key ∉ pairs.map (·.1) := by
  rw [← Option.not_isSome_iff_eq_none, isSome_lookup_iff, List.map_reverse, List.mem_reverse]

end SortedMap
end ErrorTriage
