/-!
# Outcome — results that may be errors

What is known of a result once its value or its error was rewritten, the two sides of a result as
values that may be missing, and such values for the items of a list.
-/

namespace ErrorTriage

variable {ε ε' α β : Type} {r : Except ε α}

@[simp] theorem mapError_ok (wrap : ε → ε') (a : α) :
    (.ok a : Except ε α).mapError wrap = .ok a := rfl

@[simp] theorem mapError_error (wrap : ε → ε') (e : ε) :
    (.error e : Except ε α).mapError wrap = .error (wrap e) := rfl

theorem mapError_eq_ok_iff {wrap : ε → ε'} {a : α} : r.mapError wrap = .ok a ↔ r = .ok a := by
  cases r <;> simp

theorem mapError_eq_error_iff {wrap : ε → ε'} {e : ε'} :
    r.mapError wrap = .error e ↔ ∃ found, r = .error found ∧ e = wrap found := by
  cases r <;> simp [eq_comm]

/-- What a mapped result is comes from a result. -/
theorem map_eq_ok_iff {f : α → β} {b : β} : r.map f = .ok b ↔ ∃ a, r = .ok a ∧ f a = b := by
  cases r <;> simp [Except.map]

theorem map_eq_error_iff {f : α → β} {e : ε} : r.map f = .error e ↔ r = .error e := by
  cases r <;> simp [Except.map]

def failure? : Except ε α → Option ε
  | .ok _ => none
  | .error e => some e

@[simp] theorem failure?_ok (a : α) : failure? (.ok a : Except ε α) = none := rfl

@[simp] theorem failure?_error (e : ε) : failure? (.error e : Except ε α) = some e := rfl

/-- A result fails with an error exactly if it is that error. -/
theorem failure?_eq_some_iff {e : ε} : failure? r = some e ↔ r = .error e := by
  cases r <;> simp

@[simp] theorem failure?_map (f : α → β) : failure? (r.map f) = failure? r := by
  cases r <;> rfl

@[simp] theorem failure?_mapError (wrap : ε → ε') :
    failure? (r.mapError wrap) = (failure? r).map wrap := by
  cases r <;> rfl

def value? : Except ε α → Option α
  | .ok a => some a
  | .error _ => none

/-- A result has a value exactly if it is that value. -/
theorem value?_eq_some_iff {a : α} : value? r = some a ↔ r = .ok a := by
  cases r <;> simp [value?]

@[simp] theorem value?_ok (a : α) : value? (.ok a : Except ε α) = some a := rfl

@[simp] theorem value?_error (e : ε) : value? (.error e : Except ε α) = none := rfl

@[simp] theorem value?_map (f : α → β) : value? (r.map f) = (value? r).map f := by
  cases r <;> rfl

@[simp] theorem value?_mapError (wrap : ε → ε') : value? (r.mapError wrap) = value? r := by
  cases r <;> rfl

/-- Of a list the values are those of its items, unless one of them has none. -/
theorem value?_mapM (f : α → Except ε β) (items : List α) :
    value? (items.mapM f) = items.mapM fun item => value? (f item) := by
  induction items with
  | nil => rfl
  | cons first rest ih =>
      rw [List.mapM_cons, List.mapM_cons, ← ih]
      cases f first with
      | error e => rfl
      | ok b => cases rest.mapM f <;> rfl

/-- A list fails with the first failure among its items. -/
theorem failure?_mapM (f : α → Except ε β) (items : List α) :
    failure? (items.mapM f) = items.findSome? fun item => failure? (f item) := by
  induction items with
  | nil => rfl
  | cons item rest ih =>
      simp only [List.mapM_cons, List.findSome?_cons, ← ih]
      cases f item with
      | error e => rfl
      | ok b => cases rest.mapM f <;> rfl

/-- One item without a value leaves the list without. -/
theorem mapM_eq_none_of_mem {f : α → Option β} {items : List α} {item : α}
    (hmem : item ∈ items) (hnone : f item = none) : items.mapM f = none := by
  induction items with
  | nil => cases hmem
  | cons first rest ih =>
      rw [List.mapM_cons]
      rcases List.mem_cons.1 hmem with rfl | hrest
      · simp [hnone]
      · simp [ih hrest]

/-- Going through positions from a first one on, where each gives the next item of a list. -/
theorem mapM_range'_eq_ok {f : Nat → Except ε α} {items : List α} {first : Nat}
    (h : ∀ (position : Nat) item, items[position]? = some item → f (first + position) = .ok item) :
    (List.range' first items.length).mapM f = .ok items := by
  induction items generalizing first with
  | nil => rfl
  | cons item rest ih =>
      have hfirst : f first = .ok item := h 0 item rfl
      have hrest : ∀ (position : Nat) item, rest[position]? = some item →
          f (first + 1 + position) = .ok item := by
        intro position item hitem
        rw [Nat.add_assoc, Nat.add_comm 1]
        exact h (position + 1) item hitem
      rw [List.length_cons, List.range'_succ, List.mapM_cons, hfirst, ih hrest]
      rfl

/-! ## Searches -/

/-- Where two functions agree on the items, the same one is found first. -/
theorem findSome?_congr {f g : α → Option β} {items : List α}
    (h : ∀ item ∈ items, f item = g item) : items.findSome? f = items.findSome? g := by
  induction items with
  | nil => rfl
  | cons item rest ih =>
      simp only [List.findSome?_cons, List.findSome?_cons, h item List.mem_cons_self,
        ih fun other hother => h other (List.mem_cons_of_mem item hother)]

/-- A search through lists in a row is a search for the first list with something in it. -/
theorem findSome?_flatMap {γ : Type} (f : α → List β) (p : β → Option γ) (items : List α) :
    (items.flatMap f).findSome? p = items.findSome? fun item => (f item).findSome? p := by
  induction items with
  | nil => rfl
  | cons item rest ih =>
      simp only [List.flatMap_cons, List.findSome?_append, List.findSome?_cons, ih]
      cases (f item).findSome? p <;> rfl

end ErrorTriage
