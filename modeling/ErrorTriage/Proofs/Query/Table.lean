import ErrorTriage.Query.Properties
import Mathlib.Data.List.Nodup

/-!
# Query.Table — what is known of a table that was filled by registering

A table is filled from the empty one, a property at a time.  Registering a name takes an earlier
property of that name and part out, so within a part no name stands twice, and what is looked up
by its name is what stands in the table.  A name may stand in both parts.
-/

namespace ErrorTriage
namespace Query

namespace Getters

variable {α : Type} {t : Getters α} {name : String} {get : LogEntry → α}

def names (t : Getters α) : List String := t.map (·.1)

/-- The names of a part are those that have a getter. -/
theorem isSome_get?_iff : (t.get? name).isSome = true ↔ name ∈ t.names := by
  simp [get?, names]

/-- A name that is put in moves to the end. -/
theorem names_put (t : Getters α) (name : String) (get : LogEntry → α) :
    (t.put name get).names = t.names.filter (fun other => other ≠ name) ++ [name] := by
  simp only [put, names, List.map_append, List.filter_map]
  rfl

/-- No name is there twice after putting one in. -/
theorem nodup_names_put (h : t.names.Nodup) (name : String) (get : LogEntry → α) :
    (t.put name get).names.Nodup := by
  rw [names_put, List.nodup_append]
  refine ⟨h.filter _, List.nodup_singleton name, ?_⟩
  -- What was kept has another name than what is added.
  intro kept hkept added hadded
  have hne : kept ≠ name := by simpa using (List.mem_filter.1 hkept).2
  rwa [List.mem_singleton.1 hadded]

theorem mem_of_get? (h : t.get? name = some get) : (name, get) ∈ t := by
  rcases Option.map_eq_some_iff.1 h with ⟨row, hfind, rfl⟩
  have hname : row.1 = name := by simpa using List.find?_some hfind
  rw [← hname]
  exact List.mem_of_find?_eq_some hfind

/-- What stands in a part without repeated names is found by its name. -/
theorem get?_of_mem (h : t.names.Nodup) (hmem : (name, get) ∈ t) : t.get? name = some get := by
  have hname : name ∈ t.names := List.mem_map.2 ⟨(name, get), hmem, rfl⟩
  rcases Option.isSome_iff_exists.1 (isSome_get?_iff.2 hname) with ⟨found, hfound⟩
  -- Both rows have the name, so they are one.
  have hsame := List.inj_on_of_nodup_map h (mem_of_get? hfound) hmem rfl
  rw [hfound, (Prod.mk.inj hsame).2]

end Getters

inductive Registration where
  | text (name : String) (get : LogEntry → String)
  | moment (name : String) (get : LogEntry → DateTime)

namespace PropertyTable

def register (r : PropertyTable) : Registration → PropertyTable
  | .text name get => r.withText name get
  | .moment name get => r.withMoment name get

/-- The table that registrations make of the empty one. -/
def ofRegistrations (steps : List Registration) : PropertyTable := steps.foldl register {}

/-- No name stands twice in one part. -/
structure IsUnambiguous (r : PropertyTable) : Prop where
  texts : r.strings.names.Nodup
  moments : r.dateTimes.names.Nodup

/-- No name becomes ambiguous by a registration. -/
theorem IsUnambiguous.register {r : PropertyTable} (h : r.IsUnambiguous) (step : Registration) :
    (r.register step).IsUnambiguous := by
  cases step with
  | text name get => exact ⟨Getters.nodup_names_put h.texts name get, h.moments⟩
  | moment name get => exact ⟨h.texts, Getters.nodup_names_put h.moments name get⟩

theorem IsUnambiguous.foldl {r : PropertyTable} (h : r.IsUnambiguous)
    (steps : List Registration) : (steps.foldl PropertyTable.register r).IsUnambiguous := by
  induction steps generalizing r with
  | nil => exact h
  | cons step rest ih => exact ih (h.register step)

theorem isUnambiguous_empty : ({} : PropertyTable).IsUnambiguous :=
  ⟨List.nodup_nil, List.nodup_nil⟩

/-- No name is ambiguous, whatever was registered. -/
theorem isUnambiguous_ofRegistrations (steps : List Registration) :
    (ofRegistrations steps).IsUnambiguous :=
  isUnambiguous_empty.foldl steps

/-- Whatever is registered has a type. -/
theorem exists_typeOf?_of_mem {r : PropertyTable} {name : String} (h : name ∈ r.names) :
    ∃ type, r.typeOf? name = some type := by
  rw [typeOf?]
  split
  · exact ⟨_, rfl⟩
  · next hstring =>
      -- What is no text of the table is one of its moments.
      have hmoment : name ∈ r.dateTimes.names :=
        (List.mem_append.1 h).resolve_left fun htext => hstring (Getters.isSome_get?_iff.2 htext)
      exact ⟨_, if_pos (Getters.isSome_get?_iff.2 hmoment)⟩

/-- Exactly the names of the table have a type. -/
theorem typeOf?_eq_none_iff {r : PropertyTable} {name : String} :
    r.typeOf? name = none ↔ name ∉ r.names := by
  constructor
  · intro hnone hmem
    rcases exists_typeOf?_of_mem hmem with ⟨type, htype⟩
    rw [hnone] at htype
    cases htype
  · intro hmem
    have htext : name ∉ r.strings.names := fun h => hmem (List.mem_append_left _ h)
    have hmoment : name ∉ r.dateTimes.names := fun h => hmem (List.mem_append_right _ h)
    rw [typeOf?, if_neg (Getters.isSome_get?_iff.not.2 htext),
      if_neg (Getters.isSome_get?_iff.not.2 hmoment)]

/-- A name with a type is one of the table. -/
theorem mem_names_of_typeOf? {r : PropertyTable} {name : String} {type : PropertyType}
    (h : r.typeOf? name = some type) : name ∈ r.names := by
  by_contra hunknown
  rw [typeOf?_eq_none_iff.2 hunknown] at h
  cases h

end PropertyTable
end Query
end ErrorTriage
