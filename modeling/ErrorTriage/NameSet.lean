import ErrorTriage.SortedMap

/-!
# NameSet — a set of names, listed in ascending order

Two sets with the same names are equal, and a set can be listed without sorting it first.
-/

namespace ErrorTriage

structure NameSet where
  names : List String
  ascending : names.Pairwise (· < ·)
deriving DecidableEq

namespace NameSet

def ofList (names : List String) : NameSet :=
  let m := SortedMap.ofList (names.map fun n => (n, ()))
  ⟨m.keys, by
    rw [SortedMap.keys, List.pairwise_map]
    exact m.ascending⟩

def empty : NameSet := ⟨[], List.Pairwise.nil⟩

def isEmpty (s : NameSet) : Bool := s.names.isEmpty

def contains (s : NameSet) (name : String) : Bool := s.names.contains name

/-- A set has the names of the list that it was made of, and no others. -/
theorem contains_ofList {names : List String} {name : String} :
    (ofList names).contains name = true ↔ name ∈ names := by
  rw [contains, List.contains_iff_mem]
  show name ∈ (SortedMap.ofList (names.map fun n => (n, ()))).keys ↔ name ∈ names
  simp [SortedMap.mem_keys_ofList]

theorem isEmpty_eq_true_iff {s : NameSet} :
    s.isEmpty = true ↔ ∀ name, s.contains name = false := by
  simp [isEmpty, contains, List.eq_nil_iff_forall_not_mem]

end NameSet
end ErrorTriage
