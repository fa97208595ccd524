import ErrorTriage.Proofs.Latest
import ErrorTriage.Proofs.Query.Reading
import ErrorTriage.Proofs.Query.Table
import ErrorTriage.Query.LogQuery
import Mathlib.Data.List.Dedup

/-!
# Query.Extension — what registering makes of a table

A table is the history of what was registered: of the registrations of a name in one part the last
one counts, and the names of a part stand in the order of their last registrations.  The two parts
do not know of each other, so a name that is registered as a text hides the moment of that name,
whichever of the two came later.

A property of a new name takes nothing away: what was read as a predicate is read as the same
predicate and is satisfied by the same entries.  A new text is searched as well, so a search may
find more than before.
-/

namespace ErrorTriage
namespace Query

/-! ## One part -/

/-- Where each item counts by its last occurrence, one more item moves to the end. -/
theorem dedup_concat (names : List String) (name : String) :
    (names ++ [name]).dedup = names.dedup.filter (fun other => other ≠ name) ++ [name] := by
  induction names with
  | nil => simp
  | cons first rest ih =>
      by_cases hname : first = name
      · -- The first one is registered again, so it counts only at the end.
        have hagain : first ∈ rest ++ [name] := by simp [hname]
        rw [List.cons_append, List.dedup_cons_of_mem hagain, ih]
        by_cases hrest : first ∈ rest
        · rw [List.dedup_cons_of_mem hrest]
        · rw [List.dedup_cons_of_notMem hrest]
          simp [hname]
      · by_cases hrest : first ∈ rest
        · rw [List.cons_append, List.dedup_cons_of_mem (List.mem_append_left _ hrest), ih,
            List.dedup_cons_of_mem hrest]
        · have hnew : first ∉ rest ++ [name] := by simp [hrest, hname]
          rw [List.cons_append, List.dedup_cons_of_notMem hnew, ih,
            List.dedup_cons_of_notMem hrest]
          simp [hname]

namespace Getters

variable {α : Type} {t history : Getters α} {name other : String}

/-- What was put in last is what is found under its name. -/
theorem get?_put_self (t : Getters α) (name : String) (get : LogEntry → α) :
    (t.put name get).get? name = some get := by
  have hout : (t.filter fun row => row.1 ≠ name).find? (fun row => row.1 = name) = none := by simp
  rw [get?, put, List.find?_append, hout]
  simp

theorem get?_put_of_ne (h : other ≠ name) (t : Getters α) (get : LogEntry → α) :
    (t.put name get).get? other = t.get? other := by
  have hkept : (t.filter fun row => row.1 ≠ name).find? (fun row => row.1 = other)
      = t.find? fun row => row.1 = other := by
    rw [List.find?_filter]
    congr 1
    funext row
    by_cases hrow : row.1 = other <;> simp [hrow, h]
  rw [get?, put, List.find?_append, hkept]
  simp [get?, h.symm]

/-- A new name is added behind what is there. -/
theorem put_of_notMem (h : name ∉ t.names) (get : LogEntry → α) :
    t.put name get = t ++ [(name, get)] := by
  have hall : ∀ row ∈ t, decide (row.1 ≠ name) = true := by
    intro row hrow
    have hne : row.1 ≠ name := fun heq => h (heq ▸ List.mem_map_of_mem hrow)
    simpa using hne
  rw [put, List.filter_eq_self.2 hall]

/-- A part holds what was registered: of each name the last getter, and the names in the order of
their last registrations. -/
structure IsFilledBy (t history : Getters α) : Prop where
  get?_eq_some_iff (name : String) (get : LogEntry → α) :
    t.get? name = some get ↔ IsLastWith (fun row => row.1 = name) history (name, get)
  names_eq : t.names = history.names.dedup

theorem isFilledBy_nil : IsFilledBy ([] : Getters α) [] where
  get?_eq_some_iff name get := by simp [get?, IsLastWith]
  names_eq := rfl

/-- One more registration fills a part with one more. -/
theorem IsFilledBy.put (h : t.IsFilledBy history) (name : String) (get : LogEntry → α) :
    (t.put name get).IsFilledBy (history ++ [(name, get)]) where
  get?_eq_some_iff other found := by
    rw [isLastWith_concat_iff]
    by_cases hother : other = name
    · subst hother
      simp [get?_put_self, eq_comm]
    · rw [get?_put_of_ne hother, h.get?_eq_some_iff]
      simp [Ne.symm hother]
  names_eq := by
    have hnames : names (history ++ [(name, get)]) = history.names ++ [name] := by simp [names]
    rw [names_put, h.names_eq, hnames, dedup_concat]

end Getters

/-! ## A table -/

namespace Registration

def name : Registration → String
  | .text name _ => name
  | .moment name _ => name

/-- What was registered as a text, the last one at the end. -/
def texts (history : List Registration) : Getters String :=
  history.filterMap fun
    | .text name get => some (name, get)
    | .moment _ _ => none

def moments (history : List Registration) : Getters DateTime :=
  history.filterMap fun
    | .text _ _ => none
    | .moment name get => some (name, get)

/-- What is always registered. -/
def standard : List Registration :=
  [.text "application" (·.application), .text "host" (·.hostName), .text "type" (·.typeName),
    .text "source" (·.source), .text "message" (·.message), .text "detail" (·.detail),
    .text "user" (·.user), .text "status-code" (fun e => toString e.statusCode),
    .moment "date-time" (·.time)]

end Registration

namespace PropertyTable

variable {r : PropertyTable} {step : Registration} {history : List Registration}
  {name other : String}

theorem standard_eq_ofRegistrations : standard = ofRegistrations Registration.standard := rfl

/-- What a table is after a history of registrations. -/
structure IsFilledBy (r : PropertyTable) (history : List Registration) : Prop where
  texts : r.strings.IsFilledBy (Registration.texts history)
  moments : r.dateTimes.IsFilledBy (Registration.moments history)

/-- One more registration fills a table with one more. -/
theorem IsFilledBy.register (h : r.IsFilledBy history) (step : Registration) :
    (r.register step).IsFilledBy (history ++ [step]) := by
  cases step with
  | text name get =>
      refine ⟨?_, ?_⟩
      · simpa [Registration.texts, PropertyTable.register, withText] using h.texts.put name get
      · simpa [Registration.moments, PropertyTable.register, withText] using h.moments
  | moment name get =>
      refine ⟨?_, ?_⟩
      · simpa [Registration.texts, PropertyTable.register, withMoment] using h.texts
      · simpa [Registration.moments, PropertyTable.register, withMoment]
          using h.moments.put name get

/-- A table is filled by whatever was registered on top of what it had. -/
theorem IsFilledBy.foldl (h : r.IsFilledBy history) (steps : List Registration) :
    (steps.foldl PropertyTable.register r).IsFilledBy (history ++ steps) := by
  induction steps generalizing r history with
  | nil => simpa using h
  | cons step rest ih => simpa using ih (h.register step)

/-- A table is filled by what it was made of. -/
theorem isFilledBy_ofRegistrations (steps : List Registration) :
    (ofRegistrations steps).IsFilledBy steps := by
  have hempty : ({} : PropertyTable).IsFilledBy [] :=
    ⟨Getters.isFilledBy_nil, Getters.isFilledBy_nil⟩
  exact hempty.foldl steps

/-- The names of a table are those of its texts, then those of its moments. -/
theorem IsFilledBy.names_eq (h : r.IsFilledBy history) :
    r.names = (Registration.texts history).names.dedup
      ++ (Registration.moments history).names.dedup := by
  rw [← h.texts.names_eq, ← h.moments.names_eq]
  rfl

/-- A name is that of a text if a text has it, whether or not a moment has it too. -/
theorem typeOf?_eq_some_string_iff :
    r.typeOf? name = some .string ↔ name ∈ r.strings.names := by
  rw [← Getters.isSome_get?_iff, typeOf?]
  split_ifs <;> simp [*]

/-- A name stands for a moment only where it does not stand for a text. -/
theorem typeOf?_eq_some_dateTime_iff :
    r.typeOf? name = some .dateTime ↔ name ∉ r.strings.names ∧ name ∈ r.dateTimes.names := by
  rw [← Getters.isSome_get?_iff, ← Getters.isSome_get?_iff, typeOf?]
  split_ifs <;> simp [*]

/-! ## A new name -/

theorem get?_strings_register_of_ne (h : other ≠ step.name) :
    (r.register step).strings.get? other = r.strings.get? other := by
  cases step with
  | text name get => exact Getters.get?_put_of_ne h r.strings get
  | moment name get => rfl

theorem get?_dateTimes_register_of_ne (h : other ≠ step.name) :
    (r.register step).dateTimes.get? other = r.dateTimes.get? other := by
  cases step with
  | text name get => rfl
  | moment name get => exact Getters.get?_put_of_ne h r.dateTimes get

/-- A registration leaves the types of other names alone. -/
theorem typeOf?_register_of_ne (h : other ≠ step.name) :
    (r.register step).typeOf? other = r.typeOf? other := by
  simp only [typeOf?, get?_strings_register_of_ne h, get?_dateTimes_register_of_ne h]

/-- Whatever is found is found with one more property, too. -/
theorem search_register (hnew : step.name ∉ r.names) {entry : LogEntry} {text : String}
    (h : r.search entry text = true) : (r.register step).search entry text = true := by
  cases step with
  | moment name get => exact h
  | text name get =>
      have hnew' : name ∉ r.strings.names := fun hmem => hnew (List.mem_append_left _ hmem)
      simp only [search, Bool.or_eq_true] at h ⊢
      refine h.imp_right fun hany => ?_
      rw [register, withText, Getters.put_of_notMem hnew', List.any_append, hany, Bool.true_or]

end PropertyTable

namespace Predicate

variable {r : PropertyTable} {step : Registration} {text : String} {p : Predicate}

/-- A predicate that was read is about none of the names that the table does not know. -/
theorem property_ne_of_read (h : read r text = .ok p) (hnew : step.name ∉ r.names) :
    p.property ≠ step.name := by
  rcases read_eq_ok_iff.1 h with ⟨_, _, _, _, htype, _⟩
  intro hproperty
  exact hnew (hproperty ▸ PropertyTable.mem_names_of_typeOf? htype)

/-- What a table reads it still reads with a new name. -/
theorem read_register (h : read r text = .ok p) (hnew : step.name ∉ r.names) :
    read (r.register step) text = .ok p := by
  have hne : p.property ≠ step.name := property_ne_of_read h hnew
  rcases read_eq_ok_iff.1 h with ⟨operator, raw, hwords, hcondition, htype, hrest⟩
  refine read_eq_ok_iff.2 ⟨operator, raw, hwords, hcondition, ?_, hrest⟩
  rwa [PropertyTable.typeOf?_register_of_ne hne]

/-- A registration changes nothing about predicates on other names. -/
theorem isSatisfiedBy_register (hne : p.property ≠ step.name) (entry : LogEntry) :
    p.isSatisfiedBy (r.register step) entry = p.isSatisfiedBy r entry := by
  simp only [isSatisfiedBy, PropertyTable.get?_strings_register_of_ne hne,
    PropertyTable.get?_dateTimes_register_of_ne hne]

end Predicate

open PropertyTable in
/-- A table that was filled from the empty one or from the standard one holds the last registration
of each name in each part, and its names stand in the order of their last registrations: of equal
names `dedup` keeps the last.  A property of a new name changes nothing of what was read before it,
and takes nothing away from what a search finds. -/
theorem registering_extends_tables :
    (∀ r steps, r = ofRegistrations steps ∨
        (∃ added, steps = Registration.standard ++ added ∧ r = added.foldl register standard) →
      r.strings.names.Nodup ∧ r.dateTimes.names.Nodup ∧
      (∀ name get, r.strings.get? name = some get ↔
        IsLastWith (fun row => row.1 = name) (Registration.texts steps) (name, get)) ∧
      (∀ name get, r.dateTimes.get? name = some get ↔
        IsLastWith (fun row => row.1 = name) (Registration.moments steps) (name, get)) ∧
      r.names = (Registration.texts steps).names.dedup
        ++ (Registration.moments steps).names.dedup ∧
      (∀ name, r.typeOf? name = some .string ↔ name ∈ r.strings.names) ∧
      ∀ name, r.typeOf? name = some .dateTime ↔
        name ∉ r.strings.names ∧ name ∈ r.dateTimes.names) ∧
    ∀ (r : PropertyTable) (step : Registration), step.name ∉ r.names →
      (∀ text p, Predicate.read r text = .ok p →
        Predicate.read (r.register step) text = .ok p ∧
        ∀ entry, p.isSatisfiedBy (r.register step) entry = p.isSatisfiedBy r entry) ∧
      ∀ entry text, r.search entry text = true → (r.register step).search entry text = true := by
  refine ⟨?_, ?_⟩
  · intro r steps hfilled
    have h : r.IsUnambiguous ∧ r.IsFilledBy steps := by
      rcases hfilled with rfl | ⟨added, rfl, rfl⟩
      · exact ⟨isUnambiguous_ofRegistrations steps, isFilledBy_ofRegistrations steps⟩
      · -- The standard table is itself the result of registrations.
        rw [standard_eq_ofRegistrations]
        exact ⟨(isUnambiguous_ofRegistrations _).foldl added,
          (isFilledBy_ofRegistrations _).foldl added⟩
    rcases h with ⟨hunambiguous, hfilledBy⟩
    exact ⟨hunambiguous.texts, hunambiguous.moments, hfilledBy.texts.get?_eq_some_iff,
      hfilledBy.moments.get?_eq_some_iff, hfilledBy.names_eq, fun _ => typeOf?_eq_some_string_iff,
      fun _ => typeOf?_eq_some_dateTime_iff⟩
  · intro r step hnew
    refine ⟨?_, fun entry text => search_register hnew⟩
    intro text p hread
    exact ⟨Predicate.read_register hread hnew,
      Predicate.isSatisfiedBy_register (Predicate.property_ne_of_read hread hnew)⟩

open PropertyTable in
theorem registering_extends_tables_id :
    ∃ p, Predicate.read (standard.register (.text "id" (·.id))) "host = web-02" = .ok p ∧
      ∀ entry, p.isSatisfiedBy (standard.register (.text "id" (·.id))) entry
        = p.isSatisfiedBy standard entry := by
  have hnew : Registration.name (.text "id" (·.id)) ∉ standard.names := by decide +kernel
  have hread : Predicate.read standard "host = web-02"
      = .ok ⟨"host", .string, .equals, "web-02", none⟩ := by decide +kernel
  exact ⟨_, (registering_extends_tables.2 standard (.text "id" (·.id)) hnew).1 _ _ hread⟩

end Query
end ErrorTriage
