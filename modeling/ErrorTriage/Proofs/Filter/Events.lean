import ErrorTriage.Proofs.Filter.History
import ErrorTriage.Proofs.Rule.Meaning
import ErrorTriage.Report.Check

/-!
# Filter.Events — the events of a file are checked one by one

A profile has one filter for all events of a file.  Its rule is built of standard rules alone, and
what is built of these can be evaluated against every captured error.  So each event has an outcome
of its own: its data and the decision that the filter makes of it, whatever stands before or after
it in the file.  The events are read before any of them is checked, all of them or none.
-/

namespace ErrorTriage

/-! ## One event -/

/-- The outcome of an event: its data, no error, and the decision to log it if an assertion does not
hold of it, or else the one that is due to the names of notifiers. -/
structure IsOutcomeOf (a : Assertion) (names : List String) (event : Event) (o : EventOutcome) :
    Prop where
  typeName_eq : o.typeName = event.error.typeName
  message_eq : o.message = event.error.message
  statusCode_eq : o.statusCode = event.error.statusCode
  error_eq : o.error = none
  decided :
    (a.test (evaluationRoot event.error event.ambient) = .ok false ∧ o.decision = .log) ∨
      (a.test (evaluationRoot event.error event.ambient) = .ok true ∧ IsDueTo names o.decision)

namespace EventOutcome

/-- What a test answers about an event settles its outcome. -/
theorem isOutcomeOf_ofEvent {a : Assertion} {event : Event} {b : Bool}
    (htest : a.test (evaluationRoot event.error event.ambient) = .ok b) (names : List String) :
    IsOutcomeOf a names event (ofEvent (.of a names) event) := by
  have hhook := applyIfAny_eq (some (.of a names)) (Filtering.fresh event.error event.ambient)
  have htest' : (EventFilter.of a names).assertion.test
      (Filtering.fresh event.error event.ambient).root = .ok b := htest
  simp only [Option.bind_some, EventFilter.decisionFor?, htest'] at hhook
  -- The state that every event starts with is the fresh one.
  rw [Filtering.fresh] at hhook
  have houtcome : ofEvent (.of a names) event =
      ⟨event.error.typeName, event.error.message, event.error.statusCode,
        if b then (EventFilter.of a names).decision else .log, none⟩ := by
    simp only [ofEvent, hhook]
    cases b <;> rfl
  rw [houtcome]
  refine ⟨rfl, rfl, rfl, rfl, ?_⟩
  cases b with
  | false => exact .inl ⟨htest, rfl⟩
  | true => exact .inr ⟨htest, EventFilter.isDueTo_decision_of a names⟩

end EventOutcome

/-! ## The events of a file -/

/-- The event that a part of a document stands for. -/
def Event.ofDocument? (j : Json) : Option Event := Event.ofJson? j.settled

/-- A list is read item by item, and not at all if one of them is no event. -/
theorem eventsOf?_array (items : List Json) :
    eventsOf? (Json.array items).settled = items.mapM Event.ofDocument? := by
  simp only [Json.settled, eventsOf?, Json.settledItems_eq_map, List.mapM_map]
  rfl

/-- An object is one event. -/
theorem eventsOf?_object (members : List (String × Json)) :
    eventsOf? (Json.object members).settled =
      (Event.ofDocument? (.object members)).map fun e => [e] := by
  simp only [Json.settled, eventsOf?, Event.ofDocument?]

/-- A list of one event is read like the event alone. -/
theorem eventsOf?_singleton (members : List (String × Json)) :
    eventsOf? (Json.array [.object members]).settled =
      eventsOf? (Json.object members).settled := by
  rw [eventsOf?_array, eventsOf?_object]
  cases h : Event.ofDocument? (.object members) <;> simp [h]

variable {settings : Settings} {filter : FilterSettings} {a : Assertion} {text : String}
  {document : Json}

/-- A file is checked by reading its events and taking the outcome of each. -/
theorem checkFile_of_read (hfilter : settings.errorFilter = some filter)
    (hbuild : ({} : Dialect).build filter.test = .ok a) (hread : Json.read? text = some document)
    (path : String) :
    checkFile settings path (some text) =
      match eventsOf? document.settled with
      | some events => .ok (events.map (EventOutcome.ofEvent (.of a filter.notifiers)))
      | none => .error (.invalidEvent path) := by
  have hof : EventFilter.ofSettings filter {} = .ok (.of a filter.notifiers) := by
    simp [EventFilter.ofSettings, hbuild, Except.map]
  simp only [checkFile, hfilter, hof, readFile, hread]
  cases eventsOf? document.settled <;> rfl

/-- A file with a list is checked exactly if all its items are events, and has their outcomes in
order. -/
theorem checkFile_array_eq_ok_iff {items : List Json} {outcomes : List EventOutcome}
    (hfilter : settings.errorFilter = some filter)
    (hbuild : ({} : Dialect).build filter.test = .ok a)
    (hread : Json.read? text = some (.array items)) (path : String) :
    checkFile settings path (some text) = .ok outcomes ↔
      ∃ events, items.mapM Event.ofDocument? = some events ∧
        events.map (EventOutcome.ofEvent (.of a filter.notifiers)) = outcomes := by
  rw [checkFile_of_read hfilter hbuild hread, eventsOf?_array]
  cases items.mapM Event.ofDocument? <;> simp

/-- Every event has an outcome of its own, which hangs on the profile and on the event alone: the
events of an array have theirs in order, or none has one if a part of the array is no event.  So
arrays are checked in parts, and an event by itself like an array of one. -/
theorem checkFile_decides_each_event (hfilter : settings.errorFilter = some filter)
    (hbuild : ({} : Dialect).build filter.test = .ok a) :
    ∃ outcome : Event → EventOutcome,
      (∀ event, IsOutcomeOf a filter.notifiers event (outcome event)) ∧
      (∀ path text items, Json.read? text = some (.array items) →
        (∀ events, items.mapM Event.ofDocument? = some events →
          checkFile settings path (some text) = .ok (events.map outcome)) ∧
        ((∃ item ∈ items, Event.ofDocument? item = none) →
          checkFile settings path (some text) = .error (.invalidEvent path))) ∧
      (∀ path text members, Json.read? text = some (.object members) →
        (∀ event, Event.ofDocument? (.object members) = some event →
          checkFile settings path (some text) = .ok [outcome event]) ∧
        (Event.ofDocument? (.object members) = none →
          checkFile settings path (some text) = .error (.invalidEvent path))) ∧
      (∀ path path' path'' front back whole items items' outcomes outcomes',
        Json.read? front = some (.array items) → Json.read? back = some (.array items') →
        Json.read? whole = some (.array (items ++ items')) →
        checkFile settings path (some front) = .ok outcomes →
        checkFile settings path' (some back) = .ok outcomes' →
        checkFile settings path'' (some whole) = .ok (outcomes ++ outcomes')) ∧
      ∀ path path' single whole members outcomes,
        Json.read? single = some (.object members) →
        Json.read? whole = some (.array [.object members]) →
        (checkFile settings path (some single) = .ok outcomes ↔
          checkFile settings path' (some whole) = .ok outcomes) := by
  refine ⟨EventOutcome.ofEvent (.of a filter.notifiers), ?_, ?_, ?_, ?_, ?_⟩
  -- Standard rules make no expression that can fail, and the root of an event is never null.
  · intro event
    have hroot : (evaluationRoot event.error event.ambient).isNull = false := rfl
    rcases Standard.exists_test_of_no_modules hbuild hroot with ⟨b, htest⟩
    exact EventOutcome.isOutcomeOf_ofEvent htest filter.notifiers
  · intro path text items hread
    constructor
    · intro events hevents
      exact (checkFile_array_eq_ok_iff hfilter hbuild hread path).2 ⟨events, hevents, rfl⟩
    · rintro ⟨item, hmem, hnone⟩
      rw [checkFile_of_read hfilter hbuild hread, eventsOf?_array, mapM_eq_none_of_mem hmem hnone]
  · intro path text members hread
    have hcheck := checkFile_of_read hfilter hbuild hread path
    rw [eventsOf?_object] at hcheck
    constructor
    · intro event hevent
      rw [hcheck, hevent]
      rfl
    · intro hnone
      rw [hcheck, hnone]
      rfl
  · intro path path' path'' front back whole items items' outcomes outcomes' hfront hback hwhole
      houtcomes houtcomes'
    rcases (checkFile_array_eq_ok_iff hfilter hbuild hfront path).1 houtcomes with
      ⟨events, hevents, rfl⟩
    rcases (checkFile_array_eq_ok_iff hfilter hbuild hback path').1 houtcomes' with
      ⟨events', hevents', rfl⟩
    refine (checkFile_array_eq_ok_iff hfilter hbuild hwhole path'').2
      ⟨events ++ events', ?_, List.map_append⟩
    simp [List.mapM_append, hevents, hevents']
  · intro path path' single whole members outcomes hsingle hwhole
    rw [checkFile_of_read hfilter hbuild hsingle, checkFile_of_read hfilter hbuild hwhole,
      eventsOf?_singleton]
    cases eventsOf? (Json.object members).settled <;> simp

/-- A profile that sends missing pages to one notifier. -/
def missingPages : FilterSettings :=
  ⟨["mail ", " "], ⟨"equal", none,
    .ofList [("binding", "HttpStatusCode"), ("type", "Int32"), ("value", "404")], []⟩⟩

def twoEvents : String :=
  "[\x7b\"exception\": \x7b\"type\": \"HttpException\", \"httpStatusCode\": 404\x7d\x7d, " ++
  "\x7b\"exception\": \x7b\"type\": \"Exception\"\x7d\x7d]"

theorem checkFile_twoEvents :
    ∃ outcomes, checkFile { errorFilter := some missingPages } "log.json" (some twoEvents) =
        .ok outcomes ∧ outcomes.length = 2 ∧ ∀ o ∈ outcomes, o.error = none := by
  have hfilter : ({ errorFilter := some missingPages } : Settings).errorFilter =
      some missingPages := rfl
  have hbuilt : (failure? (({} : Dialect).build missingPages.test)).isNone = true := by
    decide +kernel
  have hlength : ((Json.read? twoEvents).bind (Json.list? Event.ofDocument?)).map List.length =
      some 2 := by
    decide +kernel
  rcases Option.map_eq_some_iff.1 hlength with ⟨events, hevents, hlength⟩
  rcases Option.bind_eq_some_iff.1 hevents with ⟨document, hread, hlist⟩
  cases hbuild : ({} : Dialect).build missingPages.test with
  | error e => simp [hbuild] at hbuilt
  | ok a =>
      rcases checkFile_decides_each_event hfilter hbuild with ⟨outcome, houtcome, harray, _⟩
      cases document with
      | array items =>
          refine ⟨events.map outcome, (harray _ _ items hread).1 events hlist, ?_, ?_⟩
          · rw [List.length_map, hlength]
          · intro o ho
            rcases List.mem_map.1 ho with ⟨event, _, rfl⟩
            exact (houtcome event).error_eq
      | _ => cases hlist

end ErrorTriage
