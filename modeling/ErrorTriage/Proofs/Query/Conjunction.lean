import ErrorTriage.Proofs.Query.Table
import ErrorTriage.Proofs.Outcome
import ErrorTriage.Report.Listing
import Mathlib.Data.List.Perm.Basic

/-!
# Query.Conjunction — a query asks for the entries that all of its parts ask for

The predicates of a query are read one by one, and the first text that is none fails all of them.
A query that was read keeps the entries that satisfy every predicate and the search.  So queries
can be put together and taken apart, and the order of the predicates does not matter.  The search
is what `~` asks of the text properties: it looks into all of them at once.
-/

namespace ErrorTriage
namespace Query

variable {table : PropertyTable}

namespace LogQuery

/-! ## Reading the predicates -/

theorem readAll_eq_ok_iff {texts : List String} {predicates : List Predicate} :
    readAll table texts = .ok predicates ↔
      texts.map (Predicate.read table) = predicates.map .ok := by
  induction texts generalizing predicates with
  | nil => cases predicates <;> simp [readAll]
  | cons text rest ih =>
      cases hread : Predicate.read table text with
      | error e => cases predicates <;> simp [readAll, hread]
      | ok p =>
          cases hrest : readAll table rest with
          | error e =>
              cases predicates with
              | nil => simp [readAll, hread, hrest]
              | cons q more => simp [readAll, hread, hrest, ← ih]
          | ok found =>
              cases predicates with
              | nil => simp [readAll, hread, hrest]
              | cons q more => simp [readAll, hread, hrest, ← ih]

/-- A list of texts fails with its first text that cannot be read. -/
theorem readAll_eq_error_iff {texts : List String} {e : PredicateError} :
    readAll table texts = .error e ↔
      ∃ front text back, texts = front ++ text :: back ∧
        (∀ other ∈ front, ∃ p, Predicate.read table other = .ok p) ∧
        Predicate.read table text = .error e := by
  induction texts with
  | nil => simp [readAll]
  | cons first rest ih =>
      cases hread : Predicate.read table first with
      | error found =>
          constructor
          · intro h
            have hfound : found = e := by simpa [readAll, hread] using h
            exact ⟨[], first, rest, rfl, by simp, hfound ▸ hread⟩
          · rintro ⟨front, text, back, htexts, hfront, herror⟩
            -- The first text is none, so nothing stands before the one that is blamed.
            cases front with
            | nil =>
                rcases List.cons.inj htexts with ⟨rfl, _⟩
                simp [readAll, herror]
            | cons other more =>
                rcases List.cons.inj htexts with ⟨rfl, _⟩
                rcases hfront first List.mem_cons_self with ⟨p, hp⟩
                cases hread.symm.trans hp
      | ok p =>
          have hstep : readAll table (first :: rest) = .error e ↔
              readAll table rest = .error e := by
            cases hrest : readAll table rest <;> simp [readAll, hread, hrest]
          rw [hstep, ih]
          constructor
          · rintro ⟨front, text, back, rfl, hfront, herror⟩
            exact ⟨first :: front, text, back, rfl,
              List.forall_mem_cons.2 ⟨⟨p, hread⟩, hfront⟩, herror⟩
          · rintro ⟨front, text, back, htexts, hfront, herror⟩
            cases front with
            | nil =>
                rcases List.cons.inj htexts with ⟨rfl, rfl⟩
                cases hread.symm.trans herror
            | cons other more =>
                rcases List.cons.inj htexts with ⟨rfl, rfl⟩
                exact ⟨more, text, back, rfl, (List.forall_mem_cons.1 hfront).2, herror⟩

/-- A query that is read holds what its texts stand for, and no search. -/
theorem read_eq_ok_iff {texts : List String} {q : LogQuery} :
    read table texts = .ok q ↔
      q.properties = table ∧ q.search = none ∧
        texts.map (Predicate.read table) = q.predicates.map .ok := by
  rcases q with ⟨properties, predicates, search⟩
  simp only [read, map_eq_ok_iff, readAll_eq_ok_iff, mk.injEq]
  constructor
  · rintro ⟨found, hfound, rfl, rfl, rfl⟩
    exact ⟨rfl, rfl, hfound⟩
  · rintro ⟨rfl, rfl, hfound⟩
    exact ⟨predicates, hfound, rfl, rfl, rfl⟩

/-- A query fails exactly as its list of texts does. -/
theorem read_eq_error_iff {texts : List String} {e : PredicateError} :
    read table texts = .error e ↔ readAll table texts = .error e := by
  cases h : readAll table texts <;> simp [read, h, Except.map]

/-- Predicates are read if each of them is one, in whatever order they stand. -/
theorem exists_read_iff {texts : List String} :
    (∃ q, read table texts = .ok q) ↔
      ∀ text ∈ texts, ∃ p, Predicate.read table text = .ok p := by
  constructor
  · rintro ⟨q, hq⟩ text hmem
    have hread : Predicate.read table text ∈ q.predicates.map Except.ok :=
      (read_eq_ok_iff.1 hq).2.2 ▸ List.mem_map_of_mem hmem
    rcases List.mem_map.1 hread with ⟨p, _, hp⟩
    exact ⟨p, hp.symm⟩
  · intro h
    cases hread : read table texts with
    | ok q => exact ⟨q, rfl⟩
    | error e =>
        rcases readAll_eq_error_iff.1 (read_eq_error_iff.1 hread) with
          ⟨front, text, back, rfl, _, herror⟩
        rcases h text (by simp) with ⟨p, hp⟩
        cases herror.symm.trans hp

/-! ## The entries that are asked for -/

/-- A query is satisfied if its predicates are and if its search, where it has one, finds something.
-/
theorem isSatisfiedBy_eq_true_iff {q : LogQuery} {entry : LogEntry} :
    q.isSatisfiedBy entry = true ↔
      (∀ p ∈ q.predicates, p.isSatisfiedBy q.properties entry = true) ∧
        ∀ text ∈ q.search, q.properties.search entry text = true := by
  cases h : q.search <;> simp [isSatisfiedBy, h]

theorem apply_sublist (q : LogQuery) (entries : List LogEntry) :
    (q.apply entries).Sublist entries :=
  List.filter_sublist

/-- A query keeps every copy of an entry or none. -/
theorem count_apply (q : LogQuery) (entries : List LogEntry) (entry : LogEntry) :
    (q.apply entries).count entry =
      if q.isSatisfiedBy entry = true then entries.count entry else 0 := by
  split
  · next h => exact List.count_filter h
  · next h => exact List.count_eq_zero.2 fun hmem => h (List.of_mem_filter hmem)

/-- A query that is applied twice picks nothing else. -/
theorem apply_apply_self (q : LogQuery) (entries : List LogEntry) :
    q.apply (q.apply entries) = q.apply entries := by
  simp [apply]

/-- Predicates that stand in one query may stand in two that are applied one after another. -/
theorem apply_append (properties : PropertyTable) (front back : List Predicate)
    (search : Option String) (entries : List LogEntry) :
    apply ⟨properties, front ++ back, search⟩ entries =
      apply ⟨properties, back, search⟩ (apply ⟨properties, front, none⟩ entries) := by
  simp only [apply, List.filter_filter]
  refine List.filter_congr fun entry _ => ?_
  simp only [isSatisfiedBy, List.all_append, Option.all_none, Bool.and_true]
  ac_rfl

/-- With one more predicate, a query asks for those of its entries that satisfy the predicate. -/
theorem apply_withPredicate (q : LogQuery) (p : Predicate) (entries : List LogEntry) :
    (q.withPredicate p).apply entries =
      (q.apply entries).filter (p.isSatisfiedBy q.properties) := by
  simp only [apply, List.filter_filter]
  refine List.filter_congr fun entry _ => ?_
  simp only [isSatisfiedBy, withPredicate, List.all_append, List.all_cons, List.all_nil,
    Bool.and_true]
  ac_rfl

/-- The order of the predicates does not change what a query picks. -/
theorem apply_perm {properties : PropertyTable} {front back : List Predicate}
    (h : front.Perm back) (search : Option String) (entries : List LogEntry) :
    apply ⟨properties, front, search⟩ entries = apply ⟨properties, back, search⟩ entries := by
  refine List.filter_congr fun entry _ => ?_
  simp only [isSatisfiedBy, h.all_eq]

theorem isSatisfiedBy_of_isEmpty {q : LogQuery} (h : q.isEmpty = true) (entry : LogEntry) :
    q.isSatisfiedBy entry = true := by
  simp only [isEmpty, Bool.and_eq_true, List.isEmpty_iff, Option.all_eq_true] at h
  refine isSatisfiedBy_eq_true_iff.2 ⟨by simp [h.1], fun text htext => ?_⟩
  simp [PropertyTable.search, h.2 text htext]

/-! ## Putting queries together -/

/-- Joined texts are read as the joined predicates. -/
theorem read_append_eq_ok {fronts backs : List String} {first second : LogQuery}
    (hfirst : read table fronts = .ok first) (hsecond : read table backs = .ok second) :
    read table (fronts ++ backs) =
      .ok ⟨table, first.predicates ++ second.predicates, none⟩ := by
  refine read_eq_ok_iff.2 ⟨rfl, rfl, ?_⟩
  simp [(read_eq_ok_iff.1 hfirst).2.2, (read_eq_ok_iff.1 hsecond).2.2]

/-- A predicate that is read and put to a query is the same as one more text to read. -/
theorem read_concat_eq_ok {texts : List String} {text : String} {q : LogQuery} {p : Predicate}
    (hread : read table texts = .ok q) (hp : Predicate.read table text = .ok p) :
    read table (texts ++ [text]) = .ok (q.withPredicate p) := by
  rcases q with ⟨_, predicates, _⟩
  rcases read_eq_ok_iff.1 hread with ⟨rfl, rfl, hpredicates⟩
  refine read_eq_ok_iff.2 ⟨rfl, rfl, ?_⟩
  simp [withPredicate, hpredicates, hp]

/-- Joined texts can be read exactly if both parts can. -/
theorem exists_read_append_iff {fronts backs : List String} :
    (∃ q, read table (fronts ++ backs) = .ok q) ↔
      (∃ q, read table fronts = .ok q) ∧ ∃ q, read table backs = .ok q := by
  simp only [exists_read_iff, List.forall_mem_append]

/-- A joined query picks from what its first part picks, with the search in either. -/
theorem apply_withSearch_of_read_append {fronts backs : List String}
    {first second whole : LogQuery} (hfirst : read table fronts = .ok first)
    (hsecond : read table backs = .ok second) (hwhole : read table (fronts ++ backs) = .ok whole)
    (search : Option String) (entries : List LogEntry) :
    (whole.withSearch search).apply entries =
      (second.withSearch search).apply (first.apply entries) := by
  have hsame := hwhole.symm.trans (read_append_eq_ok hfirst hsecond)
  cases hsame
  rcases first with ⟨_, front, _⟩
  rcases second with ⟨_, back, _⟩
  rcases read_eq_ok_iff.1 hfirst with ⟨rfl, rfl, _⟩
  rcases read_eq_ok_iff.1 hsecond with ⟨rfl, rfl, _⟩
  exact apply_append _ front back search entries

/-- Texts in another order are read as the predicates in another order. -/
theorem perm_of_read {texts texts' : List String} (h : texts.Perm texts') {q q' : LogQuery}
    (hread : read table texts = .ok q) (hread' : read table texts' = .ok q') :
    q.predicates.Perm q'.predicates := by
  -- The texts are read to the predicates one by one, so both lists are permuted alike.
  have hmapped := h.map (Predicate.read table)
  rw [(read_eq_ok_iff.1 hread).2.2, (read_eq_ok_iff.1 hread').2.2] at hmapped
  exact (List.map_perm_map_iff fun _ _ => Except.ok.inj).1 hmapped

/-- Texts in another order make a query that picks the same. -/
theorem apply_withSearch_of_perm {texts texts' : List String} (h : texts.Perm texts')
    {q q' : LogQuery} (hread : read table texts = .ok q) (hread' : read table texts' = .ok q')
    (search : Option String) (entries : List LogEntry) :
    (q'.withSearch search).apply entries = (q.withSearch search).apply entries := by
  have hperm := perm_of_read h hread hread'
  rcases q with ⟨_, front, _⟩
  rcases q' with ⟨_, back, _⟩
  rcases read_eq_ok_iff.1 hread with ⟨rfl, _⟩
  rcases read_eq_ok_iff.1 hread' with ⟨rfl, _⟩
  exact apply_perm hperm.symm search entries

end LogQuery

/-! ## The search -/

/-- A text is searched for in every row of the table, and `~` looks up one row by its name.  The two
agree because no name hides a row of another. -/
theorem PropertyTable.search_eq_true_iff (h : table.IsUnambiguous) {text : String}
    (hne : text ≠ "") (entry : LogEntry) :
    table.search entry text = true ↔
      ∃ property ∈ table.strings.names,
        Predicate.isSatisfiedBy table ⟨property, .string, .contains, text, none⟩ entry = true := by
  have hempty : text.isEmpty = false := by simpa [String.isEmpty_iff] using hne
  simp only [search, hempty, Bool.false_or, List.any_eq_true]
  constructor
  · rintro ⟨⟨name, get⟩, hmem, hfound⟩
    refine ⟨name, List.mem_map.2 ⟨(name, get), hmem, rfl⟩, ?_⟩
    simpa [Predicate.isSatisfiedBy, Getters.get?_of_mem h.texts hmem, compareText] using hfound
  · rintro ⟨name, hmem, hfound⟩
    rcases Option.isSome_iff_exists.1 (Getters.isSome_get?_iff.2 hmem) with ⟨get, hget⟩
    refine ⟨(name, get), Getters.mem_of_get? hget, ?_⟩
    simpa [Predicate.isSatisfiedBy, hget, compareText] using hfound

end Query

/-! ## The query of a profile -/

open Query

/-- The query of the settings fails exactly as all its texts together do, the given ones last. -/
theorem Settings.logQuery_eq_error_iff {s : Settings} {predicates : List String}
    {search : Option String} {e : PredicateError} :
    s.logQuery predicates search = .error e ↔
      LogQuery.read .standard (s.query.predicates ++ predicates) = .error e := by
  cases h : LogQuery.read .standard (s.query.predicates ++ predicates) <;>
    simp [logQuery, h, Except.map]

/-- The search that is given counts, also if it is empty, and otherwise that of the profile. -/
theorem Settings.logQuery_eq_ok_iff {s : Settings} {predicates : List String}
    {search : Option String} {q : LogQuery} :
    s.logQuery predicates search = .ok q ↔
      q.properties = .standard ∧
        (s.query.predicates ++ predicates).map (Predicate.read .standard) =
          q.predicates.map .ok ∧
        q.search = search.or s.query.search := by
  rw [logQuery, map_eq_ok_iff]
  constructor
  · rintro ⟨base, hbase, rfl⟩
    rcases LogQuery.read_eq_ok_iff.1 hbase with ⟨hproperties, _, hpredicates⟩
    exact ⟨hproperties, hpredicates, rfl⟩
  · rcases q with ⟨properties, found, given⟩
    rintro ⟨rfl, hpredicates, rfl⟩
    exact ⟨⟨.standard, found, none⟩, LogQuery.read_eq_ok_iff.2 ⟨rfl, rfl, hpredicates⟩, rfl⟩

/-! ## The parts of a query -/

structure Query.AreConjunctions (table : PropertyTable) : Prop where
  /-- The first text that is no predicate is the fault. -/
  fails_iff : ∀ texts e, LogQuery.read table texts = .error e ↔
    ∃ front text back, texts = front ++ text :: back ∧
      (∀ other ∈ front, ∃ p, Predicate.read table other = .ok p) ∧
      Predicate.read table text = .error e
  reads_iff : ∀ texts q, LogQuery.read table texts = .ok q ↔
    q.properties = table ∧ q.search = none ∧
      texts.map (Predicate.read table) = q.predicates.map .ok
  /-- Entries stay in order and are found as often as they stand in the log. -/
  keeps : ∀ (q : LogQuery) entries, (q.apply entries).Sublist entries ∧
    ∀ entry, (q.apply entries).count entry =
      if (∀ p ∈ q.predicates, p.isSatisfiedBy q.properties entry = true) ∧
        ∀ text ∈ q.search, q.properties.search entry text = true
      then entries.count entry else 0
  keeps_again : ∀ (q : LogQuery) entries, q.apply (q.apply entries) = q.apply entries
  splits_iff : ∀ fronts backs, (∃ whole, LogQuery.read table (fronts ++ backs) = .ok whole) ↔
    (∃ first, LogQuery.read table fronts = .ok first) ∧
      ∃ second, LogQuery.read table backs = .ok second
  /-- The predicates of one query may stand in two, the second of which has the search. -/
  splits : ∀ fronts backs first second whole, LogQuery.read table fronts = .ok first →
    LogQuery.read table backs = .ok second →
    LogQuery.read table (fronts ++ backs) = .ok whole →
    ∀ search entries, (whole.withSearch search).apply entries =
      (second.withSearch search).apply (first.apply entries)
  permutes : ∀ texts texts' : List String, texts.Perm texts' →
    ∀ q, LogQuery.read table texts = .ok q → ∃ q', LogQuery.read table texts' = .ok q' ∧
      ∀ search entries,
        (q'.withSearch search).apply entries = (q.withSearch search).apply entries
  searches_iff : ∀ text entry, text ≠ "" → (table.search entry text = true ↔
    ∃ property ∈ table.strings.names,
      Predicate.isSatisfiedBy table ⟨property, .string, .contains, text, none⟩ entry = true)
  keeps_all : ∀ (q : LogQuery) entry, q.isEmpty = true → q.isSatisfiedBy entry = true

/-- Queries over any table that was filled by registering are conjunctions of their predicates and
the search, and the query of a profile is such a query over the standard table: the predicates of
the profile stand first, and a search that is given replaces the profile's. -/
theorem queries_are_conjunctions (registrations : List Registration) :
    AreConjunctions (.ofRegistrations registrations) ∧
    ∀ (s : Settings) predicates search,
      (∀ e, s.logQuery predicates search = .error e ↔
        LogQuery.read .standard (s.query.predicates ++ predicates) = .error e) ∧
      ∀ q, s.logQuery predicates search = .ok q ↔
        q.properties = .standard ∧
          (s.query.predicates ++ predicates).map (Predicate.read .standard) =
            q.predicates.map .ok ∧
          q.search = search.or s.query.search := by
  constructor
  · refine ⟨?_, fun _ _ => LogQuery.read_eq_ok_iff, ?_, fun q => q.apply_apply_self,
      fun _ _ => LogQuery.exists_read_append_iff, ?_, ?_, ?_, ?_⟩
    · intro texts e
      rw [LogQuery.read_eq_error_iff, LogQuery.readAll_eq_error_iff]
    · intro q entries
      refine ⟨q.apply_sublist entries, fun entry => ?_⟩
      simp only [LogQuery.count_apply, LogQuery.isSatisfiedBy_eq_true_iff]
    · intro fronts backs first second whole hfirst hsecond hwhole
      exact LogQuery.apply_withSearch_of_read_append hfirst hsecond hwhole
    · intro texts texts' hperm q hread
      -- Another order does not make a text a predicate, or take one away.
      have hall := LogQuery.exists_read_iff.1 ⟨q, hread⟩
      rcases LogQuery.exists_read_iff.2 fun text hmem => hall text (hperm.mem_iff.2 hmem) with
        ⟨q', hread'⟩
      exact ⟨q', hread', LogQuery.apply_withSearch_of_perm hperm hread hread'⟩
    · intro text entry hne
      have htable := PropertyTable.isUnambiguous_ofRegistrations registrations
      exact PropertyTable.search_eq_true_iff htable hne entry
    · intro q entry hempty
      exact LogQuery.isSatisfiedBy_of_isEmpty hempty entry
  · intro s predicates search
    exact ⟨fun _ => Settings.logQuery_eq_error_iff, fun _ => Settings.logQuery_eq_ok_iff⟩

/-- A table with a name registered twice, where the later property is the one that is searched. -/
theorem queries_are_conjunctions_replaced :
    ∃ table : PropertyTable, table.strings.names = ["host", "text"] ∧
      ∃ property ∈ table.strings.names, Predicate.isSatisfiedBy table
        ⟨property, .string, .contains, "Time", none⟩ { detail := "a timeout" } = true := by
  have hsearch : (PropertyTable.ofRegistrations [.text "text" (·.message),
      .text "host" (·.hostName), .text "text" (·.detail)]).search { detail := "a timeout" } "Time" =
      true := by decide +kernel
  have hfound := (queries_are_conjunctions _).1.searches_iff "Time" _ (by decide) |>.1 hsearch
  exact ⟨_, by decide +kernel, hfound⟩

end ErrorTriage
