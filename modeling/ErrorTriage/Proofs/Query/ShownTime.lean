import ErrorTriage.Proofs.Calendar.Stored
import ErrorTriage.Proofs.Query.Written
import ErrorTriage.Report.Listing

/-!
# Query.ShownTime — asking for a time that a listing shows

A listing shows the time of an entry to the second.  Asked for with `=`, the shown day finds the
entries of that day, and a shown time finds the entries that are shown with it, unless a leap
second is involved: matching drops the leap second with the fraction, so nothing is found at second
sixty, and what is shown with second sixty is found at the second before.

What is said of leap seconds is said of the times that a log holds, where they end a minute.
-/

namespace ErrorTriage

open Text (IsWord)

namespace LogEntry

/-- The time of an entry as it stands in its row of a listing. -/
def shownTime (e : LogEntry) : String := (Report.entryRow e).headD ""

/-- The part of the shown time before the blank. -/
def shownDay (e : LogEntry) : String :=
  String.ofList (e.shownTime.toList.takeWhile fun c => !Text.isBlank c)

theorem shownTime_eq (e : LogEntry) : e.shownTime = e.time.textWith ' ' := rfl

theorem shownDay_eq (e : LogEntry) :
    e.shownDay = String.ofList (DateTime.dateText e.time.date) := by
  have htake : (DateTime.dateText e.time.date ++ ' ' :: DateTime.clockText e.time.clock).takeWhile
      (fun c => !Text.isBlank c) = DateTime.dateText e.time.date :=
    Path.takeWhile_append_of_endsBefore
      (by simpa using (DateTime.isWord_dateText e.time.date).unbroken) (.cons (by decide) _)
  rw [shownDay, shownTime_eq, DateTime.textWith, String.toList_ofList, htake]

end LogEntry

namespace Query

/-! ## Reading what is shown -/

/-- A text of a moment is read as the moment that it writes, to the second. -/
theorem DateLiteral.ofText?_textWith (t : DateTime) :
    ofText? (t.textWith ' ') = some ⟨t.asWritten, .second⟩ := by
  simp only [ofText?, Layout.dateTime?_of_textWith, Option.some_or]

theorem DateLiteral.ofText?_dateText (d : Date) :
    ofText? (String.ofList (DateTime.dateText d)) = some ⟨DateTime.ofDate d, .day⟩ := by
  have hblank := Layout.read?_dateText_eq_none (.inl rfl) d
  have hT := Layout.read?_dateText_eq_none (.inr rfl) d
  simp only [ofText?, String.toList_ofList, Layout.dayBlankTime, Layout.dayTTime, hblank, hT,
    Option.bind_none, Option.or_none, Layout.date?_of_dateText, Option.map_some]

theorem unquote_eq_self {c : Char} (rest : List Char) (hdouble : c ≠ '"') (hsingle : c ≠ '\'') :
    unquote (c :: rest) = c :: rest := by
  simp [unquote, between?, hdouble, hsingle]

theorem unquote_dateText (d : Date) : unquote (DateTime.dateText d) = DateTime.dateText d := by
  have hdigit : ∀ c : Char, c.isDigit = true → c ≠ '"' ∧ c ≠ '\'' := by
    rintro c hc
    constructor <;> rintro rfl <;> exact absurd hc (by decide)
  have hsign (c : Char) (hc : c = '-' ∨ c = '+') : c ≠ '"' ∧ c ≠ '\'' := by
    rcases hc with rfl | rfl <;> decide
  -- A day begins with a digit or with the sign of its year.
  simp only [DateTime.dateText, DateTime.yearText]
  split
  · have hdigits := DateTime.areDigits_padded 4 d.year.toNat
    cases hyear : DateTime.padded 4 d.year.toNat with
    | nil => exact absurd hyear hdigits.1
    | cons c rest =>
        have hc := hdigit c (hdigits.2 c (hyear ▸ List.mem_cons_self))
        exact unquote_eq_self _ hc.1 hc.2
  · have hc := hsign (if d.year < 0 then '-' else '+') (by split <;> simp)
    exact unquote_eq_self _ hc.1 hc.2

/-! ## What is asked for -/

namespace Predicate

/-- The predicate that asks for a moment by a literal that is written in some way. -/
def atMoment (value : String) (literal : DateLiteral) : Predicate :=
  ⟨"date-time", .dateTime, .equals, value, some literal⟩

theorem isSatisfiedBy_atMoment (value : String) (literal : DateLiteral) (f : LogEntry) :
    (atMoment value literal).isSatisfiedBy .standard f =
      compareDate .equals f.time literal := rfl

/-- A predicate at a moment can be written if its value is a text of that moment. -/
theorem isWritable_atMoment {value : String} {literal : DateLiteral} (hne : value ≠ "")
    (h : DateLiteral.ofText? value = some literal) :
    IsWritable .standard (atMoment value literal) :=
  ⟨show IsWord "date-time".toList by decide +kernel, rfl, hne, .moment rfl h rfl⟩

/-- The shown time of an entry is read as its moment as written. -/
theorem read_shownTime (e : LogEntry) :
    read .standard ("date-time = \"" ++ e.shownTime ++ "\"") =
      .ok (atMoment e.shownTime ⟨e.time.asWritten, .second⟩) := by
  have hne : e.shownTime ≠ "" := by
    simp [e.shownTime_eq, DateTime.textWith]
  have hliteral := DateLiteral.ofText?_textWith e.time
  rw [← e.shownTime_eq] at hliteral
  have htext : "date-time = \"" ++ e.shownTime ++ "\"" =
      (atMoment e.shownTime ⟨e.time.asWritten, .second⟩).render := by
    simp [render, atMoment, Condition.symbol]
  rw [htext, (isWritable_atMoment hne hliteral).read_render]

/-- The shown day of an entry is read as that day. -/
theorem read_shownDay (e : LogEntry) :
    read .standard ("date-time = " ++ e.shownDay) =
      .ok (atMoment e.shownDay ⟨DateTime.ofDate e.time.date, .day⟩) := by
  have hword := DateTime.isWord_dateText e.time.date
  have htext : "date-time = " ++ e.shownDay = written "date-time" .equals e.shownDay := by
    simp [written, Condition.symbol]
  have hvalue : Text.trimList e.shownDay.toList = DateTime.dateText e.time.date := by
    rw [e.shownDay_eq, String.toList_ofList]
    exact Text.trimList_eq_self (by simpa using hword.endsBefore []) hword.trimBack_eq
  have hliteral := DateLiteral.ofText?_dateText e.time.date
  rw [← e.shownDay_eq] at hliteral
  rw [htext]
  refine read_eq_ok_iff.2 ⟨_, _, words?_written (by decide +kernel) _ _, rfl, rfl, ?_, ?_,
    .moment rfl hliteral rfl⟩
  · rw [hvalue, unquote_dateText]
    exact e.shownDay_eq
  · simp [atMoment, e.shownDay_eq, hword.nonempty]

/-- An entry is found by a shown time if its whole second is the written one. -/
theorem satisfies_shownTime_iff {e f : LogEntry} :
    (atMoment e.shownTime ⟨e.time.asWritten, .second⟩).isSatisfiedBy .standard f = true ↔
      f.time.wholeSecond = e.time.asWritten := by
  simp [isSatisfiedBy_atMoment, compareDate]

/-- An entry is found by a shown day if it shows the same one. -/
theorem satisfies_shownDay_iff {e f : LogEntry} :
    (atMoment e.shownDay ⟨DateTime.ofDate e.time.date, .day⟩).isSatisfiedBy .standard f = true ↔
      f.shownDay = e.shownDay := by
  rw [isSatisfiedBy_atMoment, e.shownDay_eq, f.shownDay_eq, String.ofList_inj,
    DateTime.dateText_inj]
  exact decide_eq_true_iff

/-- A shown day and a shown time read as predicates.  The day finds the entries that are shown with
it.  The time finds the entries of the second that it names.  For times of a log that is the second
of the entry, unless it is a leap second, which finds none; these are the entries that are shown
with it, but for those that lie in a leap second. -/
theorem shown_times_find_their_entries (e : LogEntry) :
    (∃ p, read .standard ("date-time = " ++ e.shownDay) = .ok p ∧
      ∀ f : LogEntry, p.isSatisfiedBy .standard f = true ↔ f.shownDay = e.shownDay) ∧
    ∃ p, read .standard ("date-time = \"" ++ e.shownTime ++ "\"") = .ok p ∧
      (∀ f : LogEntry,
        p.isSatisfiedBy .standard f = true ↔ f.time.wholeSecond = e.time.asWritten) ∧
      (e.time.IsStorable → ∀ f : LogEntry, f.time.IsStorable →
        (p.isSatisfiedBy .standard f = true ↔
          e.time.isInLeapSecond = false ∧ f.time.wholeSecond = e.time.wholeSecond) ∧
        ((p.isSatisfiedBy .standard f = true ↔ f.shownTime = e.shownTime) ↔
          (f.time.wholeSecond = e.time.wholeSecond → f.time.isInLeapSecond = false))) := by
  refine ⟨⟨_, read_shownDay e, fun f => satisfies_shownDay_iff⟩, _, read_shownTime e,
    fun f => satisfies_shownTime_iff, ?_⟩
  intro he f hf
  have hewritten : e.time.asWritten = e.time.withoutFraction :=
    DateTime.asWritten_eq_withoutFraction_iff.2 (DateTime.isStorable_iff.1 he)
  have hfwritten : f.time.asWritten = f.time.withoutFraction :=
    DateTime.asWritten_eq_withoutFraction_iff.2 (DateTime.isStorable_iff.1 hf)
  have hfound : f.time.wholeSecond = e.time.asWritten ↔
      e.time.isInLeapSecond = false ∧ f.time.wholeSecond = e.time.wholeSecond := by
    rw [hewritten, DateTime.wholeSecond_eq_withoutFraction_iff]
  have hshown : f.shownTime = e.shownTime ↔ f.time.isInLeapSecond = e.time.isInLeapSecond ∧
      f.time.wholeSecond = e.time.wholeSecond := by
    rw [f.shownTime_eq, e.shownTime_eq, DateTime.textWith_blank_inj, hfwritten, hewritten,
      DateTime.withoutFraction_eq_iff]
  rw [satisfies_shownTime_iff, hfound, hshown]
  refine ⟨Iff.rfl, ?_⟩
  -- What is found and what is shown alike differ by leap seconds only within one whole second.
  by_cases hsecond : f.time.wholeSecond = e.time.wholeSecond
  · cases e.time.isInLeapSecond <;> cases f.time.isInLeapSecond <;> simp [hsecond]
  · simp [hsecond]

/-- Two entries of one second, with different fractions of it: either finds the other. -/
theorem shown_times_find_their_entries_of_one_second :
    let e : LogEntry := { time := ⟨⟨2024, 3, 1, by decide⟩, ⟨10, 20, 30, 250000000, by decide⟩⟩ }
    let f : LogEntry := { time := ⟨⟨2024, 3, 1, by decide⟩, ⟨10, 20, 30, 750000000, by decide⟩⟩ }
    e.time.IsStorable ∧ f.time.IsStorable ∧
      ∃ p, read .standard ("date-time = \"" ++ e.shownTime ++ "\"") = .ok p ∧
        p.isSatisfiedBy .standard f = true ∧ f.shownTime = e.shownTime := by
  intro e f
  have he : e.time.IsStorable := DateTime.isStorable_iff.2 (by decide)
  have hf : f.time.IsStorable := DateTime.isStorable_iff.2 (by decide)
  rcases shown_times_find_their_entries e with ⟨_, p, hp, _, hstored⟩
  rcases hstored he f hf with ⟨hfound, hexact⟩
  have hfinds : p.isSatisfiedBy .standard f = true := hfound.2 (by decide)
  exact ⟨he, hf, p, hp, hfinds, (hexact.2 fun _ => by decide).1 hfinds⟩

/-- An entry of the last leap second of the year 2016. -/
def leapEntry : LogEntry :=
  { time := ⟨⟨2016, 12, 31, by decide⟩, ⟨23, 59, 59, 1000000000, by decide⟩⟩ }

/-- What a leap second is shown as does not find it; the second before does. -/
theorem leap_second_is_not_found :
    leapEntry.time.IsStorable ∧ leapEntry.shownTime = "2016-12-31 23:59:60" ∧
      (∃ p, read .standard ("date-time = \"" ++ leapEntry.shownTime ++ "\"") = .ok p ∧
        p.isSatisfiedBy .standard leapEntry = false) ∧
      ∃ p, read .standard "date-time = \"2016-12-31 23:59:59\"" = .ok p ∧
        p.isSatisfiedBy .standard leapEntry = true := by
  have hleap : value? ((read .standard ("date-time = \"" ++ leapEntry.shownTime ++ "\"")).map
      fun p => p.isSatisfiedBy .standard leapEntry) = some false := by decide +kernel
  have hbefore : value? ((read .standard "date-time = \"2016-12-31 23:59:59\"").map
      fun p => p.isSatisfiedBy .standard leapEntry) = some true := by decide +kernel
  have hstorable : leapEntry.time.IsStorable := DateTime.isStorable_iff.2 (by decide)
  exact ⟨hstorable, by decide +kernel, map_eq_ok_iff.1 (value?_eq_some_iff.1 hleap),
    map_eq_ok_iff.1 (value?_eq_some_iff.1 hbefore)⟩

end Predicate
end Query
end ErrorTriage
