import ErrorTriage.Calendar.Layout
import ErrorTriage.Proofs.Text.Words

/-!
# Calendar.Written — what is written of a moment is read again

A day and a time are written with numbers of fixed widths, a year outside of four digits with its
sign.  A reader of a layout takes numbers as far as they go, so each number has to end before
something that is no digit.

Written to the second, a moment comes back without its fraction, and a leap second at the end of a
minute comes back as a leap second.  One inside a minute is written as the second that follows it,
and that is the second that comes back.  With their fractions, the moments that stored records hold
come back as they are, and they are all but those in a leap second inside a minute.
-/

namespace ErrorTriage

open Integer (AreDigits decimal)
open ErrorTriage.Path (EndsBefore)
open Text (IsWord)

/-! ## Moments without fractions -/

/-- The time without its fraction of a second; a leap second stays one. -/
def Clock.withoutFraction (t : Clock) : Clock :=
  ⟨t.hour, t.minute, t.second, if 1000000000 ≤ t.nanosecond then 1000000000 else 0, by
    have hvalid := t.valid
    simp only [Clock.isTime, Bool.and_eq_true, decide_eq_true_eq] at hvalid ⊢
    split <;> omega⟩

/-- Whether a time lies in a leap second that is not the last of its minute. -/
def Clock.isInInnerLeapSecond (t : Clock) : Bool := 1000000000 ≤ t.nanosecond && t.second != 59

/-- The time that the text of a time names, where a leap second inside a minute has become the
second that follows it. -/
def Clock.asWritten (t : Clock) : Clock :=
  if hinner : t.isInInnerLeapSecond = true then
    ⟨t.hour, t.minute, t.second + 1, 0, by
      have hvalid := t.valid
      simp only [Clock.isTime, Bool.and_eq_true, decide_eq_true_eq] at hvalid ⊢
      simp only [Clock.isInInnerLeapSecond, Bool.and_eq_true, bne_iff_ne] at hinner
      omega⟩
  else t.withoutFraction

namespace DateTime

def withoutFraction (t : DateTime) : DateTime := ⟨t.date, t.clock.withoutFraction⟩

def isInLeapSecond (t : DateTime) : Bool := 1000000000 ≤ t.clock.nanosecond

def isInInnerLeapSecond (t : DateTime) : Bool := t.clock.isInInnerLeapSecond

def asWritten (t : DateTime) : DateTime := ⟨t.date, t.clock.asWritten⟩

/-! ## Numbers -/

/-- The month and the day of a day are written with two digits. -/
theorem twoDigits_of_date (d : Date) : d.month < 100 ∧ d.day < 100 := by
  have hvalid := d.valid
  have hdays : Date.daysInMonth d.year d.month ≤ 31 := by
    unfold Date.daysInMonth
    split
    · split <;> omega
    all_goals omega
  simp only [Date.isDay, Bool.and_eq_true, decide_eq_true_eq] at hvalid
  constructor <;> omega

/-- The numbers of a time are written with two digits, second sixty included. -/
theorem twoDigits_of_clock (t : Clock) :
    t.hour < 100 ∧ t.minute < 100 ∧ t.writtenSecond < 100 := by
  have hvalid := t.valid
  simp only [Clock.isTime, Bool.and_eq_true, decide_eq_true_eq] at hvalid
  have hsecond : t.writtenSecond ≤ t.second + 1 := by
    unfold Clock.writtenSecond
    split <;> omega
  refine ⟨?_, ?_, ?_⟩ <;> omega

/-- A padded number consists of digits, and of at least one. -/
theorem areDigits_padded (digits n : Nat) : AreDigits (padded digits n) := by
  refine ⟨by simp [padded], fun c hc => ?_⟩
  rcases List.mem_append.1 hc with hzero | hdigit
  · rw [List.eq_of_mem_replicate hzero]
    rfl
  · exact (Integer.areDigits_toDigits n).2 c hdigit

/-- Zeros before a number do not change it. -/
theorem decimal_padded (digits n : Nat) : decimal (padded digits n) = n := by
  rw [Integer.decimal_eq_ofDigitChars, padded, Nat.ofDigitChars_append]
  simp

theorem length_padded_le {digits limit n : Nat} (hdigits : digits ≤ limit)
    (hn : (Nat.toDigits 10 n).length ≤ limit) : (padded digits n).length ≤ limit := by
  simp only [padded, List.length_append, List.length_replicate]
  omega

end DateTime

theorem Integer.AreDigits.isBlank_head {digits : List Char} (h : AreDigits digits)
    (rest : List Char) : EndsBefore Text.isBlank (digits ++ rest) := by
  cases digits with
  | nil => exact absurd rfl h.1
  | cons c more => exact .cons (Path.isBlank_of_isDigit (h.2 c List.mem_cons_self)) _

namespace Layout

open DateTime

/-- A number is read up to what is no digit, if it is not too long. -/
theorem takeNatural_append {limit : Nat} {digits rest : List Char} (hdigits : AreDigits digits)
    (hlimit : digits.length ≤ limit) (hrest : EndsBefore Char.isDigit rest) :
    takeNatural limit (digits ++ rest) = some (decimal digits, rest) := by
  have htake : takeDigits limit (digits ++ rest) = some (digits, rest) := by
    simp [takeDigits, Path.takeWhile_append_of_endsBefore hdigits.2 hrest,
      List.take_of_length_le hlimit, hdigits.1]
  simp [takeNatural, htake, Integer.digitsFrom_eq_some hdigits.2, decimal]

/-- A number that fits its width is read as it was written. -/
theorem takeNatural_padded {digits limit n : Nat} (hdigits : digits ≤ limit)
    (hn : (Nat.toDigits 10 n).length ≤ limit) {rest : List Char}
    (hrest : EndsBefore Char.isDigit rest) :
    takeNatural limit (padded digits n ++ rest) = some (n, rest) := by
  rw [takeNatural_append (areDigits_padded digits n) (length_padded_le hdigits hn) hrest,
    decimal_padded]

/-- A number behind a sign may be of any length. -/
theorem takeNatural_padded_all (digits n : Nat) {rest : List Char}
    (hrest : EndsBefore Char.isDigit rest) :
    takeNatural (padded digits n ++ rest).length (padded digits n ++ rest) = some (n, rest) := by
  rw [takeNatural_append (areDigits_padded digits n) (by simp) hrest, decimal_padded]

theorem takeYear_of_areDigits {digits : List Char} (h : AreDigits digits) (rest : List Char) :
    takeYear (digits ++ rest) =
      (takeNatural 4 (digits ++ rest)).map fun (n, tail) => (Int.ofNat n, tail) := by
  cases digits with
  | nil => exact absurd rfl h.1
  | cons c more =>
      have hc : c.isDigit = true := h.2 c List.mem_cons_self
      rw [List.cons_append]
      -- A digit is no sign, so the year is read without one.
      unfold takeYear
      split
      · next heq =>
          cases heq
          exact absurd hc (by decide)
      · next heq =>
          cases heq
          exact absurd hc (by decide)
      · rfl

/-- A year is read as it was written, with a sign or without. -/
theorem takeYear_yearText (year : Int) {rest : List Char} (hrest : EndsBefore Char.isDigit rest) :
    takeYear (yearText year ++ rest) = some (year, rest) := by
  rw [yearText]
  split
  · next hyear =>
      have hlength : (Nat.toDigits 10 year.toNat).length ≤ 4 :=
        (Nat.length_toDigits_le_iff (by decide) (by decide)).2 (by omega)
      rw [takeYear_of_areDigits (areDigits_padded 4 _),
        takeNatural_padded (Nat.le_refl 4) hlength hrest]
      simp only [Option.map_some, Int.ofNat_eq_natCast, Int.toNat_of_nonneg hyear.1]
  · split
    · next hnegative =>
        simp only [List.cons_append, takeYear, takeNatural_padded_all _ _ hrest, Option.map_some,
          Option.some.injEq, Prod.mk.injEq, and_true, Int.ofNat_eq_natCast]
        omega
    · next hnegative =>
        simp only [List.cons_append, takeYear, takeNatural_padded_all _ _ hrest, Option.map_some,
          Option.some.injEq, Prod.mk.injEq, and_true, Int.ofNat_eq_natCast]
        omega

/-- A year does not begin with a blank. -/
theorem endsBefore_yearText (year : Int) (rest : List Char) :
    EndsBefore Text.isBlank (yearText year ++ rest) := by
  rw [yearText]
  split
  · exact (areDigits_padded 4 _).isBlank_head rest
  · split
    · exact .cons (by decide) _
    · exact .cons (by decide) _

/-! ## Items -/

section Items

variable (parts : DateParts) (items : List LayoutItem) {rest : List Char}

/-- The year of a text is read by the item for it. -/
theorem readFrom_year (year : Int) (hrest : EndsBefore Char.isDigit rest) :
    readFrom parts (yearText year ++ rest) (.number .year :: items) =
      readFrom { parts with year := year } rest items := by
  simp [readFrom, readItem, Text.trimFront_eq_self (endsBefore_yearText year rest),
    takeYear_yearText year hrest]

/-- A number of two digits is read by the item of its field. -/
theorem readFrom_number {field : Field} (hfield : field ≠ .year) {n : Nat} (hn : n < 100)
    (hrest : EndsBefore Char.isDigit rest) :
    readFrom parts (padded 2 n ++ rest) (.number field :: items) =
      readFrom (parts.set field n) rest items := by
  have htrim := Text.trimFront_eq_self ((areDigits_padded 2 n).isBlank_head rest)
  have hlength : (Nat.toDigits 10 n).length ≤ 2 :=
    (Nat.length_toDigits_le_iff (by decide) (by decide)).2 hn
  have htake := takeNatural_padded (Nat.le_refl 2) hlength hrest
  cases field with
  | year => exact absurd rfl hfield
  | _ => simp [readFrom, readItem, htrim, htake]

/-- A literal character is read by its item. -/
theorem readFrom_literal (c : Char) :
    readFrom parts (c :: rest) (.literal c :: items) = readFrom parts rest items := by
  simp [readFrom, readItem]

/-- One blank is read by the item for blanks. -/
theorem readFrom_blank (hrest : EndsBefore Text.isBlank rest) :
    readFrom parts (' ' :: rest) (.blanks :: items) = readFrom parts rest items := by
  have hblank : Text.trimFront (' ' :: rest) = rest := by
    rw [Text.trimFront_cons_of_isBlank (by decide), Text.trimFront_eq_self hrest]
  simp [readFrom, readItem, hblank]

/-! ## Days and times -/

/-- A written day is read by the items of a day. -/
theorem readFrom_dateText (d : Date) (hrest : EndsBefore Char.isDigit rest) :
    readFrom parts (dateText d ++ rest) (day ++ items) =
      readFrom { parts with year := d.year, month := d.month, day := d.day } rest items := by
  have hhyphen (tail : List Char) : EndsBefore Char.isDigit ('-' :: tail) := .cons rfl tail
  rcases twoDigits_of_date d with ⟨hmonth, hday⟩
  simp only [dateText, day, List.append_assoc, List.cons_append, List.nil_append]
  rw [readFrom_year _ _ _ (hhyphen _), readFrom_literal,
    readFrom_number _ _ (by decide) hmonth (hhyphen _), readFrom_literal,
    readFrom_number _ _ (by decide) hday hrest]
  rfl

/-- A written time is read by the items of a time. -/
theorem readFrom_clockText (t : Clock) (hrest : EndsBefore Char.isDigit rest) :
    readFrom parts (clockText t ++ rest) (time ++ items) =
      readFrom { parts with hour := t.hour, minute := t.minute, second := t.writtenSecond } rest
        items := by
  have hcolon (tail : List Char) : EndsBefore Char.isDigit (':' :: tail) := .cons rfl tail
  rcases twoDigits_of_clock t with ⟨hhour, hminute, hsecond⟩
  simp only [clockText, time, List.append_assoc, List.cons_append, List.nil_append]
  rw [readFrom_number _ _ (by decide) hhour (hcolon _), readFrom_literal,
    readFrom_number _ _ (by decide) hminute (hcolon _), readFrom_literal,
    readFrom_number _ _ (by decide) hsecond hrest]
  rfl

end Items

/-! ## Whole texts -/

/-- The numbers that a moment is written with, to the second. -/
def writtenParts (t : DateTime) : DateParts :=
  ⟨t.date.year, t.date.month, t.date.day, t.clock.hour, t.clock.minute, t.clock.writtenSecond, 0⟩

/-- A day alone is read as it was written. -/
theorem read?_day (d : Date) :
    read? day (dateText d) = some { year := d.year, month := d.month, day := d.day } := by
  simpa [read?, readFrom] using readFrom_dateText {} [] d (Path.endsBefore_nil _)

/-- A day and a time with a blank between them are read as the numbers they were written with. -/
theorem read?_dayBlankTime (t : DateTime) :
    read? dayBlankTime (dateText t.date ++ ' ' :: clockText t.clock) = some (writtenParts t) := by
  have hclock : EndsBefore Text.isBlank (clockText t.clock) := by
    simpa [clockText] using (areDigits_padded 2 t.clock.hour).isBlank_head _
  have htime := readFrom_clockText { year := t.date.year, month := t.date.month, day := t.date.day }
    [] t.clock (Path.endsBefore_nil _)
  rw [List.append_nil, List.append_nil] at htime
  rw [read?, dayBlankTime, readFrom_dateText _ _ _ (.cons rfl _), readFrom_blank _ _ hclock, htime]
  rfl

/-- The first form that literals may have is read as the numbers it was written with. -/
theorem read?_isoText (t : DateTime) :
    read? (dayTTime ++ [.fraction]) t.isoText.toList = some (writtenParts t) := by
  have htime := readFrom_clockText { year := t.date.year, month := t.date.month, day := t.date.day }
    [.fraction] t.clock (Path.endsBefore_nil _)
  rw [List.append_nil] at htime
  rw [isoText, textWith, String.toList_ofList, read?, dayTTime, List.append_assoc,
    readFrom_dateText _ _ _ (.cons rfl _), List.cons_append, readFrom_literal, htime]
  rfl

/-- A day alone does not fit a layout that goes on behind the day. -/
theorem read?_dateText_eq_none {separator : LayoutItem} (h : separator = .blanks ∨
    separator = .literal 'T') (d : Date) :
    read? (day ++ separator :: time) (dateText d) = none := by
  have hday := readFrom_dateText {} (separator :: time) d (Path.endsBefore_nil _)
  rw [List.append_nil] at hday
  rw [read?, hday]
  rcases h with rfl | rfl <;> rfl

/-- The second that is written is sixty only for a leap second at the end of a minute, and is read
as the second that it names. -/
theorem ofWritten?_writtenSecond (t : Clock) :
    Clock.ofWritten? t.hour t.minute t.writtenSecond 0 = some t.asWritten := by
  have hvalid := t.valid
  simp only [Clock.isTime, Bool.and_eq_true, decide_eq_true_eq] at hvalid
  have hhour : t.hour < 24 := by omega
  have hminute : t.minute < 60 := by omega
  by_cases hleap : 1000000000 ≤ t.nanosecond
  · by_cases hlast : t.second = 59
    · simp [Clock.ofWritten?, Clock.writtenSecond, Clock.of?, Clock.asWritten,
        Clock.isInInnerLeapSecond, Clock.withoutFraction, Clock.isTime, hleap, hlast, hhour,
        hminute]
    -- Inside a minute the second that follows has a number of its own.
    · have hnext : t.second + 1 < 60 := by omega
      have hsixty : t.second + 1 ≠ 60 := by omega
      simp [Clock.ofWritten?, Clock.writtenSecond, Clock.of?, Clock.asWritten,
        Clock.isInInnerLeapSecond, Clock.isTime, hleap, hlast, hnext, hhour, hminute]
  · have hsecond : t.second < 60 := by omega
    have hsixty : t.second ≠ 60 := by omega
    simp [Clock.ofWritten?, Clock.writtenSecond, Clock.of?, Clock.asWritten,
      Clock.isInInnerLeapSecond, Clock.withoutFraction, Clock.isTime, hleap, hsecond, hsixty,
      hhour, hminute]

/-- The numbers that a moment is written with name the moment as written. -/
theorem dateTime?_writtenParts (t : DateTime) :
    (writtenParts t).dateTime? = some t.asWritten := by
  have hdate : (writtenParts t).date? = some t.date := Date.of?_self t.date
  simp only [DateParts.dateTime?, hdate]
  simp [writtenParts, ofWritten?_writtenSecond, DateTime.asWritten]

theorem date?_of_dateText (d : Date) :
    (read? day (dateText d)).bind DateParts.date? = some d := by
  rw [read?_day, Option.bind_some]
  exact Date.of?_self d

/-- A moment with a blank in its text comes back as the moment that the text names. -/
theorem dateTime?_of_textWith (t : DateTime) :
    (read? dayBlankTime (t.textWith ' ').toList).bind DateParts.dateTime? =
      some t.asWritten := by
  rw [textWith, String.toList_ofList, read?_dayBlankTime, Option.bind_some,
    dateTime?_writtenParts]

/-- A moment with a `T` in its text comes back as the moment that the text names. -/
theorem dateTime?_of_isoText (t : DateTime) :
    (read? (dayTTime ++ [.fraction]) t.isoText.toList).bind DateParts.dateTime? =
      some t.asWritten := by
  rw [read?_isoText, Option.bind_some, dateTime?_writtenParts]

end Layout

/-! ## What is written has no blanks -/

theorem Integer.AreDigits.isBlank_of_mem {digits : List Char} (h : Integer.AreDigits digits)
    {c : Char} (hc : c ∈ digits) : Text.isBlank c = false :=
  Path.isBlank_of_isDigit (h.2 c hc)

namespace DateTime

theorem isBlank_of_mem_yearText {year : Int} {c : Char} (hc : c ∈ yearText year) :
    Text.isBlank c = false := by
  have hdigits (n : Nat) (h : c ∈ padded 4 n) : Text.isBlank c = false :=
    (areDigits_padded 4 n).isBlank_of_mem h
  rw [yearText] at hc
  split at hc
  · exact hdigits _ hc
  · rcases List.mem_cons.1 hc with rfl | hc
    · split <;> decide
    · exact hdigits _ hc

/-- A written day has no blanks. -/
theorem isWord_dateText (d : Date) : IsWord (dateText d) := by
  refine ⟨by simp [dateText], fun c hc => ?_⟩
  have hhyphen : Text.isBlank '-' = false := by decide
  have hdigits (n : Nat) (h : c ∈ padded 2 n) : Text.isBlank c = false :=
    (areDigits_padded 2 n).isBlank_of_mem h
  simp only [dateText, List.mem_append, List.mem_cons] at hc
  rcases hc with (hyear | rfl | hmonth) | rfl | hday
  · exact isBlank_of_mem_yearText hyear
  · exact hhyphen
  · exact hdigits _ hmonth
  · exact hhyphen
  · exact hdigits _ hday

/-- A written time has no blanks. -/
theorem isWord_clockText (t : Clock) : IsWord (clockText t) := by
  refine ⟨by simp [clockText], fun c hc => ?_⟩
  have hcolon : Text.isBlank ':' = false := by decide
  have hdigits (n : Nat) (h : c ∈ padded 2 n) : Text.isBlank c = false :=
    (areDigits_padded 2 n).isBlank_of_mem h
  simp only [clockText, List.mem_append, List.mem_cons] at hc
  rcases hc with (hhour | rfl | hminute) | rfl | hsecond
  · exact hdigits _ hhour
  · exact hcolon
  · exact hdigits _ hminute
  · exact hcolon
  · exact hdigits _ hsecond

/-- A moment is one word unless there is a blank between its day and its time. -/
theorem isWord_textWith {separator : Char} (h : Text.isBlank separator = false) (t : DateTime) :
    IsWord (t.textWith separator).toList := by
  rw [textWith, String.toList_ofList]
  refine ⟨by simp, fun c hc => ?_⟩
  rcases List.mem_append.1 hc with hdate | hrest
  · exact (isWord_dateText t.date).unbroken c hdate
  · rcases List.mem_cons.1 hrest with rfl | hclock
    · exact h
    · exact (isWord_clockText t.clock).unbroken c hclock

end DateTime

/-! ## Which moments are written alike -/

/-- What is read back is another second exactly for a leap second inside a minute. -/
theorem Clock.asWritten_eq_withoutFraction_iff {t : Clock} :
    t.asWritten = t.withoutFraction ↔ t.isInInnerLeapSecond = false := by
  cases hinner : t.isInInnerLeapSecond with
  | true => simp [asWritten, hinner, withoutFraction]
  | false => simp [asWritten, hinner]

/-- The second after a leap second inside a minute is written with the same number. -/
theorem Clock.writtenSecond_asWritten (t : Clock) :
    t.asWritten.writtenSecond = t.writtenSecond := by
  cases hinner : t.isInInnerLeapSecond with
  | true =>
      have hleap : 1000000000 ≤ t.nanosecond := by
        simp only [isInInnerLeapSecond, Bool.and_eq_true, decide_eq_true_eq] at hinner
        exact hinner.1
      simp [asWritten, hinner, writtenSecond, hleap]
  | false =>
      by_cases hleap : 1000000000 ≤ t.nanosecond <;>
        simp [asWritten, hinner, writtenSecond, withoutFraction, hleap]

theorem Clock.hour_asWritten (t : Clock) : t.asWritten.hour = t.hour := by
  unfold asWritten
  split <;> rfl

theorem Clock.minute_asWritten (t : Clock) : t.asWritten.minute = t.minute := by
  unfold asWritten
  split <;> rfl

namespace DateTime

/-- A moment comes back without its fraction exactly if it is not in a leap second inside a minute.
-/
theorem asWritten_eq_withoutFraction_iff {t : DateTime} :
    t.asWritten = t.withoutFraction ↔ t.isInInnerLeapSecond = false := by
  simp only [asWritten, withoutFraction, isInInnerLeapSecond, mk.injEq, true_and,
    Clock.asWritten_eq_withoutFraction_iff]

/-- A moment without a fraction is left as it is when the fraction is dropped. -/
theorem withoutFraction_eq_self {t : DateTime} (h : t.clock.fraction = 0) :
    t.withoutFraction = t := by
  rcases t with ⟨date, ⟨hour, minute, second, nanosecond, hvalid⟩⟩
  have htime := hvalid
  simp only [Clock.isTime, Bool.and_eq_true, decide_eq_true_eq] at htime
  simp only [Clock.fraction] at h
  -- There are less than two seconds of nanoseconds.
  have hwhole : (if 1000000000 ≤ nanosecond then 1000000000 else 0) = nanosecond := by
    split <;> omega
  simp only [withoutFraction, Clock.withoutFraction, hwhole]

/-- The moments that come back as they are: those in whole seconds, where a leap second counts as
one if it ends a minute. -/
theorem asWritten_eq_self_iff {t : DateTime} :
    t.asWritten = t ↔ t.clock.fraction = 0 ∧ t.isInInnerLeapSecond = false := by
  constructor
  · intro h
    cases hinner : t.isInInnerLeapSecond with
    | true =>
        -- The second that follows is not the second that the clock is in.
        have hsecond : t.asWritten.clock.second = t.clock.second + 1 := by
          simp only [isInInnerLeapSecond] at hinner
          simp [asWritten, Clock.asWritten, hinner]
        rw [h] at hsecond
        omega
    | false =>
        have hwhole : t.withoutFraction.clock.fraction = 0 := by
          simp only [withoutFraction, Clock.withoutFraction, Clock.fraction]
          split <;> rfl
        rw [← asWritten_eq_withoutFraction_iff.2 hinner, h] at hwhole
        exact ⟨hwhole, rfl⟩
  · intro h
    rw [asWritten_eq_withoutFraction_iff.2 h.2, withoutFraction_eq_self h.1]

/-- The moment that comes back has the same text. -/
theorem textWith_asWritten (separator : Char) (t : DateTime) :
    t.asWritten.textWith separator = t.textWith separator := by
  simp only [textWith, asWritten, clockText, Clock.hour_asWritten, Clock.minute_asWritten,
    Clock.writtenSecond_asWritten]

/-- Moments are written alike to the second exactly if they are read back as the same one. -/
theorem textWith_blank_inj {t u : DateTime} :
    t.textWith ' ' = u.textWith ' ' ↔ t.asWritten = u.asWritten := by
  constructor
  -- One text is read as one moment.
  · intro h
    have hread := Layout.dateTime?_of_textWith t
    rw [h, Layout.dateTime?_of_textWith u] at hread
    exact (Option.some.inj hread).symm
  · intro h
    calc t.textWith ' '
        = t.asWritten.textWith ' ' := (textWith_asWritten ' ' t).symm
      _ = u.asWritten.textWith ' ' := by rw [h]
      _ = u.textWith ' ' := textWith_asWritten ' ' u

/-- Different days have different texts. -/
theorem dateText_inj {d e : Date} : dateText d = dateText e ↔ d = e := by
  constructor
  · intro h
    have hread := Layout.date?_of_dateText d
    rw [h, Layout.date?_of_dateText e] at hread
    exact (Option.some.inj hread).symm
  · intro h
    rw [h]

/-- A leap second is no whole second, also without its fraction. -/
theorem wholeSecond_eq_withoutFraction_iff {t u : DateTime} :
    t.wholeSecond = u.withoutFraction ↔
      u.isInLeapSecond = false ∧ t.wholeSecond = u.wholeSecond := by
  by_cases hleap : 1000000000 ≤ u.clock.nanosecond <;>
    simp [wholeSecond, Clock.wholeSecond, withoutFraction, Clock.withoutFraction, isInLeapSecond,
      hleap]

/-- Without their fractions two moments are the same exactly if they lie in the same second, both of
them in a leap second or neither. -/
theorem withoutFraction_eq_iff {t u : DateTime} :
    t.withoutFraction = u.withoutFraction ↔
      t.isInLeapSecond = u.isInLeapSecond ∧ t.wholeSecond = u.wholeSecond := by
  by_cases ht : 1000000000 ≤ t.clock.nanosecond <;>
    by_cases hu : 1000000000 ≤ u.clock.nanosecond <;>
      simp [wholeSecond, Clock.wholeSecond, withoutFraction, Clock.withoutFraction, isInLeapSecond,
        ht, hu]

end DateTime
end ErrorTriage
