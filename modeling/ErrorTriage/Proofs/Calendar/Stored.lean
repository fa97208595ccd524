import ErrorTriage.Proofs.Calendar.Fitting

/-!
# Calendar.Stored — the moments that stored records hold

Records store a moment with its fraction of a second.  The layout they are read by allows blanks
around every number, and what is written has none, so the layout is followed item by item.

Not every moment of a clock can be stored: a leap second inside a minute is written as the second
that follows it.  Every other moment is read back as it was, so these are the moments of records.
-/

namespace ErrorTriage

open Integer (AreDigits)
open ErrorTriage.Path (EndsBefore)

namespace Layout

variable (parts : DateParts) (items : List LayoutItem) {rest : List Char}

/-! ## Fractions -/

/-- A number with zeros before it has the width asked for if its own digits do not pass it. -/
theorem length_padded {digits n : Nat} (hn : (Nat.toDigits 10 n).length ≤ digits) :
    (DateTime.padded digits n).length = digits := by
  simp only [DateTime.padded, List.length_append, List.length_replicate]
  omega

/-- Fewer than nine digits of a fraction count as so many thousandths or millionths. -/
theorem takeFraction_padded {digits n : Nat} (hdigits : digits ≤ 9)
    (hn : (Nat.toDigits 10 n).length ≤ digits) :
    takeFraction (DateTime.padded digits n) = some (n * Nat.pow 10 (9 - digits), []) := by
  have hall := DateTime.areDigits_padded digits n
  have hlength := length_padded hn
  have htake : takeDigits 9 (DateTime.padded digits n) = some (DateTime.padded digits n, []) := by
    simp [takeDigits, List.takeWhile_eq_self_iff.2 hall.2,
      List.take_of_length_le (hlength.trans_le hdigits), hall.1]
  have hvalue : Integer.digitsFrom 0 (DateTime.padded digits n) = some n := by
    rw [Integer.digitsFrom_eq_some hall.2]
    exact congrArg some (DateTime.decimal_padded digits n)
  simp [takeFraction, htake, hvalue, hlength]

/-- A fraction of a second is read as the nanoseconds that it is written for, whether it has three,
six or nine digits or is left out. -/
theorem readFrom_fractionText {nanosecond : Nat} (hsecond : nanosecond < 1000000000)
    (hparts : parts.nanosecond = 0) :
    readFrom parts (DateTime.fractionText nanosecond) (.fraction :: items) =
      readFrom { parts with nanosecond := nanosecond } [] items := by
  -- What a point and so many digits are read as, for a number that they can hold.
  have hread {digits n : Nat} (hdigits : digits ≤ 9) (hpositive : 0 < digits)
      (hn : n < 10 ^ digits) (hvalue : n * 10 ^ (9 - digits) = nanosecond) :
      readFrom parts ('.' :: DateTime.padded digits n) (.fraction :: items) =
        readFrom { parts with nanosecond := nanosecond } [] items := by
    have hlength : (Nat.toDigits 10 n).length ≤ digits :=
      (Nat.length_toDigits_le_iff (by decide) hpositive).2 hn
    simp [readFrom, readItem, takeFraction_padded hdigits hlength, hvalue]
  rw [DateTime.fractionText]
  split
  · next hzero =>
      subst hzero
      simp [readFrom, readItem, ← hparts]
  · split
    · next hmilli => exact hread (by decide) (by decide) (by omega) (by omega)
    · split
      · next hmicro => exact hread (by decide) (by decide) (by omega) (by omega)
      · exact hread (by decide) (by decide) hsecond (Nat.mul_one nanosecond)

/-- The number before a fraction ends there: a fraction begins with a point. -/
theorem endsBefore_fractionText (nanosecond : Nat) :
    EndsBefore Char.isDigit (DateTime.fractionText nanosecond) := by
  unfold DateTime.fractionText
  split
  · exact Path.endsBefore_nil _
  · split
    · exact .cons rfl _
    · split <;> exact .cons rfl _

/-! ## Whole texts -/

/-- Blanks are allowed, and there are none. -/
theorem readFrom_blanks {cs : List Char} (hcs : EndsBefore Text.isBlank cs) :
    readFrom parts cs (.blanks :: items) = readFrom parts cs items := by
  simp [readFrom, readItem, Text.trimFront_eq_self hcs]

/-- Every number of an exact text is read, and the fraction with them. -/
theorem read?_exactText (t : DateTime) :
    read? stored t.exactText.toList =
      some { writtenParts t with nanosecond := t.clock.fraction } := by
  rcases DateTime.twoDigits_of_date t.date with ⟨hmonth, hday⟩
  rcases DateTime.twoDigits_of_clock t.clock with ⟨hhour, hminute, hsecond⟩
  have hhyphen (tail : List Char) : EndsBefore Char.isDigit ('-' :: tail) := .cons rfl tail
  have hcolon (tail : List Char) : EndsBefore Char.isDigit (':' :: tail) := .cons rfl tail
  have hT (tail : List Char) : EndsBefore Char.isDigit ('T' :: tail) := .cons rfl tail
  have hpoint : EndsBefore Char.isDigit (DateTime.fractionText t.clock.fraction) :=
    endsBefore_fractionText t.clock.fraction
  have hfraction : t.clock.fraction < 1000000000 := Nat.mod_lt _ (by decide)
  simp only [DateTime.exactText, DateTime.isoText, DateTime.textWith, String.toList_append,
    String.toList_ofList, DateTime.dateText, DateTime.clockText, List.append_assoc,
    List.cons_append, read?, stored]
  -- Every number ends at the mark behind it, the last one at the point of the fraction or at the
  -- end of the text.
  rw [readFrom_year _ _ _ (hhyphen _), readFrom_blanks _ _ (.cons (by decide) _), readFrom_literal,
    readFrom_number _ _ (by decide) hmonth (hhyphen _), readFrom_blanks _ _ (.cons (by decide) _),
    readFrom_literal, readFrom_number _ _ (by decide) hday (hT _),
    readFrom_blanks _ _ (.cons (by decide) _), readFrom_literal,
    readFrom_number _ _ (by decide) hhour (hcolon _), readFrom_blanks _ _ (.cons (by decide) _),
    readFrom_literal, readFrom_number _ _ (by decide) hminute (hcolon _),
    readFrom_blanks _ _ (.cons (by decide) _), readFrom_literal,
    readFrom_number _ _ (by decide) hsecond hpoint, readFrom_fractionText _ _ hfraction rfl,
    readFrom_blanks _ _ (Path.endsBefore_nil _)]
  rfl

end Layout

/-! ## Moments of records -/

/-- The parts of a time name that time. -/
theorem Clock.of?_self (t : Clock) : of? t.hour t.minute t.second t.nanosecond = some t := by
  simp [of?, t.valid]

/-- A time comes back with its fraction, unless it lies in a leap second inside a minute. -/
theorem Clock.ofWritten?_fraction {t : Clock} (h : t.isInInnerLeapSecond = false) :
    ofWritten? t.hour t.minute t.writtenSecond t.fraction = some t := by
  have hvalid := t.valid
  simp only [isTime, Bool.and_eq_true, decide_eq_true_eq] at hvalid
  simp only [isInInnerLeapSecond, Bool.and_eq_false_iff, decide_eq_false_iff_not,
    bne_eq_false_iff_eq] at h
  by_cases hleap : 1000000000 ≤ t.nanosecond
  -- A leap second is the last one of its minute here, so it was written as second sixty.
  · have hlast : t.second = 59 := h.resolve_left (by omega)
    have hnanosecond : 1000000000 + t.fraction = t.nanosecond := by
      simp only [fraction]
      omega
    calc ofWritten? t.hour t.minute t.writtenSecond t.fraction
        = of? t.hour t.minute 59 (1000000000 + t.fraction) := by
          simp [ofWritten?, writtenSecond, hleap, hlast]
      _ = of? t.hour t.minute t.second t.nanosecond := by rw [hlast, hnanosecond]
      _ = some t := of?_self t
  · have hsecond : t.second ≠ 60 := by omega
    have hnanosecond : t.fraction = t.nanosecond := by
      simp only [fraction]
      omega
    calc ofWritten? t.hour t.minute t.writtenSecond t.fraction
        = of? t.hour t.minute t.second t.nanosecond := by
          simp [ofWritten?, writtenSecond, hleap, hsecond, hnanosecond]
      _ = some t := of?_self t

/-- No text names a leap second inside a minute. -/
theorem Clock.isInInnerLeapSecond_of_ofWritten? {hour minute second nanosecond : Nat} {t : Clock}
    (h : ofWritten? hour minute second nanosecond = some t) : t.isInInnerLeapSecond = false := by
  simp only [ofWritten?] at h
  -- Second sixty is read as a leap second after second fifty-nine, and all others as none.
  split at h
  · rcases of?_eq_some h with ⟨_, _, hsecond, _⟩
    simp [isInInnerLeapSecond, hsecond]
  · split at h
    · next hnanosecond =>
        rcases of?_eq_some h with ⟨_, _, _, hsame⟩
        simp only [isInInnerLeapSecond, hsame, Nat.not_le.2 hnanosecond, decide_false,
          Bool.false_and]
    · cases h

namespace DateTime

/-- Whether a stored record can hold the moment. -/
def IsStorable (t : DateTime) : Prop := ∃ s, ofStored? s = some t

/-- A moment that is written with its fraction comes back as it was. -/
theorem ofStored?_exactText {t : DateTime} (h : t.isInInnerLeapSecond = false) :
    ofStored? t.exactText = some t := by
  have hdate : Date.of? t.date.year t.date.month t.date.day = some t.date := Date.of?_self t.date
  have hclock := Clock.ofWritten?_fraction h
  simp only [ofStored?, Layout.read?_exactText, Option.bind_some, DateParts.dateTime?,
    DateParts.date?, Layout.writtenParts, hdate, hclock]
  rfl

/-- The moments that records can hold are those outside of leap seconds inside a minute. -/
theorem isStorable_iff {t : DateTime} : t.IsStorable ↔ t.isInInnerLeapSecond = false := by
  constructor
  · rintro ⟨s, hs⟩
    rcases Option.bind_eq_some_iff.1 hs with ⟨p, _, hp⟩
    simp only [DateParts.dateTime?, Option.bind_eq_bind, Option.bind_eq_some_iff] at hp
    rcases hp with ⟨date, _, clock, hclock, heq⟩
    cases heq
    exact Clock.isInInnerLeapSecond_of_ofWritten? hclock
  · intro h
    exact ⟨t.exactText, ofStored?_exactText h⟩

end DateTime
end ErrorTriage
