import ErrorTriage.Literal.Typed
import ErrorTriage.Proofs.Calendar.Written

/-!
# Literal.Moment — a moment and its text are compared alike

The text of a moment has a `T` between the day and the time, and that is the form that a reader of
moments tries first.  So what is written is read by the right layout, whatever the year is and also
in a leap second, and no other form is asked.

The text is written to the second: a moment that has a fraction of a second comes back without it.
A leap second inside a minute has no text of its own.  It is written as the second that follows it,
and comes back as that second, which is later in order.
-/

namespace ErrorTriage

open ErrorTriage.Path (AreBlanks)

/-! ## Moments that are equal in order -/

/-- Two days are in the same place only if they are the same. -/
theorem Date.order_eq_eq_iff {d e : Date} : d.order e = .eq ↔ d = e := by
  simp only [Date.order, Ordering.then_eq_eq, Int.compare_eq_eq, Nat.compare_eq_eq]
  constructor
  · intro h
    cases d
    cases e
    simpa using h
  · rintro rfl
    exact ⟨rfl, rfl, rfl⟩

theorem Clock.order_eq_eq_iff {t u : Clock} : t.order u = .eq ↔ t = u := by
  simp only [Clock.order, Ordering.then_eq_eq, Nat.compare_eq_eq]
  constructor
  · intro h
    cases t
    cases u
    simpa using h
  · rintro rfl
    exact ⟨rfl, rfl, rfl, rfl⟩

namespace DateTime

theorem order_eq_eq_iff {t u : DateTime} : t.order u = .eq ↔ t = u := by
  simp only [order, Ordering.then_eq_eq, Date.order_eq_eq_iff, Clock.order_eq_eq_iff]
  constructor
  · intro h
    cases t
    cases u
    simpa using h
  · rintro rfl
    exact ⟨rfl, rfl⟩

/-! ## Reading what is written -/

/-- The first form that is tried accepts the text of a moment. -/
theorem ofText?_isoText_between (t : DateTime) {front back : List Char} (hfront : AreBlanks front)
    (hback : AreBlanks back) :
    ofText? (String.ofList (front ++ (t.isoText.toList ++ back))) = some t.asWritten := by
  -- There is no blank in the text, so trimming takes off what was put around it and no more.
  have hword : Text.IsWord t.isoText.toList := isWord_textWith (by decide) t
  rw [ofText?, String.toList_ofList, hword.trimList_between hfront hback,
    Layout.dateTime?_of_isoText, Option.some_or]

end DateTime

namespace TypedLiteral

/-! ## Comparing -/

/-- Against a moment, a value counts as the moment that it is or that its text names. -/
theorem order?_of_dateTime {l : TypedLiteral} (hcode : l.code = .dateTime) (v : Value) :
    l.order? v = (Literal.dateTime? v).bind fun t => (Literal.dateTime t).order? l.value := by
  have hconvert : Literal.convert? l.code v = (Literal.dateTime? v).map .dateTime := by
    rw [hcode]
    rfl
  rw [order?, hconvert, Option.bind_map]
  rfl

theorem order?_moment {l : TypedLiteral} (hcode : l.code = .dateTime) (t : DateTime) :
    l.order? (.dateTime t) = (Literal.dateTime t).order? l.value := by
  rw [order?_of_dateTime hcode]
  rfl

/-- A text is compared as the moment that it is read as. -/
theorem order?_text {l : TypedLiteral} (hcode : l.code = .dateTime) {s : String} {t : DateTime}
    (h : DateTime.ofText? s = some t) : l.order? (.str s) = l.order? (.dateTime t) := by
  have hmoment : Literal.dateTime? (.str s) = some t := h
  rw [order?_of_dateTime hcode, hmoment, order?_moment hcode, Option.bind_some]

/-- A text that names a moment is a literal of it. -/
theorem read_moment {s : String} {t : DateTime} (h : DateTime.ofText? s = some t) :
    read .dateTime s = .ok ⟨.dateTime, .dateTime t⟩ := by
  have hvalue : Literal.convert? .dateTime (.str s) = some (.dateTime t) := by
    simp [Literal.convert?, TypeCode.range?, Literal.dateTime?, h]
  simp [read, TypeCode.isComparable, hvalue]

/-- The text of a moment, with blanks around it or without, is read as the moment that it names.
That is the moment without its fraction of a second, but for a leap second inside a minute, whose
text names the second that follows.  The moment itself comes back exactly if it has no fraction and
is not of that kind.  Then a literal of the type of moments compares with the text as it compares
with the moment, and the literal that the text itself stands for is equal in order to this moment
and to no other one. -/
theorem texts_compare_as_their_moments (t : DateTime) {front back : List Char}
    (hfront : AreBlanks front) (hback : AreBlanks back) {text : String}
    (htext : text = String.ofList (front ++ ((Value.dateTime t).text.toList ++ back))) :
    DateTime.ofText? text = some t.asWritten ∧
    (t.asWritten = t.withoutFraction ↔ t.isInInnerLeapSecond = false) ∧
    (DateTime.ofText? text = some t ↔ t.clock.fraction = 0 ∧ t.isInInnerLeapSecond = false) ∧
    (t.clock.fraction = 0 → t.isInInnerLeapSecond = false →
      (∀ l : TypedLiteral, l.code = .dateTime →
        l.order? (.str text) = l.order? (.dateTime t)) ∧
      ∃ l, read .dateTime text = .ok l ∧
        ∀ u, l.order? (.dateTime u) = some .eq ↔ u = t) := by
  have hread : DateTime.ofText? text = some t.asWritten := by
    rw [htext]
    exact DateTime.ofText?_isoText_between t hfront hback
  have hreturns : DateTime.ofText? text = some t ↔
      t.clock.fraction = 0 ∧ t.isInInnerLeapSecond = false := by
    simp only [hread, Option.some.injEq, DateTime.asWritten_eq_self_iff]
  -- Once the text is known to be read as the moment, a literal cannot tell the two apart.
  refine ⟨hread, DateTime.asWritten_eq_withoutFraction_iff, hreturns, fun hfraction hinner => ?_⟩
  have hsame : DateTime.ofText? text = some t := hreturns.2 ⟨hfraction, hinner⟩
  refine ⟨fun l hcode => order?_text hcode hsame, _, read_moment hsame, fun u => ?_⟩
  have horder : order? ⟨.dateTime, .dateTime t⟩ (.dateTime u) = some (u.order t) :=
    order?_moment rfl u
  simp only [horder, Option.some.injEq, DateTime.order_eq_eq_iff]

/-- A leap second at the end of a year before year one, which is written with its sign, among blanks
of two kinds. -/
theorem texts_compare_as_their_moments_leap_second :
    let t : DateTime := ⟨⟨-44, 12, 31, by decide⟩, ⟨23, 59, 59, 1000000000, by decide⟩⟩
    let text := " -0044-12-31T23:59:60\u3000"
    t.clock.fraction = 0 ∧ (Value.dateTime t).text = "-0044-12-31T23:59:60" ∧
      DateTime.ofText? text = some t ∧
      ∃ l, read .dateTime text = .ok l ∧ l.order? (.dateTime t) = some .eq ∧
        l.order? (.str text) = some .eq := by
  intro t text
  have hfront : AreBlanks [' '] := by decide +kernel
  have hback : AreBlanks ['\u3000'] := by decide +kernel
  have htext : text =
      String.ofList ([' '] ++ ((Value.dateTime t).text.toList ++ ['\u3000'])) := by decide +kernel
  have hfraction : t.clock.fraction = 0 := by decide
  have hlast : t.isInInnerLeapSecond = false := by decide
  rcases texts_compare_as_their_moments t hfront hback htext with ⟨_, _, hsame, hliterals⟩
  have hread : DateTime.ofText? text = some t := hsame.2 ⟨hfraction, hlast⟩
  rcases hliterals hfraction hlast with ⟨hcompare, l, hl, hequal⟩
  have hcode : l.code = .dateTime := by
    rw [read_moment hread] at hl
    cases hl
    rfl
  have horder : l.order? (.dateTime t) = some .eq := (hequal t).2 rfl
  exact ⟨hfraction, by decide +kernel, hread, l, hl, horder, (hcompare l hcode).trans horder⟩

/-- A leap second inside a minute has no fraction and does not come back.  The literal of its text
is the second that follows, which the leap second is before, but its own text is not. -/
theorem inner_leap_second_is_read_as_next :
    let t : DateTime := ⟨⟨2024, 3, 1, by decide⟩, ⟨10, 20, 30, 1000000000, by decide⟩⟩
    let next : DateTime := ⟨⟨2024, 3, 1, by decide⟩, ⟨10, 20, 31, 0, by decide⟩⟩
    let text := "2024-03-01T10:20:31"
    t.clock.fraction = 0 ∧ (Value.dateTime t).text = text ∧
      DateTime.ofText? text = some next ∧ DateTime.ofText? text ≠ some t ∧
      ∃ l, read .dateTime text = .ok l ∧ l.order? (.dateTime t) = some .lt ∧
        l.order? (.dateTime next) = some .eq ∧ l.order? (.str text) = some .eq := by
  intro t next text
  have hread : DateTime.ofText? text = some next := by decide +kernel
  have hcode : (⟨.dateTime, .dateTime next⟩ : TypedLiteral).code = .dateTime := rfl
  have hnext : order? ⟨.dateTime, .dateTime next⟩ (.dateTime next) = some .eq := by decide
  refine ⟨by decide, by decide +kernel, hread, ?_, _, read_moment hread, by decide, hnext, ?_⟩
  · rw [hread]
    decide
  · rw [order?_text hcode hread, hnext]

end TypedLiteral
end ErrorTriage
