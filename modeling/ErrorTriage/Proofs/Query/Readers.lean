import ErrorTriage.Proofs.Calendar.Fitting
import ErrorTriage.Query.Condition

/-!
# Query.Readers — moments in predicates and moments in literals

Predicates and literals have readers of their own for moments.  Each tries a list of forms, in an
order of its own, and takes the first one that accepts the text; the one for literals trims the text
before, and knows fractions of a second and a form with a distance from universal time.

No text has two of these forms, so the order does not matter.  And every form of predicates has its
counterpart among those of literals: what a predicate accepts means the same moment as a literal.
-/

namespace ErrorTriage

open Text (trimList)
open Layout (day dayBlankTime dayTTime read? readUniversal? writtenParts)

/-! ## Alternatives -/

section Alternatives

variable {α β : Type} {forms forms' : List (α → Option β)} {a : α} {b : β}

/-- At most one of the alternatives gives an answer. -/
def AreExclusive (forms : List (α → Option β)) (a : α) : Prop :=
  forms.Pairwise fun f g => f a = none ∨ g a = none

theorem findSome?_cons_eq_or (form : α → Option β) (forms : List (α → Option β)) (a : α) :
    (form :: forms).findSome? (fun form => form a) =
      (form a).or (forms.findSome? fun form => form a) := by
  rw [List.findSome?_cons]
  cases form a <;> rfl

/-- Among exclusive alternatives the first one that gives an answer is the only one. -/
theorem AreExclusive.findSome?_eq_some_iff (h : AreExclusive forms a) :
    forms.findSome? (fun form => form a) = some b ↔ ∃ form ∈ forms, form a = some b := by
  constructor
  · exact List.exists_of_findSome?_eq_some
  · rintro ⟨form, hmem, hform⟩
    induction forms with
    | nil => cases hmem
    | cons first rest ih =>
        rcases List.pairwise_cons.1 h with ⟨hfirst, hrest⟩
        rw [List.findSome?_cons]
        rcases List.mem_cons.1 hmem with rfl | hmem
        · rw [hform]
        · have hnone : first a = none := (hfirst form hmem).resolve_right (by simp [hform])
          rw [hnone]
          exact ih hrest hmem

theorem AreExclusive.perm (h : AreExclusive forms a) (hperm : forms'.Perm forms) :
    AreExclusive forms' a :=
  (hperm.pairwise_iff fun hor => hor.symm).2 h

/-- The order in which exclusive alternatives are tried does not matter. -/
theorem AreExclusive.findSome?_eq_of_perm (h : AreExclusive forms a) (hperm : forms'.Perm forms) :
    forms'.findSome? (fun form => form a) = forms.findSome? (fun form => form a) := by
  ext b
  rw [(h.perm hperm).findSome?_eq_some_iff, h.findSome?_eq_some_iff]
  simp only [hperm.mem_iff]

end Alternatives

/-! ## The forms of literals -/

namespace Layout

/-- The moment that a text names by a layout. -/
def moment? (layout : List LayoutItem) (cs : List Char) : Option DateTime :=
  (read? layout cs).bind DateParts.dateTime?

/-- The beginning of the day that a text names. -/
def dayStart? (cs : List Char) : Option DateTime :=
  ((read? day cs).bind DateParts.date?).map DateTime.ofDate

variable {layout : List LayoutItem} {cs : List Char} {t : DateTime}

theorem moment?_eq_some_iff :
    moment? layout cs = some t ↔ ∃ p, read? layout cs = some p ∧ p.dateTime? = some t :=
  Option.bind_eq_some_iff

theorem moment?_eq_none (h : read? layout cs = none) : moment? layout cs = none := by
  rw [moment?, h, Option.bind_none]

theorem dayStart?_eq_none (h : read? day cs = none) : dayStart? cs = none := by
  rw [dayStart?, h, Option.bind_none, Option.map_none]

theorem clock_of_dayStart? (h : dayStart? cs = some t) : t.clock = Clock.midnight := by
  rcases Option.map_eq_some_iff.1 h with ⟨d, _, rfl⟩
  rfl

/-! What fits one of two layouts with different marks does not fit the other. -/

theorem moment?_eq_none_or {a b : List LayoutItem} {c : Char} (hc : isMark c = true)
    (hne : a.count (.literal c) ≠ b.count (.literal c)) (cs : List Char) :
    moment? a cs = none ∨ moment? b cs = none :=
  (read?_eq_none_or hc hne cs).imp moment?_eq_none moment?_eq_none

theorem moment?_or_dayStart?_eq_none {a : List LayoutItem}
    (hne : a.count (.literal ':') ≠ day.count (.literal ':')) (cs : List Char) :
    moment? a cs = none ∨ dayStart? cs = none :=
  (read?_eq_none_or (by decide) hne cs).imp moment?_eq_none dayStart?_eq_none

/-- Trimming and a fraction that may follow keep what a text was read as. -/
theorem moment?_trimList {first last : Field} (hfirst : layout.head? = some (.number first))
    (hlast : layout.getLast? = some (.number last)) (h : moment? layout cs = some t) :
    moment? (layout ++ [.fraction]) (trimList cs) = some t := by
  rcases moment?_eq_some_iff.1 h with ⟨p, hread, hmoment⟩
  exact moment?_eq_some_iff.2
    ⟨p, readFrom_append_fraction (read?_trimList hfirst hlast hread), hmoment⟩

/-- A text that names a day names it without the blanks around it, too. -/
theorem dayStart?_trimList (h : dayStart? cs = some t) : dayStart? (trimList cs) = some t := by
  rcases Option.map_eq_some_iff.1 h with ⟨d, hd, rfl⟩
  rcases Option.bind_eq_some_iff.1 hd with ⟨p, hread, hdate⟩
  have htrim : read? day (trimList cs) = some p := read?_trimList rfl rfl hread
  rw [dayStart?, htrim, Option.bind_some, hdate, Option.map_some]

end Layout

open Layout (moment? dayStart?)

/-- The forms that a literal may have, in the order in which they are tried. -/
def DateTime.forms : List (List Char → Option DateTime) :=
  [moment? (dayTTime ++ [.fraction]), moment? (dayBlankTime ++ [.fraction]), readUniversal?,
    dayStart?]

/-- The reader of moments tries its forms one after another on the trimmed text. -/
theorem DateTime.ofText?_eq (s : String) :
    ofText? s = forms.findSome? fun form => form (trimList s.toList) := by
  simp only [forms, findSome?_cons_eq_or, List.findSome?_nil, Option.or_none]
  rfl

/-- The colons tell a day from the rest, the letter `T` tells the two layouts with a time apart. -/
theorem DateTime.areExclusive_forms (cs : List Char) : AreExclusive forms cs := by
  have huniversal {a : List LayoutItem} (hZ : .literal 'Z' ∉ a) (hz : .literal 'z' ∉ a)
      (hcolons : a.count (.literal ':') ≤ 2) : moment? a cs = none ∨ readUniversal? cs = none :=
    (Layout.read?_or_readUniversal?_eq_none hZ hz hcolons cs).imp_left Layout.moment?_eq_none
  have hread : read? day cs = none ∨ readUniversal? cs = none :=
    Layout.read?_or_readUniversal?_eq_none (by decide) (by decide) (by decide) cs
  have hday : readUniversal? cs = none ∨ dayStart? cs = none :=
    (hread.imp_left Layout.dayStart?_eq_none).symm
  -- One goal for each pair of forms, the later form behind the earlier one.
  simp only [AreExclusive, forms, List.pairwise_cons, List.forall_mem_cons, List.not_mem_nil,
    IsEmpty.forall_iff, implies_true, and_true, List.Pairwise.nil]
  refine ⟨⟨?_, ?_, ?_⟩, ⟨?_, ?_⟩, hday⟩
  · exact Layout.moment?_eq_none_or (c := 'T') (by decide) (by decide) cs
  · exact huniversal (by decide) (by decide) (by decide)
  · exact Layout.moment?_or_dayStart?_eq_none (by decide) cs
  · exact huniversal (by decide) (by decide) (by decide)
  · exact Layout.moment?_or_dayStart?_eq_none (by decide) cs

/-- The reader of moments gives what one of its forms gives. -/
theorem DateTime.ofText?_eq_some_iff {s : String} {t : DateTime} :
    ofText? s = some t ↔ ∃ form ∈ forms, form (trimList s.toList) = some t := by
  rw [ofText?_eq, (areExclusive_forms _).findSome?_eq_some_iff]

namespace Query

/-! ## The forms of predicates -/

/-- The forms that a moment in a predicate may have, in the order in which they are tried. -/
def DateLiteral.forms : List (List Char → Option DateLiteral) :=
  [fun cs => (moment? dayBlankTime cs).map (⟨·, .second⟩),
    fun cs => (moment? dayTTime cs).map (⟨·, .second⟩),
    fun cs => (dayStart? cs).map (⟨·, .day⟩)]

namespace DateLiteral

/-- The reader of dates in predicates tries its forms one after another on the text as it is. -/
theorem ofText?_eq (s : String) : ofText? s = forms.findSome? fun form => form s.toList := by
  simp only [forms, findSome?_cons_eq_or, List.findSome?_nil, Option.or_none, ofText?, moment?,
    dayStart?, Option.map_map]
  cases (read? dayBlankTime s.toList).bind DateParts.dateTime? with
  | some t => rfl
  | none =>
      cases (read? dayTTime s.toList).bind DateParts.dateTime? with
      | some t => rfl
      | none => rfl

/-- No text fits two of the layouts of predicates. -/
theorem layouts_pairwise (cs : List Char) :
    [dayBlankTime, dayTTime, day].Pairwise fun a b => read? a cs = none ∨ read? b cs = none := by
  simp only [List.pairwise_cons, List.forall_mem_cons, List.not_mem_nil, IsEmpty.forall_iff,
    implies_true, and_true, List.Pairwise.nil]
  refine ⟨⟨?_, ?_⟩, ?_⟩
  · exact Layout.read?_eq_none_or (c := 'T') (by decide) (by decide) cs
  · exact Layout.read?_eq_none_or (c := ':') (by decide) (by decide) cs
  · exact Layout.read?_eq_none_or (c := ':') (by decide) (by decide) cs

/-- No text has two of the forms. -/
theorem areExclusive_forms (cs : List Char) : AreExclusive forms cs := by
  simp only [AreExclusive, forms, List.pairwise_cons, List.forall_mem_cons, List.not_mem_nil,
    IsEmpty.forall_iff, implies_true, and_true, List.Pairwise.nil, Option.map_eq_none_iff]
  refine ⟨⟨?_, ?_⟩, ?_⟩
  · exact Layout.moment?_eq_none_or (c := 'T') (by decide) (by decide) cs
  · exact Layout.moment?_or_dayStart?_eq_none (by decide) cs
  · exact Layout.moment?_or_dayStart?_eq_none (by decide) cs

/-- What a predicate accepts is a time of one of two layouts, or a day. -/
theorem ofText?_cases {s : String} {literal : DateLiteral} (h : ofText? s = some literal) :
    (literal.granularity = .second ∧
      ∃ layout ∈ [dayBlankTime, dayTTime], moment? layout s.toList = some literal.value) ∨
    literal.granularity = .day ∧ dayStart? s.toList = some literal.value := by
  rw [ofText?_eq, (areExclusive_forms _).findSome?_eq_some_iff] at h
  simp only [forms, List.exists_mem_cons_iff, List.not_mem_nil, false_and, exists_false, or_false,
    Option.map_eq_some_iff] at h
  rcases h with ⟨t, ht, rfl⟩ | ⟨t, ht, rfl⟩ | ⟨t, ht, rfl⟩
  · exact .inl ⟨rfl, dayBlankTime, by simp, ht⟩
  · exact .inl ⟨rfl, dayTTime, by simp, ht⟩
  · exact .inr ⟨rfl, ht⟩

/-! ## The same moment -/

/-- A text of a day is the beginning of that day for the reader of moments, too. -/
theorem ofText?_value_of_day {s : String} {t : DateTime} (h : dayStart? s.toList = some t) :
    DateTime.ofText? s = some t :=
  DateTime.ofText?_eq_some_iff.2 ⟨dayStart?, by simp [DateTime.forms], Layout.dayStart?_trimList h⟩

/-- Both layouts begin with the year and end with the second. -/
theorem ends_of_layout : ∀ layout ∈ [dayBlankTime, dayTTime],
    layout.head? = some (.number .year) ∧ layout.getLast? = some (.number .second) ∧
      .fraction ∉ layout := by
  decide

section Seconds

variable {s : String} {t : DateTime} {layout : List LayoutItem}
  (hlayout : layout ∈ [dayBlankTime, dayTTime]) (h : moment? layout s.toList = some t)

include hlayout h

/-- A text of a second is the same moment for the reader of moments. -/
theorem ofText?_value_of_second : DateTime.ofText? s = some t := by
  rcases ends_of_layout layout hlayout with ⟨hfirst, hlast, _⟩
  have hform : moment? (layout ++ [.fraction]) ∈ DateTime.forms := by
    simp only [List.mem_cons, List.not_mem_nil, or_false] at hlayout
    rcases hlayout with rfl | rfl <;> simp [DateTime.forms]
  exact DateTime.ofText?_eq_some_iff.2 ⟨_, hform, Layout.moment?_trimList hfirst hlast h⟩

/-- A second is read from the numbers that it is written with; number sixty is a leap second. -/
theorem second_of_moment? :
    t.clock.fraction = 0 ∧ ∃ p, read? layout s.toList = some p ∧ p = writtenParts t ∧
      (p.second = 60 ↔ t.isInLeapSecond = true) := by
  rcases ends_of_layout layout hlayout with ⟨_, _, hwhole⟩
  rcases Layout.moment?_eq_some_iff.1 h with ⟨p, hread, hmoment⟩
  rcases DateParts.dateTime?_eq_some (Layout.nanosecond_of_read? hwhole hread) hmoment with
    ⟨hwritten, hfraction, hleap⟩
  exact ⟨hfraction, p, hread, hwritten, hleap⟩

end Seconds

/-- No text fits two layouts of predicates, and either reader may try its forms in any order.  What
a predicate accepts is the same moment as a literal: a day begins at midnight, a second has no
fraction and consists of the numbers that it is written with, where second sixty is a leap
second. -/
theorem readers_agree (s : String) :
    ([dayBlankTime, dayTTime, day].Pairwise fun a b =>
      read? a s.toList = none ∨ read? b s.toList = none) ∧
    (∀ order : List (List Char → Option DateLiteral), order.Perm forms →
      order.findSome? (fun form => form s.toList) = ofText? s) ∧
    (∀ order : List (List Char → Option DateTime), order.Perm DateTime.forms →
      order.findSome? (fun form => form (trimList s.toList)) = DateTime.ofText? s) ∧
    ∀ literal, ofText? s = some literal →
      DateTime.ofText? s = some literal.value ∧
      (literal.granularity = .day → literal.value.clock = Clock.midnight) ∧
      (literal.granularity = .second → literal.value.clock.fraction = 0 ∧
        ∃ layout ∈ [dayBlankTime, dayTTime], ∃ p, read? layout s.toList = some p ∧
          p = writtenParts literal.value ∧
          (p.second = 60 ↔ literal.value.isInLeapSecond = true)) := by
  refine ⟨layouts_pairwise s.toList, ?_, ?_, ?_⟩
  -- The readers are lists of exclusive forms, so any other order gives the same answers.
  · intro order hperm
    rw [(areExclusive_forms s.toList).findSome?_eq_of_perm hperm, ofText?_eq]
  · intro order hperm
    rw [(DateTime.areExclusive_forms _).findSome?_eq_of_perm hperm, DateTime.ofText?_eq]
  · intro literal h
    rcases ofText?_cases h with ⟨hsecond, layout, hlayout, hmoment⟩ | ⟨hday, hstart⟩
    · refine ⟨ofText?_value_of_second hlayout hmoment, by simp [hsecond], fun _ => ?_⟩
      rcases second_of_moment? hlayout hmoment with ⟨hfraction, p, hp⟩
      exact ⟨hfraction, layout, hlayout, p, hp⟩
    · exact ⟨ofText?_value_of_day hstart, fun _ => Layout.clock_of_dayStart? hstart,
        by simp [hday]⟩

/-- A leap second with blanks before the day and before the time, and the forms from behind. -/
theorem readers_agree_leap_second :
    let t : DateTime := ⟨⟨2016, 12, 31, by decide⟩, ⟨23, 59, 59, 1000000000, by decide⟩⟩
    let s := " 2016-12-31 \t 23:59:60"
    ofText? s = some ⟨t, .second⟩ ∧ DateTime.ofText? s = some t ∧ t.clock.fraction = 0 ∧
      (∃ p, read? dayBlankTime s.toList = some p ∧ p.second = 60) ∧
      forms.reverse.findSome? (fun form => form s.toList) = some ⟨t, .second⟩ ∧
      DateTime.forms.reverse.findSome? (fun form => form (trimList s.toList)) = some t := by
  intro t s
  have hread : ofText? s = some ⟨t, .second⟩ := by decide +kernel
  rcases readers_agree s with ⟨hpairwise, horder, horder', hagree⟩
  rcases hagree _ hread with ⟨hvalue, _, hsecond⟩
  rcases hsecond rfl with ⟨hfraction, layout, hlayout, p, hp, _, hleap⟩
  have hblank : read? dayTTime s.toList = none := by decide +kernel
  have hdayBlankTime : layout = dayBlankTime := by
    simp only [List.mem_cons, List.not_mem_nil, or_false] at hlayout
    rcases hlayout with rfl | rfl
    · rfl
    · simp [hblank] at hp
  subst hdayBlankTime
  refine ⟨hread, hvalue, hfraction, ⟨p, hp, hleap.2 rfl⟩, ?_, ?_⟩
  · rw [horder _ (List.reverse_perm _), hread]
  · rw [horder' _ (List.reverse_perm _), hvalue]

end DateLiteral
end Query
end ErrorTriage
