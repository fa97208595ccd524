import ErrorTriage.Proofs.Literal.Moment
import ErrorTriage.Proofs.Literal.Whole

/-!
# Literal.Order — the literals of a code are in order

A literal and whatever is compared with it are converted for one code, so both are of the one kind
that belongs to the code, and the order of literals of different kinds is never asked for.  Literals
of one kind are ordered as what they hold.

A `Representation` says so of one code: what its literals hold, and an order of that.  There is none
for the three codes of doubles, where NaN has no order with anything, and none for the codes whose
values are not comparable.
-/

namespace ErrorTriage

/-! ## Literals of one code -/

/-- Whether values of a code are converted to literals of a kind. -/
def Literal.IsOf (code : TypeCode) : Literal → Prop
  | .bool _ => code = .boolean
  | .char _ => code = .char
  | .int _ => code.range?.isSome = true
  | .float _ => code = .single ∨ code = .double ∨ code = .decimal
  | .dateTime _ => code = .dateTime
  | .str _ => code = .string

/-- What a value is converted to has the kind of the code. -/
theorem Literal.isOf_of_convert? {code : TypeCode} {v : Value} {found : Literal}
    (h : convert? code v = some found) : found.IsOf code := by
  cases code with
  | empty => cases h
  | object => cases h
  | dbNull => cases h
  | single =>
      rcases Option.map_eq_some_iff.1 h with ⟨_, _, rfl⟩
      exact .inl rfl
  | double =>
      rcases Option.map_eq_some_iff.1 h with ⟨_, _, rfl⟩
      exact .inr (.inl rfl)
  | decimal =>
      rcases Option.map_eq_some_iff.1 h with ⟨_, _, rfl⟩
      exact .inr (.inr rfl)
  | _ =>
      rcases Option.map_eq_some_iff.1 h with ⟨_, _, rfl⟩
      rfl

/-- Only NaN has no place in the order. -/
theorem Binary64.compare?_eq_none_iff {x y : Binary64} :
    x.compare? y = none ↔ x = .nan ∨ y = .nan := by
  cases x <;> cases y <;> simp [compare?]

namespace Literal

/-- Two literals of one kind. -/
inductive SameKind : Literal → Literal → Prop where
  | bool (a b : Bool) : SameKind (.bool a) (.bool b)
  | char (a b : Char) : SameKind (.char a) (.char b)
  | int (a b : Int) : SameKind (.int a) (.int b)
  | float (a b : Binary64) : SameKind (.float a) (.float b)
  | dateTime (a b : DateTime) : SameKind (.dateTime a) (.dateTime b)
  | str (a b : String) : SameKind (.str a) (.str b)

variable {code : TypeCode} {found expected : Literal}

/-- To one code belongs one kind. -/
theorem IsOf.sameKind (hfound : found.IsOf code) (hexpected : expected.IsOf code) :
    found.SameKind expected := by
  cases found with
  | float x =>
      cases expected with
      | float y => exact .float x y
      | _ => rcases hfound with rfl | rfl | rfl <;> cases hexpected
  | int n =>
      cases expected with
      | int m => exact .int n m
      | float y => rcases hexpected with rfl | rfl | rfl <;> cases hfound
      | _ =>
          cases hexpected
          cases hfound
  | _ =>
      cases hfound
      cases expected <;> first | constructor | simp [IsOf, TypeCode.range?] at hexpected

/-- Literals of one code have an order unless one of them is NaN. -/
theorem order?_eq_none_iff (hfound : found.IsOf code) (hexpected : expected.IsOf code) :
    found.order? expected = none ↔ found = .float .nan ∨ expected = .float .nan := by
  cases hfound.sameKind hexpected with
  | float x y => simp [order?, Binary64.compare?_eq_none_iff]
  | _ => simp [order?]

end Literal

/-! ## Moments in order -/

instance : Ord Date := ⟨Date.order⟩

instance : Std.TransOrd Date :=
  inferInstanceAs (Std.TransCmp (compareLex (compareOn Date.year)
    (compareLex (compareOn Date.month) (compareOn Date.day))))

instance : Ord Clock := ⟨Clock.order⟩

instance : Std.TransOrd Clock :=
  inferInstanceAs (Std.TransCmp (compareLex (compareOn Clock.hour)
    (compareLex (compareOn Clock.minute)
      (compareLex (compareOn Clock.second) (compareOn Clock.nanosecond)))))

instance : Ord DateTime := ⟨DateTime.order⟩

instance : Std.TransOrd DateTime :=
  inferInstanceAs (Std.TransCmp (compareLex (compareOn DateTime.date) (compareOn DateTime.clock)))

instance : Std.LawfulEqOrd DateTime where
  compare_self := DateTime.order_eq_eq_iff.2 rfl
  eq_of_compare := DateTime.order_eq_eq_iff.1

/-! ## Representations -/

namespace Literal

/-- What the literals of a code hold.  It is totally ordered, and literals are ordered by it. -/
structure Representation (code : TypeCode) where
  Held : Type
  [order : Ord Held]
  [isTransitive : Std.TransOrd Held]
  [isLawful : Std.LawfulEqOrd Held]
  literal : Held → Literal
  /-- There are no other literals of the code. -/
  exists_held : ∀ {found : Literal}, found.IsOf code → ∃ a, found = literal a
  order?_literal : ∀ a b, (literal a).order? (literal b) = some (compare a b)

attribute [instance] Representation.order Representation.isTransitive Representation.isLawful

/-- The codes of doubles. -/
def floating : List TypeCode := [.single, .double, .decimal]

variable {code : TypeCode}

/-- Numbers of every range are ordered as whole numbers. -/
def Representation.whole (hrange : code.range?.isSome = true) : Representation code where
  Held := Int
  literal := .int
  exists_held := by
    intro found hfound
    have hkind : found.SameKind (.int 0) := hfound.sameKind hrange
    cases hkind with
    | int n _ => exact ⟨n, rfl⟩
  order?_literal := fun _ _ => rfl

/-- Every comparable code but the three floating ones holds its literals in a linear order. -/
theorem nonempty_representation (hcomparable : code.isComparable = true)
    (hexact : code ∉ floating) : Nonempty (Representation code) := by
  cases code with
  | empty => cases hcomparable
  | object => cases hcomparable
  | dbNull => cases hcomparable
  | single => simp [floating] at hexact
  | double => simp [floating] at hexact
  | decimal => simp [floating] at hexact
  | boolean =>
      refine ⟨⟨Bool, .bool, ?_, fun _ _ => rfl⟩⟩
      intro found hfound
      have hkind : found.SameKind (.bool true) := hfound.sameKind rfl
      cases hkind with
      | bool b _ => exact ⟨b, rfl⟩
  | char =>
      refine ⟨⟨Char, .char, ?_, fun _ _ => rfl⟩⟩
      intro found hfound
      have hkind : found.SameKind (.char 'a') := hfound.sameKind rfl
      cases hkind with
      | char c _ => exact ⟨c, rfl⟩
  | dateTime =>
      refine ⟨⟨DateTime, .dateTime, ?_, fun _ _ => rfl⟩⟩
      intro found hfound
      have hkind : found.SameKind (.dateTime .epoch) := hfound.sameKind rfl
      cases hkind with
      | dateTime t _ => exact ⟨t, rfl⟩
  | string =>
      refine ⟨⟨String, .str, ?_, fun _ _ => rfl⟩⟩
      intro found hfound
      have hkind : found.SameKind (.str "") := hfound.sameKind rfl
      cases hkind with
      | str s _ => exact ⟨s, rfl⟩
  | _ => exact ⟨.whole rfl⟩

end Literal

/-! ## Comparing texts -/

/-- In a total order every comparison is transitive. -/
theorem Comparison.admits_trans {α : Type} [Ord α] [Std.TransOrd α] {relation : Comparison}
    {x y z : α} (hxy : relation.admits (compare x y) = true)
    (hyz : relation.admits (compare y z) = true) : relation.admits (compare x z) = true := by
  cases relation with
  | equal =>
      simp only [admits, beq_iff_eq] at hxy hyz ⊢
      exact Std.TransCmp.eq_trans hxy hyz
  | lesser =>
      simp only [admits, beq_iff_eq] at hxy hyz ⊢
      exact Std.TransCmp.lt_trans hxy hyz
  | greater =>
      simp only [admits, beq_iff_eq] at hxy hyz ⊢
      exact Std.TransCmp.gt_trans hxy hyz
  | lesserOrEqual =>
      simp only [admits, bne_iff_ne, ← Ordering.isLE_iff_ne_gt] at hxy hyz ⊢
      exact Std.TransCmp.isLE_trans hxy hyz
  | greaterOrEqual =>
      simp only [admits, bne_iff_ne, ← Ordering.isGE_iff_ne_lt] at hxy hyz ⊢
      exact Std.TransCmp.isGE_trans hxy hyz

namespace TypedLiteral

variable {code : TypeCode} {text : String} {l : TypedLiteral}

/-- A literal holds what its text is converted to. -/
theorem value_of_read (h : read code text = .ok l) :
    l.code = code ∧ Literal.convert? code (.str text) = some l.value := by
  simp only [read] at h
  split at h
  · cases hvalue : Literal.convert? code (.str text) with
    | none => simp [hvalue] at h
    | some value =>
        have hl : ⟨code, value⟩ = l := by simpa [hvalue] using h
        subst hl
        exact ⟨rfl, rfl⟩
  · cases h

/-- Only comparable codes have literals. -/
theorem isComparable_of_read (h : read code text = .ok l) : code.isComparable = true := by
  simp only [read] at h
  split at h
  · next hcomparable => exact hcomparable
  · cases h

/-- A text that is read stands for something that the code holds. -/
theorem exists_held_of_read (r : Literal.Representation code) (h : read code text = .ok l) :
    ∃ x, l = ⟨code, r.literal x⟩ ∧ Literal.convert? code (.str text) = some (r.literal x) := by
  rcases value_of_read h with ⟨hcode, hvalue⟩
  rcases r.exists_held (Literal.isOf_of_convert? hvalue) with ⟨x, hx⟩
  refine ⟨x, ?_, hvalue.trans (congrArg some hx)⟩
  cases l
  cases hcode
  exact congrArg _ hx

/-- What is equal in order is held by one literal, and the other way round. -/
theorem compare_eq_iff_literal (r : Literal.Representation code) {x y : r.Held} :
    compare y x = .eq ↔ r.literal x = r.literal y := by
  constructor
  · intro hequal
    rw [Std.LawfulEqCmp.eq_of_compare hequal]
  · intro hsame
    have horder : some (compare y x) = some (compare y y) := by
      rw [← r.order?_literal, hsame, r.order?_literal]
    exact (Option.some.inj horder).trans Std.ReflCmp.compare_self

/-- Literals of one code have the order of what they hold. -/
theorem order?_held (r : Literal.Representation code) {v : Value} {x y : r.Held}
    (h : Literal.convert? code v = some (r.literal y)) :
    order? ⟨code, r.literal x⟩ v = some (compare y x) := by
  simp only [order?, h, Option.bind_some, r.order?_literal]

/-- A literal is of the one kind that belongs to its code and, if the code has a range, a number
inside of it, and whatever is compared with it is of this kind as well.  For a code of no doubles
the literal of one text always has an order with the other text, the same from both sides, and
equal for one literal alone; each of the five comparisons carries over from text to text. -/
theorem literals_of_codes_are_totally_ordered :
    (∀ code text l, read code text = .ok l →
      l.code = code ∧ l.value.IsOf code ∧
      (∀ low high, code.range? = some (low, high) →
        ∃ n, l.value = .int n ∧ low ≤ n ∧ n ≤ high) ∧
      ∀ v found, Literal.convert? code v = some found → found.SameKind l.value) ∧
    ∀ code, code ∉ Literal.floating →
      ∀ a b d la lb ld, read code a = .ok la → read code b = .ok lb → read code d = .ok ld →
        la.order? (.str a) = some .eq ∧
        (∃ order, la.order? (.str b) = some order ∧ lb.order? (.str a) = some order.swap ∧
          (order = .eq ↔ la = lb)) ∧
        ∀ relation : Comparison,
          (la.order? (.str b)).any relation.admits = true →
          (lb.order? (.str d)).any relation.admits = true →
            (la.order? (.str d)).any relation.admits = true := by
  constructor
  · intro code text l hread
    rcases value_of_read hread with ⟨hcode, hvalue⟩
    have hkind := Literal.isOf_of_convert? hvalue
    refine ⟨hcode, hkind, ?_, ?_⟩
    · intro low high hrange
      rcases (Literal.convert?_eq_some_iff hrange).1 hvalue with ⟨n, hn, _, hin⟩
      exact ⟨n, hn, hin⟩
    · intro v found hfound
      exact (Literal.isOf_of_convert? hfound).sameKind hkind
  · intro code hexact a b d la lb ld ha hb hd
    rcases Literal.nonempty_representation (isComparable_of_read ha) hexact with ⟨r⟩
    rcases exists_held_of_read r ha with ⟨x, rfl, hx⟩
    rcases exists_held_of_read r hb with ⟨y, rfl, hy⟩
    rcases exists_held_of_read r hd with ⟨z, rfl, hz⟩
    simp only [order?_held r hx, order?_held r hy, order?_held r hz]
    refine ⟨congrArg some Std.ReflCmp.compare_self, ⟨_, rfl, ?_, ?_⟩, ?_⟩
    · exact congrArg some Std.OrientedCmp.eq_swap
    · simp only [compare_eq_iff_literal, TypedLiteral.mk.injEq, true_and]
    · intro relation hab hbd
      simp only [Option.any_some] at hab hbd ⊢
      exact Comparison.admits_trans hbd hab

/-- A leap second, the midnight after it, and half an hour later with an offset. -/
theorem literals_of_codes_are_totally_ordered_leap_second :
    TypeCode.dateTime ∉ Literal.floating ∧
    ∃ la lb ld, read .dateTime "2016-12-31T23:59:60" = .ok la ∧
      read .dateTime " 2017-01-01 " = .ok lb ∧
      read .dateTime "2017-01-01T01:30:00+01:00" = .ok ld ∧
      la.value.IsOf .dateTime ∧
      (la.order? (.str " 2017-01-01 ")).any Comparison.greater.admits = true ∧
      (lb.order? (.str "2017-01-01T01:30:00+01:00")).any Comparison.greater.admits = true ∧
      (la.order? (.str "2017-01-01T01:30:00+01:00")).any Comparison.greater.admits = true := by
  let leap : DateTime := ⟨⟨2016, 12, 31, by decide⟩, ⟨23, 59, 59, 1000000000, by decide⟩⟩
  let midnight : DateTime := ⟨⟨2017, 1, 1, by decide⟩, .midnight⟩
  let later : DateTime := ⟨⟨2017, 1, 1, by decide⟩, ⟨0, 30, 0, 0, by decide⟩⟩
  have ha : DateTime.ofText? "2016-12-31T23:59:60" = some leap := by decide +kernel
  have hb : DateTime.ofText? " 2017-01-01 " = some midnight := by decide +kernel
  have hd : DateTime.ofText? "2017-01-01T01:30:00+01:00" = some later := by decide +kernel
  have hexact : TypeCode.dateTime ∉ Literal.floating := by decide
  have hleap : (order? ⟨.dateTime, .dateTime leap⟩ (.str " 2017-01-01 ")).any
      Comparison.greater.admits = true := by
    rw [order?_text rfl hb]
    rfl
  have hmidnight : (order? ⟨.dateTime, .dateTime midnight⟩ (.str "2017-01-01T01:30:00+01:00")).any
      Comparison.greater.admits = true := by
    rw [order?_text rfl hd]
    rfl
  rcases literals_of_codes_are_totally_ordered with ⟨hstored, hordered⟩
  have hkind := (hstored _ _ _ (read_moment ha)).2.1
  rcases hordered _ hexact _ _ _ _ _ _ (read_moment ha) (read_moment hb) (read_moment hd) with
    ⟨_, _, htransitive⟩
  exact ⟨hexact, _, _, _, read_moment ha, read_moment hb, read_moment hd, hkind, hleap, hmidnight,
    htransitive _ hleap hmidnight⟩

end TypedLiteral
end ErrorTriage
