import ErrorTriage.Literal.Typed
import ErrorTriage.Proofs.Text.Words

/-!
# Literal.Whole — whole numbers are compared exactly

A literal of one of the eight codes for whole numbers is a number inside the range of its code, and
a value is ordered against it exactly if the value rounds to a number inside that range.  `IsWhole`
names the values that are whole numbers without any rounding: numbers, truth values and numerals.
Two of them for one number are never told apart, and a number outside of the range is not brought
into it: it has no order.

Doubles are left to `Literal.whole?`, which rounds them.  What is said about wider codes holds for
them as for all other values, since a code takes part in a comparison with its range alone.
-/

namespace ErrorTriage

open ErrorTriage.Path (AreBlanks)

/-! ## Values that are whole numbers -/

/-- The values that are a whole number: the number itself, a truth value for one and zero, and a
numeral with blanks around it. -/
inductive Value.IsWhole : Value → Int → Prop where
  | int (n : Int) : IsWhole (.int n) n
  | bool (b : Bool) : IsWhole (.bool b) (if b then 1 else 0)
  | numeral {front numeral back : List Char} {n : Int} (hfront : AreBlanks front)
      (hnumeral : Integer.Denotes numeral n) (hback : AreBlanks back) :
      IsWhole (.str (String.ofList (front ++ (numeral ++ back)))) n

/-- A numeral is one word. -/
theorem Integer.Denotes.isWord {numeral : List Char} {n : Int} (h : Denotes numeral n) :
    Text.IsWord numeral := by
  refine ⟨?_, Path.denotes_isBlank_eq_false h⟩
  rcases Path.numeral_head h with ⟨c, tail, rfl, _⟩
  exact List.cons_ne_nil c tail

/-- A text is whole if it is a numeral between blanks. -/
theorem Value.isWhole_str_iff {s : String} {n : Int} :
    Value.IsWhole (.str s) n ↔ Integer.Denotes (Text.trimList s.toList) n := by
  constructor
  · intro h
    cases h with
    | numeral hfront hnumeral hback =>
        rw [String.toList_ofList, hnumeral.isWord.trimList_between hfront hback]
        exact hnumeral
  · intro h
    rcases Text.exists_blanks_around_trimList s.toList with ⟨front, back, hfront, hback, hs⟩
    have hwhole := Value.IsWhole.numeral hfront h hback
    rwa [← hs, String.ofList_toList] at hwhole

/-- A number and the text that it is written as are the same whole number. -/
theorem Value.isWhole_toString (n : Int) : Value.IsWhole (.str (toString n)) n := by
  have hdenotes := Integer.denotes_toString n
  refine Value.isWhole_str_iff.2 ?_
  have htrim := hdenotes.isWord.trimList_between Path.areBlanks_nil Path.areBlanks_nil
  rw [List.nil_append, List.append_nil] at htrim
  rwa [htrim]

namespace Literal

/-! ## Conversion -/

/-- Every whole value is read as its number. -/
theorem whole?_of_isWhole {v : Value} {n : Int} (h : v.IsWhole n) : whole? v = some n := by
  cases v with
  | str s => exact Integer.read?_eq_some_iff.2 (Value.isWhole_str_iff.1 h)
  | int m =>
      cases h
      rfl
  | bool b =>
      cases h
      rfl
  | _ => cases h

/-- Only numerals are read as whole numbers. -/
theorem isWhole_of_whole? {s : String} {n : Int} (h : whole? (.str s) = some n) :
    Value.IsWhole (.str s) n :=
  Value.isWhole_str_iff.2 (Integer.read?_eq_some_iff.1 h)

theorem within?_eq_some_iff {low high n m : Int} :
    within? (low, high) n = some m ↔ n = m ∧ low ≤ n ∧ n ≤ high := by
  simp only [within?]
  split
  · next hin => simp [hin]
  · next hout => simp [hout]

variable {code : TypeCode} {low high : Int}

/-- Conversion to a whole code is one unbounded reading and one check of the range. -/
theorem convert?_of_range (hrange : code.range? = some (low, high)) (v : Value) :
    convert? code v = ((whole? v).bind (within? (low, high))).map .int := by
  simp only [convert?, hrange]

/-- A whole code holds exactly the whole numbers in its range. -/
theorem convert?_eq_some_iff (hrange : code.range? = some (low, high)) {v : Value}
    {found : Literal} :
    convert? code v = some found ↔
      ∃ n, found = .int n ∧ whole? v = some n ∧ low ≤ n ∧ n ≤ high := by
  rw [convert?_of_range hrange, Option.map_eq_some_iff]
  constructor
  · rintro ⟨n, hbind, rfl⟩
    rcases Option.bind_eq_some_iff.1 hbind with ⟨m, hwhole, hwithin⟩
    rcases within?_eq_some_iff.1 hwithin with ⟨rfl, hin⟩
    exact ⟨m, rfl, hwhole, hin⟩
  · rintro ⟨n, rfl, hwhole, hin⟩
    exact ⟨n, Option.bind_eq_some_iff.2 ⟨n, hwhole, within?_eq_some_iff.2 ⟨rfl, hin⟩⟩, rfl⟩

end Literal

namespace TypedLiteral

variable {code : TypeCode} {low high : Int}

/-! ## Literals of a code -/

theorem isComparable_of_range (hrange : code.range? = some (low, high)) :
    code.isComparable = true := by
  cases code <;> first | rfl | cases hrange

/-- The literals of a code are the numerals of the numbers inside its range. -/
theorem read_eq_ok_iff_isWhole (hrange : code.range? = some (low, high)) {text : String}
    {l : TypedLiteral} :
    read code text = .ok l ↔
      ∃ m, l = ⟨code, .int m⟩ ∧ Value.IsWhole (.str text) m ∧ low ≤ m ∧ m ≤ high := by
  simp only [read, if_pos (isComparable_of_range hrange)]
  constructor
  · intro h
    cases hvalue : Literal.convert? code (.str text) with
    | none => simp [hvalue] at h
    | some value =>
        have hl : ⟨code, value⟩ = l := by simpa [hvalue] using h
        rcases (Literal.convert?_eq_some_iff hrange).1 hvalue with ⟨m, rfl, hwhole, hin⟩
        exact ⟨m, hl.symm, Literal.isWhole_of_whole? hwhole, hin⟩
  · rintro ⟨m, rfl, hwhole, hin⟩
    have hvalue : Literal.convert? code (.str text) = some (.int m) :=
      (Literal.convert?_eq_some_iff hrange).2 ⟨m, rfl, Literal.whole?_of_isWhole hwhole, hin⟩
    simp [hvalue]

/-! ## Comparing -/

/-- An order is given for the values that round to a number inside the range of the code. -/
theorem order?_eq_some_iff (hrange : code.range? = some (low, high)) {m : Int} {v : Value}
    {order : Ordering} :
    order? ⟨code, .int m⟩ v = some order ↔
      ∃ n, Literal.whole? v = some n ∧ (low ≤ n ∧ n ≤ high) ∧ order = compare n m := by
  simp only [order?, Option.bind_eq_some_iff, Literal.convert?_eq_some_iff hrange]
  constructor
  · rintro ⟨_, ⟨n, rfl, hwhole, hin⟩, horder⟩
    exact ⟨n, hwhole, hin, (Option.some.inj horder).symm⟩
  · rintro ⟨n, hwhole, hin, rfl⟩
    exact ⟨.int n, ⟨n, rfl, hwhole, hin⟩, rfl⟩

/-- In its range a whole value has the order of its number; out of range it has none. -/
theorem order?_of_isWhole (hrange : code.range? = some (low, high)) (m : Int) {v : Value}
    {n : Int} (hv : v.IsWhole n) :
    order? ⟨code, .int m⟩ v = if low ≤ n ∧ n ≤ high then some (compare n m) else none := by
  have hwhole := Literal.whole?_of_isWhole hv
  split
  · next hin => exact (order?_eq_some_iff hrange).2 ⟨n, hwhole, hin, rfl⟩
  · next hout =>
    rw [Option.eq_none_iff_forall_ne_some]
    intro order horder
    -- The value rounds to its own number only, and that one is outside.
    rcases (order?_eq_some_iff hrange).1 horder with ⟨found, hfound, hin, _⟩
    have hsame : found = n := Option.some.inj (hfound.symm.trans hwhole)
    exact hout (hsame ▸ hin)

/-- The literals of one of the codes for whole numbers are the numerals of the numbers inside its
range.  A value that is a whole number is ordered against them as that number is, if the number lies
inside the range, and has no order otherwise; no value has an order that is not that of a number
inside the range.  A wider code accepts the same texts and gives the same orders. -/
theorem whole_numbers_compare_exactly (hrange : code.range? = some (low, high)) :
    (∀ text l, read code text = .ok l ↔
      ∃ m, l = ⟨code, .int m⟩ ∧ Value.IsWhole (.str text) m ∧ low ≤ m ∧ m ≤ high) ∧
    (∀ text l, read code text = .ok l → ∃ m, l.value = .int m ∧
      (∀ v n, v.IsWhole n →
        l.order? v = if low ≤ n ∧ n ≤ high then some (compare n m) else none) ∧
      (∀ n, l.order? (.str (toString n)) = l.order? (.int n)) ∧
      ∀ v order, l.order? v = some order →
        ∃ n, Literal.whole? v = some n ∧ (low ≤ n ∧ n ≤ high) ∧ order = compare n m) ∧
    ∀ wider lower upper, wider.range? = some (lower, upper) → lower ≤ low → high ≤ upper →
      ∀ text l, read code text = .ok l →
        ∃ l', read wider text = .ok l' ∧ l'.value = l.value ∧
          ∀ v order, l.order? v = some order → l'.order? v = some order := by
  refine ⟨fun text l => read_eq_ok_iff_isWhole hrange, ?_, ?_⟩
  · intro text l hread
    rcases (read_eq_ok_iff_isWhole hrange).1 hread with ⟨m, rfl, _, _⟩
    refine ⟨m, rfl, fun v n hv => order?_of_isWhole hrange m hv, ?_, ?_⟩
    · intro n
      rw [order?_of_isWhole hrange m (Value.isWhole_toString n),
        order?_of_isWhole hrange m (.int n)]
    · intro v order horder
      exact (order?_eq_some_iff hrange).1 horder
  · intro wider lower upper hwider hlower hupper text l hread
    rcases (read_eq_ok_iff_isWhole hrange).1 hread with ⟨m, rfl, hwhole, hin⟩
    have hm : lower ≤ m ∧ m ≤ upper := ⟨Int.le_trans hlower hin.1, Int.le_trans hin.2 hupper⟩
    refine ⟨⟨wider, .int m⟩, ?_, rfl, ?_⟩
    · exact (read_eq_ok_iff_isWhole hwider).2 ⟨m, rfl, hwhole, hm⟩
    · intro v order horder
      rcases (order?_eq_some_iff hrange).1 horder with ⟨n, hn, hnin, rfl⟩
      have hnwider : lower ≤ n ∧ n ≤ upper :=
        ⟨Int.le_trans hlower hnin.1, Int.le_trans hnin.2 hupper⟩
      exact (order?_eq_some_iff hwider).2 ⟨n, hn, hnwider, rfl⟩

/-- A numeral with a sign and zeros as a byte and as an unsigned number of 64 bits, against a number
that is too large for a byte and a numeral of the negative zero. -/
theorem whole_numbers_compare_exactly_byte :
    TypeCode.byte.range? = some (0, 255) ∧
    ∃ l l', read .byte " +007 " = .ok l ∧ read .uint64 " +007 " = .ok l' ∧
      l.order? (.int 256) = none ∧ l.order? (.str "-0") = some .lt ∧
      l'.order? (.str "-0") = some .lt := by
  have hrange : TypeCode.byte.range? = some (0, 255) := rfl
  have hseven : Value.IsWhole (.str " +007 ") 7 := Literal.isWhole_of_whole? (by decide +kernel)
  have hzero : Value.IsWhole (.str "-0") 0 := Literal.isWhole_of_whole? (by decide +kernel)
  rcases whole_numbers_compare_exactly hrange with ⟨hread, hcompare, hwider⟩
  have hbyte := (hread " +007 " _).2 ⟨7, rfl, hseven, by decide, by decide⟩
  rcases hcompare _ _ hbyte with ⟨m, hm, horder, _⟩
  have hsame : m = 7 := (Literal.int.inj hm).symm
  subst hsame
  have hless := horder _ _ hzero
  rcases hwider .uint64 _ _ rfl (by decide) (by decide) _ _ hbyte with ⟨l', hl', _, hkeeps⟩
  exact ⟨hrange, _, l', hbyte, hl', horder _ _ (.int 256), hless, hkeeps _ _ hless⟩

end TypedLiteral
end ErrorTriage
