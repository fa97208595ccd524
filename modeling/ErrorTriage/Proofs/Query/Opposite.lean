import ErrorTriage.Proofs.Query.Reading
import ErrorTriage.Proofs.Outcome

/-!
# Query.Opposite — a condition and its opposite divide a log

Two of the four conditions are the opposites of the other two.  Of what a predicate is read as only
the condition depends on the condition, so a property and a value can be asked about in both ways
or in none; and of the two predicates exactly one is satisfied by an entry.  Reading and matching
look a property up in the same table, so nothing that was read with a table is unknown to it.
-/

namespace ErrorTriage
namespace Query

open Text (IsWord EndsWord)
open ErrorTriage.Path (AreBlanks)

/-! ## The words of a predicate -/

/-- Blanks before the property, after it and around the value do not count. -/
theorem words?_append {front property gap operator tail : List Char} (hfront : AreBlanks front)
    (hproperty : IsWord property) (hgap : AreBlanks gap) (hne : gap ≠ [])
    (hoperator : IsWord operator) (htail : EndsWord tail) :
    words? (front ++ (property ++ (gap ++ (operator ++ tail)))) =
      some (property, operator, Text.trimList tail) := by
  have hfixed : Text.trimBack (property ++ (gap ++ operator)) = property ++ (gap ++ operator) := by
    simpa using hoperator.trimBack_append (property ++ gap)
  have htrim : Text.trimList (front ++ (property ++ (gap ++ (operator ++ tail)))) =
      property ++ (gap ++ (operator ++ Text.trimBack tail)) := by
    rw [Text.trimList, Path.trimFront_append hfront (hproperty.endsBefore _)]
    simpa using Text.trimBack_append_of_trimmed hfixed tail
  have hvalue : Text.trimList tail = Text.trimList (Text.trimBack tail) :=
    (Text.trimList_trimBack tail).symm
  have hends : EndsWord (Text.trimBack tail) := htail.trimBack
  cases gap with
  | nil => exact absurd rfl hne
  | cons g gs =>
      rcases List.forall_mem_cons.1 hgap with ⟨hg, hgs⟩
      rw [words?, htrim, List.cons_append, Text.splitAtBlank_append hproperty.unbroken hg]
      simp only [Path.trimFront_append hgs (hoperator.endsBefore _), hvalue]
      -- What is left of the tail is nothing, or the blank that ends the operator and the value.
      cases hrest : Text.trimBack tail with
      | nil => simp [Text.splitAtBlank_of_unbroken hoperator.unbroken]
      | cons c more =>
          have hc : Text.isBlank c = true := (hrest ▸ hends).isBlank_head
          simp [Text.splitAtBlank_append hoperator.unbroken hc, Text.trimList_cons_of_isBlank hc]

namespace Condition

/-- The condition that is met where another one is not. -/
def opposite : Condition → Condition
  | .equals => .notEquals
  | .notEquals => .equals
  | .contains => .doesNotContain
  | .doesNotContain => .contains

/-- Each condition is read off its symbol again. -/
theorem ofSymbol?_symbol (c : Condition) : ofSymbol? c.symbol = some c := by
  cases c <;> rfl

theorem isWord_symbol (c : Condition) : IsWord c.symbol.toList := by
  cases c <;> decide +kernel

end Condition

namespace Predicate

/-- A predicate as it is written, with one blank between its words. -/
def written (property : String) (c : Condition) (value : String) : String :=
  property ++ " " ++ c.symbol ++ " " ++ value

/-- The parts of a written predicate are found again, the value without the blanks around it. -/
theorem words?_written {property : String} (h : IsWord property.toList) (c : Condition)
    (value : String) :
    words? (written property c value).toList =
      some (property.toList, c.symbol.toList, Text.trimList value.toList) := by
  have hblank : Text.isBlank ' ' = true := by decide
  have hgap : AreBlanks [' '] := by
    intro d hd
    rwa [List.mem_singleton.1 hd]
  have htail : EndsWord (' ' :: value.toList) := .cons (by simp [hblank]) _
  have htext : (written property c value).toList =
      [] ++ (property.toList ++ ([' '] ++ (c.symbol.toList ++ ' ' :: value.toList))) := by
    simp [written]
  rw [htext, words?_append Path.areBlanks_nil h hgap (by simp) c.isWord_symbol htail,
    Text.trimList_cons_of_isBlank hblank]

/-! ## Reading -/

variable {table : PropertyTable}

/-- Another condition makes no other difference to what is read, or to why nothing is. -/
theorem read_written_with {property : String} (h : IsWord property.toList) (c other : Condition)
    (value : String) :
    read table (written property other value) =
      (read table (written property c value)).map fun p => { p with condition := other } := by
  simp only [read, words?_written h, String.ofList_toList, Condition.ofSymbol?_symbol]
  cases table.typeOf? property with
  | none => rfl
  | some type =>
      simp only
      split
      · rfl
      · cases type with
        | string => rfl
        | dateTime =>
            simp only
            split <;> rfl

/-- What matching looks up for a predicate is there: the property, in the part of the table that its
type names, and the moment of a predicate on moments. -/
inductive IsGrounded (table : PropertyTable) (p : Predicate) : Prop where
  | text {get : LogEntry → String} (htype : p.type = .string)
      (hget : table.strings.get? p.property = some get) : IsGrounded table p
  | moment {get : LogEntry → DateTime} {literal : DateLiteral} (htype : p.type = .dateTime)
      (hget : table.dateTimes.get? p.property = some get) (hdate : p.date = some literal) :
      IsGrounded table p

theorem exists_text_of_typeOf? {name : String} (h : table.typeOf? name = some .string) :
    ∃ get, table.strings.get? name = some get := by
  simp only [PropertyTable.typeOf?] at h
  split at h
  · next hstring => exact Option.isSome_iff_exists.1 hstring
  · split at h <;> cases h

theorem exists_moment_of_typeOf? {name : String} (h : table.typeOf? name = some .dateTime) :
    ∃ get, table.dateTimes.get? name = some get := by
  simp only [PropertyTable.typeOf?] at h
  split at h
  · cases h
  · split at h
    · next hmoment => exact Option.isSome_iff_exists.1 hmoment
    · cases h

/-- Matching finds all that it looks up for a predicate that was read. -/
theorem isGrounded_of_read {text : String} {p : Predicate} (h : read table text = .ok p) :
    p.IsGrounded table := by
  rcases read_eq_ok_iff.1 h with ⟨_, _, _, _, htyped, _, _, hdated⟩
  cases hdated with
  | text htype hdate =>
      rcases exists_text_of_typeOf? (htype ▸ htyped) with ⟨get, hget⟩
      exact .text htype hget
  | moment htype hvalue hdate =>
      rcases exists_moment_of_typeOf? (htype ▸ htyped) with ⟨get, hget⟩
      exact .moment htype hget hdate

/-! ## Matching -/

/-- Of two opposite conditions on texts exactly one holds. -/
theorem compareText_opposite (c : Condition) (actual expected : String) :
    compareText c.opposite actual expected = !compareText c actual expected := by
  cases c <;> simp [compareText, Condition.opposite, bne]

/-- Of two opposite conditions on moments exactly one holds. -/
theorem compareDate_opposite (c : Condition) (actual : DateTime) (expected : DateLiteral) :
    compareDate c.opposite actual expected = !compareDate c actual expected := by
  cases c <;> simp [compareDate, Condition.opposite]

/-- A property that is known satisfies a condition or its opposite. -/
theorem isSatisfiedBy_opposite {p : Predicate} (h : p.IsGrounded table) (entry : LogEntry) :
    isSatisfiedBy table { p with condition := p.condition.opposite } entry =
      !p.isSatisfiedBy table entry := by
  cases h with
  | text htype hget => simp [isSatisfiedBy, htype, hget, compareText_opposite]
  | moment htype hget hdate => simp [isSatisfiedBy, htype, hget, hdate, compareDate_opposite]

theorem occursIn_self (cs : List Char) : Text.occursIn cs cs = true := by
  cases cs <;> simp [Text.occursIn]

/-- Equal texts contain each other. -/
theorem compareText_contains_of_equals {actual expected : String}
    (h : compareText .equals actual expected = true) :
    compareText .contains actual expected = true := by
  simp only [compareText, beq_iff_eq] at h ⊢
  rw [h, occursIn_self]

/-- Leaving out the fraction of a second does not leave the day. -/
theorem compareDate_contains_of_equals {actual : DateTime} {expected : DateLiteral}
    (h : compareDate .equals actual expected = true) :
    compareDate .contains actual expected = true := by
  cases hprecision : expected.granularity with
  | day => simpa [compareDate, hprecision] using h
  | second =>
      have hsecond : actual.wholeSecond = expected.value := by
        simpa [compareDate, hprecision] using h
      simp [compareDate, ← hsecond, DateTime.wholeSecond]

/-- What satisfies `=` satisfies `~`, on texts and on moments. -/
theorem isSatisfiedBy_contains_of_equals {p : Predicate} (h : p.IsGrounded table)
    {entry : LogEntry}
    (hequals : isSatisfiedBy table { p with condition := .equals } entry = true) :
    isSatisfiedBy table { p with condition := .contains } entry = true := by
  cases h with
  | text htype hget =>
      simp only [isSatisfiedBy, htype, hget, Option.any_some] at hequals ⊢
      exact compareText_contains_of_equals hequals
  | moment htype hget hdate =>
      simp only [isSatisfiedBy, htype, hget, hdate, Option.any_some] at hequals ⊢
      exact compareDate_contains_of_equals hequals

/-! ## The division of a log -/

/-- What is read with one condition is read with any other as well. -/
theorem read_written_of_ok {property value : String} {c : Condition} {p : Predicate}
    (hproperty : IsWord property.toList) (h : read table (written property c value) = .ok p)
    (other : Condition) :
    read table (written property other value) = .ok { p with condition := other } := by
  rw [read_written_with hproperty c other, h]
  rfl

/-- A written condition is the one that is read. -/
theorem condition_of_read_written {property value : String} {c : Condition} {p : Predicate}
    (hproperty : IsWord property.toList) (h : read table (written property c value) = .ok p) :
    p.condition = c := by
  have hsame : p = { p with condition := c } :=
    Except.ok.inj (h.symm.trans (read_written_of_ok hproperty h c))
  rw [hsame]

/-- A property and a value are read with a condition and with its opposite or fail in both cases
with one error; if they are read, both predicates are known to the table and each entry satisfies
exactly one of them.  What equals a value contains it. -/
theorem opposite_conditions_divide (table : PropertyTable) {property : String}
    (hproperty : IsWord property.toList) (value : String) :
    (∀ c : Condition,
      (∃ e, read table (written property c value) = .error e ∧
        read table (written property c.opposite value) = .error e) ∨
      ∃ p q, read table (written property c value) = .ok p ∧
        read table (written property c.opposite value) = .ok q ∧
        p.IsGrounded table ∧ q.IsGrounded table ∧
        ∀ entry, q.isSatisfiedBy table entry = !p.isSatisfiedBy table entry) ∧
    ∀ p, read table (written property .equals value) = .ok p →
      ∃ q, read table (written property .contains value) = .ok q ∧
        ∀ entry, p.isSatisfiedBy table entry = true → q.isSatisfiedBy table entry = true := by
  constructor
  · intro c
    cases hread : read table (written property c value) with
    | error e =>
        refine .inl ⟨e, rfl, ?_⟩
        rw [read_written_with hproperty c c.opposite, hread]
        rfl
    | ok p =>
        have hgrounded := isGrounded_of_read hread
        have hopposite := read_written_of_ok hproperty hread c.opposite
        refine .inr ⟨p, _, rfl, hopposite, hgrounded, isGrounded_of_read hopposite, ?_⟩
        intro entry
        have hcondition : p.condition = c := condition_of_read_written hproperty hread
        simpa only [hcondition] using isSatisfiedBy_opposite hgrounded entry
  · intro p hread
    have hcondition : p.condition = .equals := condition_of_read_written hproperty hread
    refine ⟨_, read_written_of_ok hproperty hread .contains, ?_⟩
    intro entry hequals
    refine isSatisfiedBy_contains_of_equals (isGrounded_of_read hread) ?_
    rwa [← hcondition]

/-- A day in quotes, asked about in the standard table. -/
theorem opposite_conditions_divide_day :
    IsWord "date-time".toList ∧
    ∃ p q r, read .standard (written "date-time" .contains " '2024-02-29' ") = .ok p ∧
      read .standard (written "date-time" .doesNotContain " '2024-02-29' ") = .ok q ∧
      read .standard (written "date-time" .equals " '2024-02-29' ") = .ok r ∧
      ∀ entry, q.isSatisfiedBy .standard entry = !p.isSatisfiedBy .standard entry ∧
        (r.isSatisfiedBy .standard entry = true → p.isSatisfiedBy .standard entry = true) := by
  have hproperty : IsWord "date-time".toList := by decide +kernel
  have hread : (failure? (read .standard (written "date-time" .contains " '2024-02-29' "))).isNone =
      true := by decide +kernel
  rcases opposite_conditions_divide .standard hproperty " '2024-02-29' " with ⟨hopposite, hequals⟩
  rcases hopposite .contains with ⟨e, hfails, _⟩ | ⟨p, q, hp, hq, _, _, hdivides⟩
  · simp [hfails] at hread
  · have hr := read_written_of_ok hproperty hp .equals
    rcases hequals _ hr with ⟨_, hp', hcontains⟩
    have hsame := Except.ok.inj (hp.symm.trans hp')
    refine ⟨hproperty, p, q, _, hp, hq, hr, ?_⟩
    intro entry
    exact ⟨hdivides entry, hsame ▸ hcontains entry⟩

end Predicate
end Query
end ErrorTriage
