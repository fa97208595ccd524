import ErrorTriage.Text.Blank
import ErrorTriage.Text.Category
import ErrorTriage.Text.Property

/-!
# Letter — letters and numbers of all scripts

`isAlphabetic` is the Unicode property Alphabetic and `isAlphanumeric` adds the three categories
of numbers.  Below code point 128 the two are the ASCII letters and digits, and no white space is
among them.  Both are decided without a table, so that they also compute inside a proof.
-/

namespace ErrorTriage
namespace Text

/-- Letters of every script, with the marks and numbers that count as letters. -/
def isAlphabetic (c : Char) : Bool :=
  if c.toNat < 128 then c.isAlpha else !isBlank c && Property.alphabetic.contains c.toNat

/-- Letters and numbers of every script. -/
def isAlphanumeric (c : Char) : Bool :=
  isAlphabetic c || (!isBlank c && isNumber c)

theorem isAlphanumeric_of_isAlphabetic {c : Char} (h : isAlphabetic c = true) :
    isAlphanumeric c = true := by
  simp [isAlphanumeric, h]

/-- No blank is a letter, in whatever script. -/
theorem isAlphabetic_of_isBlank {c : Char} (h : isBlank c = true) : isAlphabetic c = false := by
  unfold isAlphabetic
  split
  · next hascii =>
      -- The ASCII blanks are the control characters 9 to 13 and the space.
      have hblank : 9 ≤ c.toNat ∧ c.toNat ≤ 13 ∨ c.toNat = 32 := by
        simp only [isBlank, Bool.or_eq_true, Bool.and_eq_true, decide_eq_true_eq, beq_iff_eq] at h
        omega
      have hupper : ¬(65 ≤ c.toNat ∧ c.toNat ≤ 90) := by omega
      have hlower : (decide (97 ≤ c.toNat) && decide (c.toNat ≤ 122)) = false := by
        rw [Bool.and_eq_false_iff, decide_eq_false_iff_not, decide_eq_false_iff_not]
        omega
      exact Bool.or_eq_false_iff.2 ⟨decide_eq_false hupper, hlower⟩
  · simp [h]

theorem isAlphanumeric_of_isBlank {c : Char} (h : isBlank c = true) :
    isAlphanumeric c = false := by
  simp [isAlphanumeric, isAlphabetic_of_isBlank h, h]

end Text
end ErrorTriage
