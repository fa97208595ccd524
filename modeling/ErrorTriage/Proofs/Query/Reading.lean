import ErrorTriage.Proofs.Text.Words
import ErrorTriage.Query.Predicate

/-!
# Query.Reading — what a text that reads as a predicate is made of

`read_eq_ok_iff` undoes the reader step by step: the three words, the condition, the type of the
property, the value without its quotes and, of predicates on moments, the moment that the value
is.  Whatever was read has these parts, so later proofs never open the reader again.
-/

namespace ErrorTriage
namespace Query

open Text (IsWord)

/-- The first word of a predicate is a word. -/
theorem isWord_of_words? {cs property operator raw : List Char}
    (h : words? cs = some (property, operator, raw)) : IsWord property := by
  simp only [words?] at h
  cases hsplit : Text.splitAtBlank (Text.trimList cs) with
  | none => simp [hsplit] at h
  | some parts =>
      rcases parts with ⟨first, rest⟩
      simp only [hsplit, Option.some.injEq, Prod.mk.injEq] at h
      rcases h with ⟨rfl, _⟩
      rcases Text.splitAtBlank_eq_some_iff.1 hsplit with ⟨c, hc, hunbroken, htext⟩
      refine ⟨?_, hunbroken⟩
      -- A trimmed text does not begin with the blank that ends its first word.
      rintro rfl
      have hfirst : Text.isBlank c = false := Text.endsBefore_trimList cs c (by simp [htext])
      exact absurd (hc.symm.trans hfirst) (by decide)

namespace Predicate

variable {table : PropertyTable}

/-- The moment of a predicate is the one that its value is, if the property is a moment; otherwise
there is none. -/
inductive IsDated (p : Predicate) : Prop where
  | text (htype : p.type = .string) (hdate : p.date = none) : IsDated p
  | moment {literal : DateLiteral} (htype : p.type = .dateTime)
      (hvalue : DateLiteral.ofText? p.value = some literal) (hdate : p.date = some literal) :
      IsDated p

/-- A text reads as a predicate if the parts of the predicate are what the reader finds in it. -/
theorem read_eq_ok_iff {text : String} {p : Predicate} :
    read table text = .ok p ↔
      ∃ operator raw, words? text.toList = some (p.property.toList, operator, raw) ∧
        Condition.ofSymbol? (String.ofList operator) = some p.condition ∧
        table.typeOf? p.property = some p.type ∧
        p.value = String.ofList (unquote raw) ∧ p.value ≠ "" ∧ p.IsDated := by
  constructor
  -- Forwards, every step of the reader has to have answered for the predicate to be there.
  · intro h
    simp only [read] at h
    cases hwords : words? text.toList with
    | none => simp [hwords] at h
    | some words =>
        rcases words with ⟨property, operator, raw⟩
        simp only [hwords] at h
        cases hcondition : Condition.ofSymbol? (String.ofList operator) with
        | none => simp [hcondition] at h
        | some c =>
            simp only [hcondition] at h
            cases htype : table.typeOf? (String.ofList property) with
            | none => simp [htype] at h
            | some type =>
                simp only [htype] at h
                split at h
                · cases h
                · next hvalue =>
                    have hne : String.ofList (unquote raw) ≠ "" := by
                      simpa [String.isEmpty_iff] using hvalue
                    refine ⟨operator, raw, ?_⟩
                    cases type with
                    | string =>
                        cases h
                        exact ⟨by simp, hcondition, htype, rfl, hne, .text rfl rfl⟩
                    | dateTime =>
                        simp only at h
                        cases hdate : DateLiteral.ofText? (String.ofList (unquote raw)) with
                        | none => simp [hdate] at h
                        | some literal =>
                            simp only [hdate] at h
                            cases h
                            exact ⟨by simp, hcondition, htype, rfl, hne, .moment rfl hdate rfl⟩
  -- Backwards, each part says what the next step of the reader answers.
  · rintro ⟨operator, raw, hwords, hcondition, htype, hvalue, hne, hdated⟩
    have hnonempty : (String.ofList (unquote raw)).isEmpty = false := by
      simpa [← hvalue, String.isEmpty_iff] using hne
    simp only [read, hwords, String.ofList_toList, hcondition, htype, hnonempty]
    rcases p with ⟨property, type, c, value, date⟩
    simp only at hvalue
    subst hvalue
    cases hdated with
    | text htype' hdate =>
        simp only at htype' hdate
        subst htype' hdate
        rfl
    | moment htype' hliteral hdate =>
        simp only at htype' hliteral hdate
        subst htype' hdate
        simp [hliteral]

end Predicate
end Query
end ErrorTriage
