import ErrorTriage.Proofs.Query.Opposite
import ErrorTriage.Proofs.Query.Table
import ErrorTriage.Proofs.Text.Lowercase
import ErrorTriage.Query.LogQuery

/-!
# Query.Containment — asking for a part of a text

A part of a text property is asked for by a predicate or by a search of all text properties.  Both
compare lower cases, so they find the part, in whatever case its ASCII letters are asked for, unless
a capital sigma of it ends a word in the part and not in the property, or the other way round.
-/

namespace ErrorTriage
namespace Query

open Text (KeepsSigmas SigmasBeginWords)

variable {table : PropertyTable} {property : String} {get : LogEntry → String}

/-- All ways to ask whether a value contains a text say that it does. -/
structure PropertyTable.Finds (table : PropertyTable) (entry : LogEntry)
    (property value text : String) : Prop where
  contains : compareText .contains value text = true
  notMissing : compareText .doesNotContain value text = false
  predicate : ∀ date,
    Predicate.isSatisfiedBy table ⟨property, .string, .contains, text, date⟩ entry = true
  search : table.search entry text = true

/-- A text contains another if the lower case of one is a part of that of the other. -/
theorem compareText_contains_iff {value text : String} :
    compareText .contains value text = true ↔ Text.lowercase text <:+: Text.lowercase value := by
  rw [compareText, Text.occursIn_iff_isInfix]

theorem compareText_doesNotContain (value text : String) :
    compareText .doesNotContain value text = !compareText .contains value text :=
  Predicate.compareText_opposite .contains value text

/-- A predicate on a text compares what the table reads for its property. -/
theorem Predicate.isSatisfiedBy_text (hget : table.strings.get? property = some get)
    (c : Condition) (text : String) (date : Option DateLiteral) (entry : LogEntry) :
    isSatisfiedBy table ⟨property, .string, c, text, date⟩ entry =
      compareText c (get entry) text := by
  simp [isSatisfiedBy, hget]

namespace PropertyTable

/-- Of a property that is known, all ways to ask say the same but for the search, which may find the
text in another property. -/
theorem finds_iff (hget : table.strings.get? property = some get) {entry : LogEntry}
    {text : String} :
    table.Finds entry property (get entry) text ↔
      Text.lowercase text <:+: Text.lowercase (get entry) := by
  constructor
  · intro h
    exact compareText_contains_iff.1 h.contains
  · intro h
    have hcontains := compareText_contains_iff.2 h
    have hoccurs : Text.occursIn (Text.lowercase text) (Text.lowercase (get entry)) = true :=
      Text.occursIn_iff_isInfix.2 h
    refine ⟨hcontains, ?_, ?_, ?_⟩
    · rw [compareText_doesNotContain, hcontains]
      rfl
    · intro date
      rw [Predicate.isSatisfiedBy_text hget, hcontains]
    · rw [search, Bool.or_eq_true]
      exact .inr (List.any_eq_true.2 ⟨_, Getters.mem_of_get? hget, hoccurs⟩)

/-- A part of a text property stands in lower case where it stands in the property if it keeps its
sigmas there, and then all ways to ask for it find it, whatever the case of its ASCII letters.  All
parts of a value keep their sigmas if these begin words. -/
theorem parts_are_found (hget : table.strings.get? property = some get) (entry : LogEntry) :
    (∀ (before part after : List Char) (text : String),
      (get entry).toList = before ++ (part ++ after) →
      Text.sameIgnoringAsciiCase text (String.ofList part) = true →
        (Text.lowercase text <+:
            (Text.lowercase (get entry)).drop (Text.lowercase (String.ofList before)).length ↔
          KeepsSigmas before part after) ∧
        ('Σ' ∉ part → KeepsSigmas before part after) ∧
        (KeepsSigmas before part after → table.Finds entry property (get entry) text)) ∧
    ((∀ before part after, (get entry).toList = before ++ (part ++ after) →
        KeepsSigmas before part after) ↔
      SigmasBeginWords (get entry).toList) := by
  refine ⟨?_, Text.forall_keepsSigmas_iff⟩
  intro before part after text hvalue hcase
  have hlower := Text.lowercase_eq_of_sameIgnoringAsciiCase hcase
  have hplace := Text.lowercase_part_iff hvalue
  rw [← hlower] at hplace
  refine ⟨hplace, fun hfree => Text.keepsSigmas_of_not_mem hfree before after, ?_⟩
  intro hkeeps
  have hstarts := hplace.2 hkeeps
  exact (finds_iff hget).2 (hstarts.isInfix.trans (List.drop_suffix _ _).isInfix)

/-- A part with a sigma that ends a word, asked for with another capital. -/
theorem parts_are_found_final_sigma :
    standard.strings.get? "message" = some LogEntry.message ∧
    Text.sameIgnoringAsciiCase "AΣ" (String.ofList ['a', 'Σ']) = true ∧
    KeepsSigmas [] ['a', 'Σ'] [' ', 'b'] ∧
    standard.Finds { message := "aΣ b" } "message" "aΣ b" "AΣ" := by
  have hget : standard.strings.get? "message" = some LogEntry.message := rfl
  have hcase : Text.sameIgnoringAsciiCase "AΣ" (String.ofList ['a', 'Σ']) = true := by
    decide +kernel
  have hblank : Text.leadsToCased [' ', 'b'] = false :=
    Text.leadsToCased_cons_ascii (by decide) (by decide) _
  have hkeeps : KeepsSigmas [] ['a', 'Σ'] [' ', 'b'] := by
    refine Text.forall_split_cons_iff.2 ⟨by decide, Text.forall_split_cons_iff.2 ⟨?_, by simp⟩⟩
    intro _
    simp [Text.endsWord, hblank, Text.leadsToCased_nil]
  rcases parts_are_found hget { message := "aΣ b" } with ⟨hparts, _⟩
  have hvalue : "aΣ b".toList = [] ++ (['a', 'Σ'] ++ [' ', 'b']) := by decide +kernel
  exact ⟨hget, hcase, hkeeps, (hparts _ _ _ _ hvalue hcase).2.2 hkeeps⟩

/-- An entry with a capital sigma inside a word. -/
def sigmaEntry : LogEntry := { message := "aΣb" }

theorem leadsToCased_letter_a (cs : List Char) : Text.leadsToCased ('a' :: cs) = true :=
  Text.leadsToCased_cons_ascii (by decide) (by decide) cs

/-- At the end of a word the sigma takes its final form. -/
theorem lowercase_final_sigma : Text.lowercase "aΣ" = ['a', 'ς'] := by
  simp [Text.lowercase, Text.lowercaseAfter, leadsToCased_letter_a, Text.leadsToCased_nil,
    Text.lowercaseChar]

/-- Inside a word the sigma takes its usual form. -/
theorem lowercase_inner_sigma : Text.lowercase "aΣb" = ['a', 'σ', 'b'] := by
  have hb : Text.leadsToCased ['b'] = true :=
    Text.leadsToCased_cons_ascii (by decide) (by decide) _
  simp [Text.lowercase, Text.lowercaseAfter, leadsToCased_letter_a, hb, Text.lowercaseChar]

/-- What a message begins with is not found in it. -/
theorem part_up_to_sigma_is_not_found :
    "aΣb".toList = [] ++ ("aΣ".toList ++ "b".toList) ∧
    compareText .contains sigmaEntry.message "aΣ" = false ∧
    compareText .doesNotContain sigmaEntry.message "aΣ" = true ∧
    Predicate.isSatisfiedBy standard ⟨"message", .string, .contains, "aΣ", none⟩ sigmaEntry =
      false ∧
    standard.search sigmaEntry "aΣ" = false := by
  have hget : standard.strings.get? "message" = some LogEntry.message := rfl
  have hcontains : compareText .contains sigmaEntry.message "aΣ" = false := by
    rw [compareText, sigmaEntry, lowercase_final_sigma, lowercase_inner_sigma]
    decide
  have hvalues : ∀ row ∈ standard.strings, row.2 sigmaEntry = "aΣb" ∨ row.2 sigmaEntry = "" ∨
      row.2 sigmaEntry = "0" := by decide +kernel
  have hempty : Text.lowercase "" = [] := rfl
  have hzero : Text.lowercase "0" = ['0'] := by
    simp [Text.lowercase, Text.lowercaseAfter, Text.lowercaseChar]
  -- The message is the only property with more than one character.
  have hnone : ∀ row ∈ standard.strings,
      ¬ Text.occursIn (Text.lowercase "aΣ") (Text.lowercase (row.2 sigmaEntry)) = true := by
    intro row hrow
    rw [lowercase_final_sigma]
    rcases hvalues row hrow with h | h | h
    · rw [h, lowercase_inner_sigma]
      decide
    · rw [h, hempty]
      decide
    · rw [h, hzero]
      decide
  refine ⟨by decide +kernel, hcontains, ?_, ?_, ?_⟩
  · rw [compareText_doesNotContain, hcontains]
    rfl
  · rw [Predicate.isSatisfiedBy_text hget, hcontains]
  · rw [search, List.any_eq_false.2 hnone]
    decide

end PropertyTable
end Query
end ErrorTriage
