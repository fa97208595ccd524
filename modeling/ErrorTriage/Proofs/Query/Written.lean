import ErrorTriage.Proofs.Query.Opposite
import ErrorTriage.Proofs.Query.Table

/-!
# Query.Written — predicates as text

A predicate is written with its value in double quotes.  The quotes are the ends of the value, so
nothing is trimmed off it and one pair of quotes is taken off again, whatever the value holds:
blanks at its ends, quotes, line breaks, or conditions.  What reads back as itself are the
predicates that can be read at all.
-/

namespace ErrorTriage
namespace Query

open Text (IsWord)

/-! ## Values in quotes -/

theorem between?_marks (mark : Char) (cs : List Char) :
    between? mark (mark :: (cs ++ [mark])) = some cs := by
  simp [between?]

/-- Quoting is taken off again. -/
theorem unquote_quoted (cs : List Char) : unquote ('"' :: (cs ++ ['"'])) = cs := by
  simp [unquote, between?_marks]

/-- Nothing is trimmed off a quoted text. -/
theorem trimList_quoted (cs : List Char) :
    Text.trimList ('"' :: (cs ++ ['"'])) = '"' :: (cs ++ ['"']) := by
  have hmark : IsWord ['"'] := by decide
  -- The marks are no blanks, so trimming stops at them whatever stands between.
  refine Text.trimList_eq_self ?_ ?_
  · simpa using hmark.endsBefore (cs ++ ['"'])
  · simpa using hmark.trimBack_append ('"' :: cs)

namespace Predicate

variable {table : PropertyTable}

/-! ## Predicates that can be written -/

/-- The parts of a predicate fit together and can be told apart in a text: the property is a word
that the table knows with its type, the value is not empty, and the moment is that of the value. -/
structure IsWritable (table : PropertyTable) (p : Predicate) : Prop where
  word : IsWord p.property.toList
  typed : table.typeOf? p.property = some p.type
  nonempty : p.value ≠ ""
  dated : p.IsDated

/-- What was read can be written. -/
theorem isWritable_of_read {text : String} {p : Predicate} (h : read table text = .ok p) :
    p.IsWritable table := by
  rcases read_eq_ok_iff.1 h with ⟨_, _, hwords, _, htyped, _, hnonempty, hdated⟩
  exact ⟨isWord_of_words? hwords, htyped, hnonempty, hdated⟩

/-- A rendered predicate is written with its value in quotes. -/
theorem render_eq_written (p : Predicate) :
    p.render = written p.property p.condition ("\"" ++ p.value ++ "\"") := by
  simp [render, written, ← String.toList_inj]

/-- The parts of a rendered predicate are its own, with the value in quotes. -/
theorem words?_render {p : Predicate} (h : IsWord p.property.toList) :
    words? p.render.toList =
      some (p.property.toList, p.condition.symbol.toList, '"' :: (p.value.toList ++ ['"'])) := by
  have hvalue : ("\"" ++ p.value ++ "\"").toList = '"' :: (p.value.toList ++ ['"']) := by simp
  rw [render_eq_written, words?_written h, hvalue, trimList_quoted]

/-- A predicate that can be written is read back. -/
theorem IsWritable.read_render {p : Predicate} (h : p.IsWritable table) :
    read table p.render = .ok p := by
  refine read_eq_ok_iff.2 ⟨_, _, words?_render h.word, ?_, h.typed, ?_, h.nonempty, h.dated⟩
  · rw [String.ofList_toList, Condition.ofSymbol?_symbol]
  · rw [unquote_quoted, String.ofList_toList]

/-- A property that is known, a condition and a value that is not empty, and for moments is one,
are written as a text that reads as these three.  What was read from any text is read again from
the text that it is written as. -/
theorem rendered_predicates_read_back (table : PropertyTable) :
    (∀ property ∈ table.names, IsWord property.toList →
      ∀ (c : Condition) (value : String), value ≠ "" →
        (table.typeOf? property = some .dateTime → DateLiteral.ofText? value ≠ none) →
        ∃ type date,
          read table (property ++ " " ++ c.symbol ++ " \"" ++ value ++ "\"") =
            .ok ⟨property, type, c, value, date⟩ ∧
          table.typeOf? property = some type ∧
          (type = .dateTime → date = DateLiteral.ofText? value ∧ date ≠ none) ∧
          (type = .string → date = none)) ∧
    ∀ text p, read table text = .ok p → read table p.render = .ok p := by
  constructor
  · intro property hmem hword c value hvalue hmoment
    rcases PropertyTable.exists_typeOf?_of_mem hmem with ⟨type, htype⟩
    -- Only the value of a moment has to be one.
    cases type with
    | string =>
        have hwritable : IsWritable table ⟨property, .string, c, value, none⟩ :=
          ⟨hword, htype, hvalue, .text rfl rfl⟩
        exact ⟨.string, none, hwritable.read_render, htype, by simp, by simp⟩
    | dateTime =>
        rcases Option.ne_none_iff_exists'.1 (hmoment htype) with ⟨literal, hliteral⟩
        have hwritable : IsWritable table ⟨property, .dateTime, c, value, some literal⟩ :=
          ⟨hword, htype, hvalue, .moment rfl hliteral rfl⟩
        exact ⟨.dateTime, some literal, hwritable.read_render, htype, by simp [hliteral], by simp⟩
  · intro text p hread
    exact (isWritable_of_read hread).read_render

/-- A value that is one quote with blanks around it, and one that is a condition in quotes. -/
theorem rendered_predicates_read_back_quotes :
    (∃ p, read .standard "message !~ \" \" \"" = .ok p ∧ p.value = " \" ") ∧
      ∃ p, read .standard "user = '\"!~\"'" = .ok p ∧ read .standard p.render = .ok p ∧
        p.value = "\"!~\"" := by
  rcases rendered_predicates_read_back .standard with ⟨hwritten, hread⟩
  constructor
  · have hknown : "message" ∈ PropertyTable.standard.names := by decide +kernel
    have hword : IsWord "message".toList := by decide +kernel
    have htext : PropertyTable.standard.typeOf? "message" ≠ some .dateTime := by decide +kernel
    rcases hwritten _ hknown hword .doesNotContain " \" " (by decide +kernel)
      (fun h => absurd h htext) with ⟨_, _, hmessage, _⟩
    exact ⟨_, hmessage, rfl⟩
  · have hvalue : value? ((read .standard "user = '\"!~\"'").map Predicate.value) =
        some "\"!~\"" := by decide +kernel
    rcases map_eq_ok_iff.1 (value?_eq_some_iff.1 hvalue) with ⟨p, hp, hpvalue⟩
    exact ⟨p, hp, hread _ p hp, hpvalue⟩

end Predicate
end Query
end ErrorTriage
