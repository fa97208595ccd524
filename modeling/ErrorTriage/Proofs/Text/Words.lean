import ErrorTriage.Proofs.Path.Grammar
import Mathlib.Data.List.DropRight

/-!
# Text.Words — trimming and splitting texts that are written in parts

How the blanks at the ends of a text come off when the text is put together from parts, where its
first word ends, and what stands between the occurrences of a separator.
-/

namespace ErrorTriage
namespace Text

open ErrorTriage.Path (AreBlanks EndsBefore)

/-! ## Trimming -/

theorem trimBack_eq_rdropWhile (cs : List Char) : trimBack cs = cs.rdropWhile isBlank := rfl

theorem trimBack_trimBack (cs : List Char) : trimBack (trimBack cs) = trimBack cs :=
  List.rdropWhile_idempotent isBlank cs

theorem trimFront_cons_of_isBlank {c : Char} (h : isBlank c = true) (rest : List Char) :
    trimFront (c :: rest) = trimFront rest := by
  simp [trimFront, h]

theorem trimFront_cons_of_not_isBlank {c : Char} (h : isBlank c = false) (rest : List Char) :
    trimFront (c :: rest) = c :: rest := by
  simp [trimFront, h]

/-- The front of a text is trimmed at its back only if everything behind it is trimmed away. -/
theorem trimBack_append (front back : List Char) :
    trimBack (front ++ back) =
      if trimBack back = [] then trimBack front else front ++ trimBack back := by
  simp only [trimBack, List.reverse_append, List.dropWhile_append, List.isEmpty_iff,
    List.reverse_eq_nil_iff]
  split
  · rfl
  · simp

/-- Behind a part that ends without a blank only the other part is trimmed. -/
theorem trimBack_append_of_trimmed {front : List Char} (h : trimBack front = front)
    (back : List Char) : trimBack (front ++ back) = front ++ trimBack back := by
  rw [trimBack_append]
  split
  · next hback => rw [hback, h, List.append_nil]
  · rfl

/-- The two ends of a text are trimmed independently. -/
theorem trimFront_trimBack (cs : List Char) :
    trimFront (trimBack cs) = trimBack (trimFront cs) := by
  induction cs with
  | nil => rfl
  | cons c rest ih =>
      have hsplit := trimBack_append [c] rest
      rw [List.singleton_append] at hsplit
      cases hc : isBlank c with
      | true =>
          have hgone : trimBack [c] = [] := by simp [trimBack, hc]
          rw [trimFront_cons_of_isBlank hc, ← ih, hsplit]
          split
          · next hrest => rw [hgone, hrest]
          · exact trimFront_cons_of_isBlank hc _
      | false =>
          have htrimmed : trimBack [c] = [c] := by simp [trimBack, hc]
          rw [trimFront_cons_of_not_isBlank hc]
          rw [← List.singleton_append, trimBack_append_of_trimmed htrimmed]
          exact trimFront_cons_of_not_isBlank hc _

theorem trimList_trimBack (cs : List Char) : trimList (trimBack cs) = trimList cs := by
  rw [trimList, trimFront_trimBack, trimBack_trimBack, trimList]

theorem endsBefore_trimList (cs : List Char) : EndsBefore isBlank (trimList cs) := by
  rw [trimList, ← trimFront_trimBack]
  exact Path.endsBefore_dropWhile isBlank _

theorem trimFront_eq_self {cs : List Char} (h : EndsBefore isBlank cs) : trimFront cs = cs := by
  simpa using Path.trimFront_append Path.areBlanks_nil h

/-- A text without blanks at its ends is trimmed already. -/
theorem trimList_eq_self {cs : List Char} (hfront : EndsBefore isBlank cs)
    (hback : trimBack cs = cs) : trimList cs = cs := by
  rw [trimList, trimFront_eq_self hfront, hback]

theorem trimList_trimList (cs : List Char) : trimList (trimList cs) = trimList cs :=
  trimList_eq_self (endsBefore_trimList cs) (trimBack_trimBack _)

theorem trimList_cons_of_isBlank {c : Char} (h : isBlank c = true) (rest : List Char) :
    trimList (c :: rest) = trimList rest := by
  rw [trimList, trimFront_cons_of_isBlank h, trimList]

theorem trimBack_of_areBlanks {back : List Char} (h : AreBlanks back) : trimBack back = [] :=
  List.rdropWhile_eq_nil_iff.2 h

/-- Blanks in front are trimmed whatever comes behind them. -/
theorem trimFront_blanks_append {front : List Char} (h : AreBlanks front) (rest : List Char) :
    trimFront (front ++ rest) = trimFront rest :=
  List.dropWhile_append_of_pos h

/-- Blanks around a text do not outlast the trimming. -/
theorem trimList_between {front back : List Char} (hfront : AreBlanks front)
    (hback : AreBlanks back) (middle : List Char) :
    trimList (front ++ (middle ++ back)) = trimList middle := by
  have hgone : trimBack back = [] := trimBack_of_areBlanks hback
  rw [trimList, trimFront_blanks_append hfront, ← trimFront_trimBack, trimBack_append,
    if_pos hgone, trimFront_trimBack, trimList]

/-- What is trimmed off the two ends of a text are blanks. -/
theorem exists_blanks_around_trimList (cs : List Char) :
    ∃ front back, AreBlanks front ∧ AreBlanks back ∧ cs = front ++ (trimList cs ++ back) := by
  rcases Path.exists_blanks_append_trimFront cs with ⟨front, hfront, hcs⟩
  rcases Path.exists_blanks_append_trimFront (trimFront cs).reverse with ⟨back, hback, hrest⟩
  have hreverse : trimFront cs = trimList cs ++ back.reverse := by
    have hsame := congrArg List.reverse hrest
    rwa [List.reverse_reverse, List.reverse_append] at hsame
  refine ⟨front, back.reverse, hfront, ?_, ?_⟩
  · intro c hc
    exact hback c (List.mem_reverse.1 hc)
  · rw [← hreverse]
    exact hcs

/-- Neither the first character nor the last one is a blank. -/
structure IsTrimmed (cs : List Char) : Prop where
  first : ∀ c ∈ cs.head?, isBlank c = false
  last : ∀ c ∈ cs.getLast?, isBlank c = false

/-- A trimmed text is one that has no blank at either end. -/
theorem isTrimmed_trimList (cs : List Char) : IsTrimmed (trimList cs) := by
  refine ⟨endsBefore_trimList cs, ?_⟩
  intro c hc
  have hne : trimList cs ≠ [] := by
    intro hnil
    simp [hnil] at hc
  rw [List.getLast?_eq_some_getLast hne, Option.mem_some_iff] at hc
  rw [← hc]
  exact Bool.eq_false_iff.2 (List.rdropWhile_last_not isBlank (trimFront cs) hne)

theorem IsTrimmed.trimList_eq {cs : List Char} (h : IsTrimmed cs) : trimList cs = cs := by
  refine trimList_eq_self h.first (List.rdropWhile_eq_self_iff.2 ?_)
  intro hne
  simp [h.last _ (List.getLast?_eq_some_getLast hne)]

theorem isTrimmed_of_unbroken {cs : List Char} (h : ∀ c ∈ cs, isBlank c = false) :
    IsTrimmed cs :=
  ⟨fun c hc => h c (List.mem_of_mem_head? hc), fun c hc => h c (List.mem_of_getLast? hc)⟩

instance (cs : List Char) : Decidable (AreBlanks cs) :=
  decidable_of_iff (cs.all isBlank = true) (by simp [AreBlanks])

/-! ## Words -/

/-- One or more characters, none of which is a blank. -/
structure IsWord (cs : List Char) : Prop where
  nonempty : cs ≠ []
  unbroken : ∀ c ∈ cs, isBlank c = false

theorem isWord_iff {cs : List Char} :
    IsWord cs ↔ (!cs.isEmpty && cs.all fun c => !isBlank c) = true := by
  constructor
  · intro h
    simpa [h.nonempty] using h.unbroken
  · intro h
    rcases Bool.and_eq_true_iff.1 h with ⟨hnonempty, hunbroken⟩
    exact ⟨by simpa using hnonempty, by simpa using hunbroken⟩

instance (cs : List Char) : Decidable (IsWord cs) := decidable_of_iff _ isWord_iff.symm

/-- The text is used up or goes on with a blank. -/
def EndsWord (rest : List Char) : Prop := EndsBefore (fun c => !isBlank c) rest

theorem IsWord.endsBefore {word : List Char} (h : IsWord word) (rest : List Char) :
    EndsBefore isBlank (word ++ rest) := by
  cases word with
  | nil => exact absurd rfl h.nonempty
  | cons c more => exact .cons (h.unbroken c List.mem_cons_self) _

theorem IsWord.trimBack_eq {word : List Char} (h : IsWord word) : trimBack word = word :=
  List.rdropWhile_eq_self_iff.2 fun hne => by simp [h.unbroken _ (List.getLast_mem hne)]

/-- Nothing is trimmed off a text that ends in a word. -/
theorem IsWord.trimBack_append {word : List Char} (h : IsWord word) (front : List Char) :
    trimBack (front ++ word) = front ++ word := by
  rw [Text.trimBack_append, h.trimBack_eq, if_neg h.nonempty]

/-- A word is what is left when the blanks around it are trimmed. -/
theorem IsWord.trimList_between {word : List Char} (h : IsWord word) {front back : List Char}
    (hfront : AreBlanks front) (hback : AreBlanks back) :
    trimList (front ++ (word ++ back)) = word := by
  have hends : EndsBefore isBlank word := by simpa using h.endsBefore []
  rw [Text.trimList_between hfront hback, trimList_eq_self hends h.trimBack_eq]

theorem splitAtBlank_of_unbroken {word : List Char} (h : ∀ c ∈ word, isBlank c = false) :
    splitAtBlank word = none := by
  simpa [splitAtBlank_eq_none] using h

/-- A word is split off at the blank behind it. -/
theorem splitAtBlank_append {word : List Char} (h : ∀ c ∈ word, isBlank c = false) {c : Char}
    (hc : isBlank c = true) (rest : List Char) :
    splitAtBlank (word ++ c :: rest) = some (word, rest) := by
  induction word with
  | nil => simp [splitAtBlank, hc]
  | cons d more ih =>
      rcases List.forall_mem_cons.1 h with ⟨hd, hmore⟩
      simp [splitAtBlank, hd, ih hmore]

/-- What stands before the first blank has none. -/
theorem splitAtBlank_eq_some_iff {cs word rest : List Char} :
    splitAtBlank cs = some (word, rest) ↔
      ∃ c, isBlank c = true ∧ (∀ d ∈ word, isBlank d = false) ∧ cs = word ++ c :: rest := by
  constructor
  · intro h
    induction cs generalizing word with
    | nil => cases h
    | cons c more ih =>
        simp only [splitAtBlank] at h
        split at h
        · next hc =>
            cases h
            exact ⟨c, hc, by simp, rfl⟩
        · next hc =>
            rcases Option.map_eq_some_iff.1 h with ⟨⟨part, tail⟩, hsplit, heq⟩
            cases heq
            rcases ih hsplit with ⟨d, hd, hpart, rfl⟩
            exact ⟨d, hd, List.forall_mem_cons.2 ⟨by simpa using hc, hpart⟩, rfl⟩
  · rintro ⟨c, hc, hword, rfl⟩
    exact splitAtBlank_append hword hc rest

theorem EndsWord.isBlank_head {c : Char} {rest : List Char} (h : EndsWord (c :: rest)) :
    isBlank c = true := by
  simpa using h c rfl

/-- What ends a word still does once it is trimmed. -/
theorem EndsWord.trimBack {rest : List Char} (h : EndsWord rest) : EndsWord (trimBack rest) := by
  rcases List.rdropWhile_prefix isBlank rest with ⟨dropped, hdropped⟩
  cases htrimmed : Text.trimBack rest with
  | nil => exact Path.endsBefore_nil _
  | cons c more =>
      have hrest : c :: (more ++ dropped) = rest := by
        rw [← hdropped, ← trimBack_eq_rdropWhile, htrimmed, List.cons_append]
      have hc : isBlank c = true := (hrest ▸ h).isBlank_head
      exact .cons (by simp [hc]) more

/-! ## Pieces between separators -/

/-- Splitting at a separator is that of the library. -/
theorem splitAt_eq_splitOn (separator : Char) (cs : List Char) :
    splitAt separator cs = cs.splitOn separator := by
  induction cs with
  | nil => simp [splitAt, List.splitOn_nil]
  | cons c rest ih =>
      simp only [splitAt, ih, List.splitOn_cons_eq_if_modifyHead, beq_iff_eq]
      cases hpieces : rest.splitOn separator with
      | nil => exact absurd hpieces (List.splitOn_ne_nil separator rest)
      | cons piece pieces => by_cases hc : c = separator <;> simp [hc]

/-- No piece holds the separator. -/
theorem not_mem_of_mem_splitAt {separator : Char} {cs piece : List Char}
    (h : piece ∈ splitAt separator cs) : separator ∉ piece := by
  induction cs generalizing piece with
  | nil =>
      have hpiece : piece = [] := by simpa [splitAt] using h
      simp [hpiece]
  | cons c rest ih =>
      simp only [splitAt] at h
      split at h
      · next hnil => exact absurd hnil (splitAt_ne_nil separator rest)
      · next first pieces hpieces =>
        simp only [hpieces] at ih
        split at h
        · -- The separator opens an empty piece.
          rcases List.mem_cons.1 h with rfl | hpiece
          · exact List.not_mem_nil
          · exact ih hpiece
        · next hc =>
          rcases List.mem_cons.1 h with rfl | hpiece
          · have hfirst : separator ∉ first := ih List.mem_cons_self
            simp [hfirst, Ne.symm hc]
          · exact ih (List.mem_cons_of_mem first hpiece)

end Text
end ErrorTriage
