import ErrorTriage.Proofs.Query.Opposite
import ErrorTriage.Proofs.Query.Table

/-!
# Query.Grammar — which texts are predicates, and what is wrong with the others

A predicate is a property, a condition and a value with blanks between them and around the whole.
Blanks belong to the gaps as far as they go, so no part begins or ends with one; which blanks stand
in a gap, and how many, makes no difference.  A value may be missing, or empty between its quotes,
but then it is complained of.  Of several faults of a text the first one in the order of the checks
is reported: the number of words, the condition, the property, the value, the moment.
-/

namespace ErrorTriage
namespace Query

open Text (IsWord EndsWord IsTrimmed)
open ErrorTriage.Path (AreBlanks EndsBefore)

/-! ## Words and gaps -/

/-- A property, an operator and a value stand in a text in this order, with blanks between them and
around the whole.  The value may be missing, and the blanks before it with it. -/
inductive StandIn (property operator value : List Char) : List Char → Prop where
  | mk {before gap between after : List Char} (hproperty : IsWord property)
      (hoperator : IsWord operator) (hvalue : IsTrimmed value) (hbefore : AreBlanks before)
      (hgap : AreBlanks gap) (hne : gap ≠ []) (hbetween : AreBlanks between)
      (hseparate : value ≠ [] → between ≠ []) (hafter : AreBlanks after) :
      StandIn property operator value
        (before ++ (property ++ (gap ++ (operator ++ (between ++ (value ++ after))))))

/-- Blanks, a word or none, and blanks. -/
inductive HasOneWordAtMost : List Char → Prop where
  | mk {before word after : List Char} (hbefore : AreBlanks before)
      (hword : ∀ c ∈ word, Text.isBlank c = false) (hafter : AreBlanks after) :
      HasOneWordAtMost (before ++ (word ++ after))

/-- A text has no parts exactly if it is one word at most. -/
theorem words?_eq_none_iff {cs : List Char} : words? cs = none ↔ HasOneWordAtMost cs := by
  have hsplit : words? cs = none ↔ Text.splitAtBlank (Text.trimList cs) = none := by
    simp only [words?]
    cases Text.splitAtBlank (Text.trimList cs) <;> simp
  rw [hsplit, Text.splitAtBlank_eq_none, List.any_eq_false]
  constructor
  · intro h
    rcases Text.exists_blanks_around_trimList cs with ⟨front, back, hfront, hback, hcs⟩
    rw [hcs]
    exact .mk hfront (by simpa using h) hback
  · rintro ⟨hbefore, hword, hafter⟩
    rw [Text.trimList_between hbefore hafter, (Text.isTrimmed_of_unbroken hword).trimList_eq]
    simpa using hword

/-- The blanks before a value end the operator; where no value follows, nothing or a blank does. -/
theorem endsWord_behind_operator {between value after : List Char} (hbetween : AreBlanks between)
    (hseparate : value ≠ [] → between ≠ []) (hafter : AreBlanks after) :
    EndsWord (between ++ (value ++ after)) := by
  cases between with
  | cons c rest => exact .cons (by simp [hbetween c List.mem_cons_self]) _
  | nil =>
      have hnil : value = [] := by
        by_contra hne
        exact hseparate hne rfl
      rw [hnil]
      cases after with
      | nil => exact Path.endsBefore_nil _
      | cons c rest => exact .cons (by simp [hafter c List.mem_cons_self]) _

theorem words?_of_stand {property operator value cs : List Char}
    (h : StandIn property operator value cs) : words? cs = some (property, operator, value) := by
  rcases h with ⟨hproperty, hoperator, hvalue, hbefore, hgap, hne, hbetween, hseparate, hafter⟩
  have htail := endsWord_behind_operator hbetween hseparate hafter
  rw [words?_append hbefore hproperty hgap hne hoperator htail,
    Text.trimList_between hbetween hafter, hvalue.trimList_eq]

/-- What stands before the first blank behind the property is the operator. -/
theorem operator_cases {rest operator raw : List Char} (hstarts : EndsBefore Text.isBlank rest)
    (hne : rest ≠ []) (h : (Text.splitAtBlank rest).getD (rest, []) = (operator, raw)) :
    IsWord operator ∧
      (rest = operator ∧ raw = [] ∨ ∃ c, Text.isBlank c = true ∧ rest = operator ++ c :: raw) := by
  cases hsplit : Text.splitAtBlank rest with
  | none =>
      rw [hsplit] at h
      cases h
      have hunbroken := Text.splitAtBlank_eq_none.1 hsplit
      exact ⟨⟨hne, by simpa using hunbroken⟩, .inl ⟨rfl, rfl⟩⟩
  | some parts =>
      rw [hsplit] at h
      cases h
      rcases Text.splitAtBlank_eq_some_iff.1 hsplit with ⟨c, hc, hunbroken, rfl⟩
      refine ⟨⟨?_, hunbroken⟩, .inr ⟨c, hc, rfl⟩⟩
      -- Without an operator the rest would begin with the blank.
      rintro rfl
      have hfirst : Text.isBlank c = false := hstarts c rfl
      exact absurd (hc.symm.trans hfirst) (by decide)

/-- A trimmed text does not end with the gap behind its first word. -/
theorem trimFront_ne_nil_of_isTrimmed {word rest : List Char} {c : Char}
    (h : IsTrimmed (word ++ c :: rest)) (hc : Text.isBlank c = true) :
    Text.trimFront rest ≠ [] := by
  intro hnil
  have hblanks : AreBlanks (c :: rest) :=
    List.forall_mem_cons.2 ⟨hc, Path.areBlanks_of_trimFront_eq_nil hnil⟩
  have hne : c :: rest ≠ [] := List.cons_ne_nil c rest
  have hlast := h.last ((c :: rest).getLast hne) (by
    rw [List.getLast?_append_of_ne_nil _ hne]
    exact List.getLast?_eq_some_getLast hne)
  have hblank := hblanks _ (List.getLast_mem hne)
  exact absurd (hblank.symm.trans hlast) (by decide)

theorem stand_of_words? {property operator value cs : List Char}
    (h : words? cs = some (property, operator, value)) : StandIn property operator value cs := by
  have hproperty := isWord_of_words? h
  rcases Text.exists_blanks_around_trimList cs with ⟨before, after, hbefore, hafter, hcs⟩
  simp only [words?] at h
  cases hsplit : Text.splitAtBlank (Text.trimList cs) with
  | none => simp [hsplit] at h
  | some parts =>
      rcases parts with ⟨first, rest⟩
      rcases Text.splitAtBlank_eq_some_iff.1 hsplit with ⟨c, hc, _, htext⟩
      rcases Path.exists_blanks_append_trimFront rest with ⟨blanks, hblanks, hrest⟩
      have hgap : AreBlanks (c :: blanks) := List.forall_mem_cons.2 ⟨hc, hblanks⟩
      have hne := trimFront_ne_nil_of_isTrimmed (htext ▸ Text.isTrimmed_trimList cs) hc
      have hstarts : EndsBefore Text.isBlank (Text.trimFront rest) :=
        Path.endsBefore_dropWhile Text.isBlank rest
      rcases hsecond : (Text.splitAtBlank (Text.trimFront rest)).getD (Text.trimFront rest, [])
        with ⟨second, raw⟩
      simp only [hsplit, hsecond, Option.some.injEq, Prod.mk.injEq] at h
      rcases h with ⟨rfl, rfl, rfl⟩
      rcases operator_cases hstarts hne hsecond with ⟨hoperator, ⟨hends, rfl⟩ | ⟨d, hd, hmore⟩⟩
      -- The text ends behind the operator, or goes on with the blanks before the value.
      · have hlaid :
            cs = before ++ (first ++ ((c :: blanks) ++ (second ++ ([] ++ ([] ++ after))))) := by
          rw [hcs, htext, hrest, hends]
          simp
        rw [hlaid]
        exact .mk hproperty hoperator (Text.isTrimmed_trimList []) hbefore hgap (by simp)
          Path.areBlanks_nil (fun hvalue => absurd rfl hvalue) hafter
      · rcases Text.exists_blanks_around_trimList raw with ⟨front, back, hfront, hback, hraw⟩
        have hlaid : cs = before ++ (first ++ ((c :: blanks) ++ (second ++
            ((d :: front) ++ (Text.trimList raw ++ (back ++ after)))))) := by
          have hvalue : raw ++ after = front ++ (Text.trimList raw ++ (back ++ after)) := by
            simpa using congrArg (· ++ after) hraw
          rw [hcs, htext, hrest, hmore]
          simpa using hvalue
        rw [hlaid]
        exact .mk hproperty hoperator (Text.isTrimmed_trimList raw) hbefore hgap (by simp)
          (List.forall_mem_cons.2 ⟨hd, hfront⟩) (by simp) (List.forall_mem_append.2 ⟨hback, hafter⟩)

/-- The parts that are found are those that stand in the text. -/
theorem words?_eq_some_iff {property operator value cs : List Char} :
    words? cs = some (property, operator, value) ↔ StandIn property operator value cs :=
  ⟨stand_of_words?, words?_of_stand⟩

/-! ## Values in quotes -/

theorem between?_eq_some_iff {mark : Char} {cs value : List Char} :
    between? mark cs = some value ↔ cs = mark :: (value ++ [mark]) := by
  constructor
  · intro h
    cases cs with
    | nil => cases h
    | cons c rest =>
        simp only [between?] at h
        split at h
        · next hmarks =>
            cases h
            rw [hmarks.1, List.dropLast_append_getLast?]
            exact hmarks.2
        · cases h
  · rintro rfl
    simp [between?]

/-- What a value as it is written stands for: what is between two equal quotes, or itself. -/
inductive Unquoted : List Char → List Char → Prop where
  | quoted {quote : Char} {value : List Char} :
      quote = '"' ∨ quote = '\'' → Unquoted (quote :: (value ++ [quote])) value
  | bare {value : List Char} :
      (∀ quote inner, quote = '"' ∨ quote = '\'' → value ≠ quote :: (inner ++ [quote])) →
      Unquoted value value

/-- A value is what quoting around it, if any, leaves. -/
theorem unquoted_iff {raw value : List Char} : Unquoted raw value ↔ unquote raw = value := by
  constructor
  · intro h
    cases h with
    | @quoted quote value hquote =>
        have hmarks : between? quote (quote :: (value ++ [quote])) = some value :=
          between?_eq_some_iff.2 rfl
        rcases hquote with rfl | rfl
        · rw [unquote, hmarks, Option.some_or, Option.getD_some]
        · have hdouble : between? '"' ('\'' :: (value ++ ['\''])) = none := by simp [between?]
          rw [unquote, hdouble, hmarks, Option.none_or, Option.getD_some]
    | bare hbare =>
        have hnone : ∀ quote, quote = '"' ∨ quote = '\'' → between? quote raw = none := by
          intro quote hquote
          rw [Option.eq_none_iff_forall_ne_some]
          intro inner hinner
          exact hbare quote inner hquote (between?_eq_some_iff.1 hinner)
        rw [unquote, hnone _ (.inl rfl), hnone _ (.inr rfl), Option.or_none, Option.getD_none]
  · rintro rfl
    cases hdouble : between? '"' raw with
    | some value =>
        rw [unquote, hdouble, Option.some_or, Option.getD_some, between?_eq_some_iff.1 hdouble]
        exact .quoted (.inl rfl)
    | none =>
        cases hsingle : between? '\'' raw with
        | some value =>
            rw [unquote, hdouble, hsingle, Option.none_or, Option.getD_some,
              between?_eq_some_iff.1 hsingle]
            exact .quoted (.inr rfl)
        | none =>
            rw [unquote, hdouble, hsingle, Option.or_none, Option.getD_none]
            refine .bare ?_
            rintro quote inner (rfl | rfl) rfl
            · rw [between?_eq_some_iff.2 rfl] at hdouble
              cases hdouble
            · rw [between?_eq_some_iff.2 rfl] at hsingle
              cases hsingle

/-- A condition is read off its symbol and nothing else. -/
theorem Condition.ofSymbol?_eq_some_iff {text : String} {c : Condition} :
    Condition.ofSymbol? text = some c ↔ text = c.symbol := by
  constructor
  · intro h
    simpa [eq_comm] using List.find?_some h
  · rintro rfl
    exact c.ofSymbol?_symbol

namespace Predicate

variable {table : PropertyTable} {text : String}

/-! ## Predicates -/

/-- A text as a predicate: what stands in it, with a property that the table knows and a value that
is not empty, and is a moment if the property is one. -/
structure IsWrittenAs (table : PropertyTable) (text : String) (p : Predicate) (raw : List Char) :
    Prop where
  stand : StandIn p.property.toList p.condition.symbol.toList raw text.toList
  known : p.property ∈ table.names
  present : raw ≠ []
  unquoted : Unquoted raw p.value.toList
  nonempty : p.value ≠ ""
  typed : table.typeOf? p.property = some p.type
  dated : p.IsDated

/-- A text is read as a predicate exactly if it writes it. -/
theorem read_eq_ok_iff_isWrittenAs {p : Predicate} :
    read table text = .ok p ↔ ∃ raw, IsWrittenAs table text p raw := by
  rw [read_eq_ok_iff]
  constructor
  · rintro ⟨operator, raw, hwords, hcondition, htyped, hvalue, hnonempty, hdated⟩
    have hsymbol : operator = p.condition.symbol.toList := by
      rw [← Condition.ofSymbol?_eq_some_iff.1 hcondition, String.toList_ofList]
    have hknown : p.property ∈ table.names := PropertyTable.mem_names_of_typeOf? htyped
    refine ⟨raw, words?_eq_some_iff.1 (hsymbol ▸ hwords), hknown, ?_, ?_, hnonempty, htyped, hdated⟩
    · rintro rfl
      exact hnonempty (by rw [hvalue]; rfl)
    · rw [unquoted_iff, hvalue, String.toList_ofList]
  · rintro ⟨raw, h⟩
    refine ⟨_, raw, words?_eq_some_iff.2 h.stand, ?_, h.typed, ?_, h.nonempty, h.dated⟩
    · rw [String.ofList_toList, Condition.ofSymbol?_symbol]
    · rw [unquoted_iff.1 h.unquoted, String.ofList_toList]

/-- Parts that pass every check write some predicate. -/
theorem exists_isWrittenAs {property value : String} {c : Condition} {raw : List Char}
    {type : PropertyType} (hstand : StandIn property.toList c.symbol.toList raw text.toList)
    (htype : table.typeOf? property = some type) (hpresent : raw ≠ [])
    (hunquoted : Unquoted raw value.toList) (hnonempty : value ≠ "")
    (hmoment : type = .dateTime → DateLiteral.ofText? value ≠ none) :
    ∃ p, IsWrittenAs table text p raw := by
  have hknown : property ∈ table.names := PropertyTable.mem_names_of_typeOf? htype
  cases type with
  | string =>
      exact ⟨⟨property, .string, c, value, none⟩, hstand, hknown, hpresent, hunquoted, hnonempty,
        htype, .text rfl rfl⟩
  | dateTime =>
      rcases Option.ne_none_iff_exists'.1 (hmoment rfl) with ⟨literal, hliteral⟩
      exact ⟨⟨property, .dateTime, c, value, some literal⟩, hstand, hknown, hpresent, hunquoted,
        hnonempty, htype, .moment rfl hliteral rfl⟩

/-! ## Complaints -/

/-- What is complained of in a text: the first check that fails, those before it having passed. -/
inductive Complaint (table : PropertyTable) (text : String) : PredicateError → Prop where
  | tooShort (hwords : HasOneWordAtMost text.toList) : Complaint table text (.tooShort text)
  | unknownOperator {property operator raw : List Char}
      (hstand : StandIn property operator raw text.toList)
      (hoperator : ∀ c : Condition, operator ≠ c.symbol.toList) :
      Complaint table text (.unknownOperator (String.ofList operator))
  | unknownProperty {property : String} {c : Condition} {raw : List Char}
      (hstand : StandIn property.toList c.symbol.toList raw text.toList)
      (hproperty : property ∉ table.names) :
      Complaint table text (.unknownProperty property table.names)
  | emptyValue {property : String} {c : Condition} {raw : List Char}
      (hstand : StandIn property.toList c.symbol.toList raw text.toList)
      (hproperty : property ∈ table.names) (hvalue : Unquoted raw []) :
      Complaint table text (.emptyValue property)
  | invalidDate {property value : String} {c : Condition} {raw : List Char}
      (hstand : StandIn property.toList c.symbol.toList raw text.toList)
      (hproperty : table.typeOf? property = some .dateTime)
      (hvalue : Unquoted raw value.toList) (hnonempty : value ≠ "")
      (hdate : DateLiteral.ofText? value = none) : Complaint table text (.invalidDate value)

theorem read_of_complaint {e : PredicateError} (h : Complaint table text e) :
    read table text = .error e := by
  cases h with
  | tooShort hwords => simp [read, words?_eq_none_iff.2 hwords]
  | @unknownOperator property operator raw hstand hoperator =>
      have hnone : Condition.ofSymbol? (String.ofList operator) = none := by
        rw [Option.eq_none_iff_forall_ne_some]
        intro c hc
        refine hoperator c ?_
        rw [← Condition.ofSymbol?_eq_some_iff.1 hc, String.toList_ofList]
      simp [read, words?_of_stand hstand, hnone]
  | unknownProperty hstand hproperty =>
      simp [read, words?_of_stand hstand, Condition.ofSymbol?_symbol,
        PropertyTable.typeOf?_eq_none_iff.2 hproperty]
  | emptyValue hstand hproperty hvalue =>
      rcases PropertyTable.exists_typeOf?_of_mem hproperty with ⟨type, htype⟩
      simp [read, words?_of_stand hstand, Condition.ofSymbol?_symbol, htype, unquoted_iff.1 hvalue]
  | invalidDate hstand hproperty hvalue hnonempty hdate =>
      simp [read, words?_of_stand hstand, Condition.ofSymbol?_symbol, hproperty,
        unquoted_iff.1 hvalue, hnonempty, hdate]

/-- Behind a condition and a known property only the value can be wrong: empty, or no moment. -/
theorem written_or_complaint_of_type {property : String} {c : Condition} {raw : List Char}
    {type : PropertyType} (hstand : StandIn property.toList c.symbol.toList raw text.toList)
    (htype : table.typeOf? property = some type) :
    (∃ p raw, IsWrittenAs table text p raw) ∨ ∃ e, Complaint table text e := by
  have hknown : property ∈ table.names := PropertyTable.mem_names_of_typeOf? htype
  by_cases hempty : unquote raw = []
  · exact .inr ⟨_, .emptyValue hstand hknown (unquoted_iff.2 hempty)⟩
  · have hpresent : raw ≠ [] := by
      rintro rfl
      exact hempty rfl
    have hunquoted : Unquoted raw (String.ofList (unquote raw)).toList :=
      unquoted_iff.2 String.toList_ofList.symm
    have hnonempty : String.ofList (unquote raw) ≠ "" := by simpa using hempty
    by_cases hmoment : type = .dateTime → DateLiteral.ofText? (String.ofList (unquote raw)) ≠ none
    · rcases exists_isWrittenAs hstand htype hpresent hunquoted hnonempty hmoment with ⟨p, hp⟩
      exact .inl ⟨p, raw, hp⟩
    · rcases Classical.not_imp.1 hmoment with ⟨rfl, hdate⟩
      exact .inr ⟨_, .invalidDate hstand htype hunquoted hnonempty (not_not.1 hdate)⟩

/-- A text that is no predicate is complained of. -/
theorem written_or_complaint (table : PropertyTable) (text : String) :
    (∃ p raw, IsWrittenAs table text p raw) ∨ ∃ e, Complaint table text e := by
  cases hwords : words? text.toList with
  | none => exact .inr ⟨_, .tooShort (words?_eq_none_iff.1 hwords)⟩
  | some words =>
      rcases words with ⟨property, operator, raw⟩
      have hstand := stand_of_words? hwords
      by_cases hoperator : ∃ c : Condition, operator = c.symbol.toList
      · rcases hoperator with ⟨c, rfl⟩
        rw [← String.toList_ofList (l := property)] at hstand
        cases htype : table.typeOf? (String.ofList property) with
        | none =>
            have hunknown := PropertyTable.typeOf?_eq_none_iff.1 htype
            exact .inr ⟨_, .unknownProperty hstand hunknown⟩
        | some type => exact written_or_complaint_of_type hstand htype
      · exact .inr ⟨_, .unknownOperator hstand fun c hc => hoperator ⟨c, hc⟩⟩

theorem complaint_of_read {e : PredicateError} (h : read table text = .error e) :
    Complaint table text e := by
  rcases written_or_complaint table text with ⟨p, hp⟩ | ⟨e', he'⟩
  · rw [read_eq_ok_iff_isWrittenAs.2 hp] at h
    cases h
  · rw [read_of_complaint he'] at h
    cases h
    exact he'

/-- Reading fails exactly with what there is to complain of. -/
theorem read_eq_error_iff {e : PredicateError} :
    read table text = .error e ↔ Complaint table text e :=
  ⟨complaint_of_read, read_of_complaint⟩

/-- Two texts in which the same parts stand are read alike, whatever the blanks between them. -/
theorem read_eq_of_stand {other : String} {property operator raw : List Char}
    (h : StandIn property operator raw text.toList)
    (hother : StandIn property operator raw other.toList) :
    read table text = read table other := by
  simp only [read, words?_of_stand h, words?_of_stand hother]

/-- A text reads as a predicate exactly if it is a property that the table knows, a condition and a
value with blanks between them and around the whole, of which the value is not empty, also without
its quotes, and is a moment if the property is one; the predicate has these parts.  Which blanks
stand between the parts makes no difference.  A text that does not read has one complaint, that of
the first check that it fails. -/
theorem texts_are_read_by_grammar (table : PropertyTable) (text : String) :
    ((∃ p, read table text = .ok p) ↔
      ∃ (property : String) (c : Condition) (raw : List Char) (value : String),
        StandIn property.toList c.symbol.toList raw text.toList ∧ property ∈ table.names ∧
        raw ≠ [] ∧ Unquoted raw value.toList ∧ value ≠ "" ∧
        (table.typeOf? property = some .dateTime → DateLiteral.ofText? value ≠ none)) ∧
    (∀ p, read table text = .ok p ↔ ∃ raw, IsWrittenAs table text p raw) ∧
    (∀ other property operator raw, StandIn property operator raw text.toList →
      StandIn property operator raw other.toList → read table text = read table other) ∧
    ∀ e, read table text = .error e ↔ Complaint table text e := by
  refine ⟨?_, fun p => read_eq_ok_iff_isWrittenAs, fun _ _ _ _ => read_eq_of_stand,
    fun e => read_eq_error_iff⟩
  constructor
  · rintro ⟨p, hread⟩
    rcases read_eq_ok_iff_isWrittenAs.1 hread with ⟨raw, h⟩
    refine ⟨p.property, p.condition, raw, p.value, h.stand, h.known, h.present, h.unquoted,
      h.nonempty, ?_⟩
    intro hmoment
    cases h.dated with
    | text htype _ =>
        rw [h.typed, htype] at hmoment
        cases hmoment
    | moment _ hvalue _ => simp [hvalue]
  · rintro ⟨property, c, raw, value, hstand, hknown, hpresent, hunquoted, hnonempty, hmoment⟩
    rcases PropertyTable.exists_typeOf?_of_mem hknown with ⟨type, htype⟩
    have hdate : type = .dateTime → DateLiteral.ofText? value ≠ none := by
      rintro rfl
      exact hmoment htype
    rcases exists_isWrittenAs hstand htype hpresent hunquoted hnonempty hdate with ⟨p, hp⟩
    exact ⟨p, read_eq_ok_iff_isWrittenAs.2 ⟨raw, hp⟩⟩

/-- A value that is one quote, with blanks of other kinds around the parts, and a text of which both
the condition and the property are unknown. -/
theorem texts_are_read_by_grammar_quote :
    (∃ p, read .standard "\u00a0message\u2003 ~\t\"\n" = .ok p) ∧
      read .standard "\u00a0message\u2003 ~\t\"\n" = read .standard "message ~ \"" ∧
      read .standard "colour == red" = .error (.unknownOperator "==") := by
  have hparts : StandIn "message".toList (Condition.symbol .contains).toList ['"']
      "\u00a0message\u2003 ~\t\"\n".toList := stand_of_words? (by decide +kernel)
  have hplain : StandIn "message".toList (Condition.symbol .contains).toList ['"']
      "message ~ \"".toList := stand_of_words? (by decide +kernel)
  have hfaulty : StandIn "colour".toList "==".toList "red".toList "colour == red".toList :=
    stand_of_words? (by decide +kernel)
  have htext : PropertyTable.standard.typeOf? "message" ≠ some .dateTime := by decide +kernel
  have hoperator : ∀ c : Condition, "==".toList ≠ c.symbol.toList := by
    intro c
    cases c <;> decide +kernel
  refine ⟨?_, ?_, ?_⟩
  · rw [(texts_are_read_by_grammar .standard _).1]
    exact ⟨"message", .contains, ['"'], "\"", hparts, by decide +kernel, by simp,
      unquoted_iff.2 (by decide +kernel), by decide +kernel, fun hmoment => absurd hmoment htext⟩
  · exact (texts_are_read_by_grammar .standard _).2.2.1 _ _ _ _ hparts hplain
  · rw [(texts_are_read_by_grammar .standard _).2.2.2]
    exact .unknownOperator hfaulty hoperator

end Predicate
end Query
end ErrorTriage
