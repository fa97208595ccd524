import ErrorTriage.Path.Reader
import ErrorTriage.Proofs.Number.Integer
import Mathlib.Data.List.TakeWhile

/-!
# Path.Grammar — the texts that are paths, and the steps that they denote

`PathText` is the grammar: blanks, an optional name, accessors, blanks.  The reader accepts the
texts of the grammar and no others, with the steps that the grammar assigns to them.  It reads
greedily, so the proof of completeness has to know where each part ends: nothing that may follow a
name continues it, and nothing that may follow a number is a digit.
-/

namespace ErrorTriage
namespace Path

/-! ## The grammar -/

/-- Blanks only, or nothing. -/
def AreBlanks (cs : List Char) : Prop := ∀ c ∈ cs, Text.isBlank c = true

inductive IsName : List Char → Prop where
  | mk {first : Char} {rest : List Char} :
      isNameStart first = true → (∀ c ∈ rest, isNamePart c = true) → IsName (first :: rest)

/-- An index: a text in quotes that does not contain its own quote, or a numeral of 64 bits. -/
inductive IndexText : List Char → Index → Prop where
  | quoted {quote : Char} {text : List Char} :
      quote = '\'' ∨ quote = '"' → quote ∉ text →
      IndexText (quote :: (text ++ [quote])) (.str (String.ofList text))
  | whole {numeral : List Char} {n : Int} :
      Integer.Denotes numeral n → Integer.min64 ≤ n → n ≤ Integer.max64 →
      IndexText numeral (.int n)

/-- The two pairs of brackets. -/
inductive Brackets : Char → Char → Prop where
  | square : Brackets '[' ']'
  | round : Brackets '(' ')'

/-- What the reader looks at in a bracket that opens an index. -/
theorem Brackets.opening_cases {opening closing : Char} (h : Brackets opening closing) :
    opening ≠ '.' ∧ (opening = '[' ∨ opening = '(') ∧
      (if opening = '[' then ']' else ')') = closing := by
  cases h with
  | square => exact ⟨by decide, .inl rfl, rfl⟩
  | round => exact ⟨by decide, .inr rfl, rfl⟩

theorem brackets_of_opening {c : Char} (h : c = '[' ∨ c = '(') :
    Brackets c (if c = '[' then ']' else ')') := by
  rcases h with rfl | rfl
  · exact .square
  · exact .round

/-- One accessor: a point and a name, or an index in brackets, with blanks just inside of them. -/
inductive AccessorText : List Char → Step → Prop where
  | member {name : List Char} :
      IsName name → AccessorText ('.' :: name) (.member (String.ofList name))
  | index {opening closing : Char} {before body after : List Char} {i : Index} :
      Brackets opening closing → AreBlanks before → IndexText body i → AreBlanks after →
      AccessorText (opening :: (before ++ (body ++ (after ++ [closing])))) (.index i)

inductive AccessorsText : List Char → List Step → Prop where
  | nil : AccessorsText [] []
  | cons {accessor rest : List Char} {step : Step} {steps : List Step} :
      AccessorText accessor step → AccessorsText rest steps →
      AccessorsText (accessor ++ rest) (step :: steps)

/-- The name that a path may start with. -/
inductive LeadText : List Char → List Step → Prop where
  | none : LeadText [] []
  | name {name : List Char} : IsName name → LeadText name [.member (String.ofList name)]

inductive PathText : List Char → List Step → Prop where
  | mk {before lead accessors after : List Char} {first others : List Step} :
      AreBlanks before → LeadText lead first → AccessorsText accessors others →
      AreBlanks after →
      PathText (before ++ (lead ++ (accessors ++ after))) (first ++ others)

/-! ## Where a part ends -/

/-- The text is used up or goes on with a character outside of a class. -/
def EndsBefore (p : Char → Bool) (rest : List Char) : Prop := ∀ c ∈ rest.head?, p c = false

theorem takeWhile_append_of_endsBefore {p : Char → Bool} {part rest : List Char}
    (hpart : ∀ c ∈ part, p c = true) (hrest : EndsBefore p rest) :
    (part ++ rest).takeWhile p = part := by
  simp only [List.takeWhile_append_of_pos hpart]
  cases rest with
  | nil => simp
  | cons c tail =>
      have hc : p c = false := hrest c rfl
      simp [hc]

theorem dropWhile_append_of_endsBefore {p : Char → Bool} {part rest : List Char}
    (hpart : ∀ c ∈ part, p c = true) (hrest : EndsBefore p rest) :
    (part ++ rest).dropWhile p = rest := by
  simp only [List.dropWhile_append_of_pos hpart]
  cases rest with
  | nil => simp
  | cons c tail =>
      have hc : p c = false := hrest c rfl
      simp [hc]

/-- What is left over ends the part before it. -/
theorem endsBefore_dropWhile (p : Char → Bool) (cs : List Char) :
    EndsBefore p (cs.dropWhile p) := by
  intro c hc
  cases h : p c with
  | false => rfl
  | true =>
      have := List.head?_dropWhile_not p cs
      simp_all

theorem EndsBefore.cons {p : Char → Bool} {c : Char} (h : p c = false) (rest : List Char) :
    EndsBefore p (c :: rest) := by
  intro d hd
  cases hd
  exact h

theorem endsBefore_nil (p : Char → Bool) : EndsBefore p [] := by
  intro c hc
  cases hc

theorem EndsBefore.of_imp {p q : Char → Bool} {rest : List Char} (h : EndsBefore p rest)
    (himp : ∀ c, q c = true → p c = true) : EndsBefore q rest := by
  intro c hc
  cases hq : q c with
  | false => rfl
  | true =>
      have hsame := (h c hc).symm.trans (himp c hq)
      cases hsame

/-- Where a part ends depends on the next character alone. -/
theorem EndsBefore.append_of_mem_head? {p : Char → Bool} {front back : List Char}
    (h : EndsBefore p (front ++ back)) {c : Char} (hc : c ∈ back.head?) (more : List Char) :
    EndsBefore p (front ++ c :: more) := by
  cases front with
  | nil => exact .cons (h c hc) more
  | cons d rest => exact .cons (h d rfl) _

/-! ## Blanks -/

theorem areBlanks_nil : AreBlanks [] := by
  intro c hc
  cases hc

theorem areBlanks_takeWhile (cs : List Char) : AreBlanks (cs.takeWhile Text.isBlank) := by
  intro c hc
  exact List.mem_takeWhile_imp hc

/-- Blanks in front are taken off, and nothing else. -/
theorem trimFront_append {blanks rest : List Char} (hblanks : AreBlanks blanks)
    (hrest : EndsBefore Text.isBlank rest) : Text.trimFront (blanks ++ rest) = rest :=
  dropWhile_append_of_endsBefore hblanks hrest

/-- What is trimmed off the front are blanks. -/
theorem exists_blanks_append_trimFront (cs : List Char) :
    ∃ blanks, AreBlanks blanks ∧ cs = blanks ++ Text.trimFront cs :=
  ⟨cs.takeWhile Text.isBlank, areBlanks_takeWhile cs, (List.takeWhile_append_dropWhile).symm⟩

theorem areBlanks_of_trimFront_eq_nil {cs : List Char} (h : Text.trimFront cs = []) :
    AreBlanks cs := by
  rcases exists_blanks_append_trimFront cs with ⟨blanks, hblanks, hcs⟩
  simp only [h, List.append_nil] at hcs
  exact hcs ▸ hblanks

theorem trimFront_eq_nil_of_areBlanks {cs : List Char} (h : AreBlanks cs) :
    Text.trimFront cs = [] := by
  simpa using trimFront_append h (endsBefore_nil Text.isBlank)

theorem isNamePart_of_isBlank {c : Char} (h : Text.isBlank c = true) : isNamePart c = false := by
  have hunderscore : c ≠ '_' := by
    rintro rfl
    revert h
    decide
  simp [isNamePart, Text.isAlphanumeric_of_isBlank h, hunderscore]

theorem isBlank_of_isNameStart {c : Char} (h : isNameStart c = true) :
    Text.isBlank c = false := by
  cases hblank : Text.isBlank c with
  | false => rfl
  | true =>
      have hpart := isNamePart_of_isNameStart h
      have hsame := (isNamePart_of_isBlank hblank).symm.trans hpart
      cases hsame

theorem isBlank_of_isDigit {c : Char} (h : c.isDigit = true) : Text.isBlank c = false := by
  have hrange : 48 ≤ c.toNat ∧ c.toNat ≤ 57 := by
    simpa [Char.isDigit, UInt32.le_iff_toNat_le] using h
  simp only [Text.isBlank, Bool.or_eq_false_iff, Bool.and_eq_false_iff, decide_eq_false_iff_not,
    beq_eq_false_iff_ne]
  omega

/-! ## Names -/

/-- A name is read back, if what follows ends it. -/
theorem takeName_append {name rest : List Char} (hname : IsName name)
    (hrest : EndsBefore isNamePart rest) :
    takeName (name ++ rest) = .ok (String.ofList name, rest) := by
  cases hname with
  | @mk first tail hfirst htail =>
      have hall : ∀ c ∈ first :: tail, isNamePart c = true := by
        intro c hc
        rcases List.mem_cons.1 hc with rfl | hc
        · exact isNamePart_of_isNameStart hfirst
        · exact htail c hc
      have htake := takeWhile_append_of_endsBefore hall hrest
      have hdrop := dropWhile_append_of_endsBefore hall hrest
      simp only [List.cons_append] at htake hdrop ⊢
      simp only [takeName, hfirst, if_true, htake, hdrop]

/-- What is read as a name is one. -/
theorem exists_name_of_takeName {cs : List Char} {name : String} {rest : List Char}
    (h : takeName cs = .ok (name, rest)) :
    ∃ text, cs = text ++ rest ∧ IsName text ∧ name = String.ofList text := by
  cases cs with
  | nil => simp [takeName] at h
  | cons c tail =>
      simp only [takeName] at h
      split at h
      · next hstart =>
          simp only [Except.ok.injEq, Prod.mk.injEq] at h
          rcases h with ⟨rfl, rfl⟩
          refine ⟨(c :: tail).takeWhile isNamePart, List.takeWhile_append_dropWhile.symm, ?_, rfl⟩
          simp only [List.takeWhile_cons_of_pos (isNamePart_of_isNameStart hstart)]
          exact .mk hstart fun d hd => List.mem_takeWhile_imp hd
      · cases h

/-! ## Indexes -/

/-- The class of digits and signs, the first characters of a numeral. -/
theorem numeral_head {numeral : List Char} {n : Int} (h : Integer.Denotes numeral n) :
    ∃ c tail, numeral = c :: tail ∧ (c.isDigit = true ∨ c = '-' ∨ c = '+') := by
  cases h with
  | unsigned hdigits =>
      cases numeral with
      | nil => exact absurd rfl hdigits.1
      | cons c tail => exact ⟨c, tail, rfl, .inl (Integer.areDigits_cons.1 hdigits).1⟩
  | plus _ => exact ⟨_, _, rfl, .inr (.inr rfl)⟩
  | minus _ => exact ⟨_, _, rfl, .inr (.inl rfl)⟩

/-- A numeral is taken as one token, if no digit follows. -/
theorem integerToken_append {numeral rest : List Char} {n : Int}
    (h : Integer.Denotes numeral n) (hrest : EndsBefore Char.isDigit rest) :
    integerToken (numeral ++ rest) = (numeral, rest) := by
  cases h with
  | unsigned hdigits =>
      have htake := takeWhile_append_of_endsBefore hdigits.2 hrest
      have hdrop := dropWhile_append_of_endsBefore hdigits.2 hrest
      cases numeral with
      | nil => exact absurd rfl hdigits.1
      | cons c tail =>
          have hc := (Integer.areDigits_cons.1 hdigits).1
          have hsign : ¬(c = '-' ∨ c = '+') := by
            rintro (rfl | rfl) <;> revert hc <;> decide
          simp only [List.cons_append] at htake hdrop ⊢
          simp only [integerToken, if_neg hsign, htake, hdrop]
  | plus hdigits =>
      simp [integerToken, takeWhile_append_of_endsBefore hdigits.2 hrest,
        dropWhile_append_of_endsBefore hdigits.2 hrest]
  | minus hdigits =>
      simp [integerToken, takeWhile_append_of_endsBefore hdigits.2 hrest,
        dropWhile_append_of_endsBefore hdigits.2 hrest]

/-- A token and the text behind it are the text. -/
theorem integerToken_fst_append_snd (cs : List Char) :
    (integerToken cs).1 ++ (integerToken cs).2 = cs := by
  cases cs with
  | nil => rfl
  | cons c rest =>
      simp only [integerToken]
      split
      · simp [List.takeWhile_append_dropWhile]
      · exact List.takeWhile_append_dropWhile

/-- No index starts with a blank. -/
theorem IndexText.endsBefore_isBlank {body rest : List Char} {i : Index} (h : IndexText body i) :
    EndsBefore Text.isBlank (body ++ rest) := by
  cases h with
  | quoted hquote _ =>
      refine .cons ?_ _
      rcases hquote with rfl | rfl <;> decide
  | whole hnumeral _ _ =>
      rcases numeral_head hnumeral with ⟨c, tail, rfl, hc⟩
      refine .cons ?_ _
      rcases hc with hc | rfl | rfl
      · exact isBlank_of_isDigit hc
      · decide
      · decide

/-- Only a number has to end before what follows it. -/
theorem takeBareIndex_append {body rest : List Char} {i : Index} (h : IndexText body i)
    (hrest : ∀ n, i = .int n → EndsBefore Char.isDigit rest) :
    takeBareIndex (body ++ rest) = .ok (i, rest) := by
  cases h with
  | @quoted quote text hquote htext =>
      have hpart : ∀ c ∈ text, decide (c ≠ quote) = true := by
        intro c hc
        exact decide_eq_true fun h => htext (h ▸ hc)
      have hend : EndsBefore (fun c => decide (c ≠ quote)) (quote :: rest) :=
        .cons (by simp) rest
      have htake := takeWhile_append_of_endsBefore hpart hend
      have hdrop := dropWhile_append_of_endsBefore hpart hend
      have hcs : quote :: (text ++ [quote]) ++ rest = quote :: (text ++ quote :: rest) := by simp
      simp only [hcs]
      simp only [takeBareIndex, if_pos hquote, hdrop, htake]
  | whole hnumeral hlow hhigh =>
      have htoken := integerToken_append hnumeral (hrest _ rfl)
      have hread := (Integer.read64_eq_ok_iff _ _).2 ⟨hnumeral, hlow, hhigh⟩
      rcases numeral_head hnumeral with ⟨c, tail, rfl, hc⟩
      have hquote : ¬(c = '\'' ∨ c = '"') := by
        rintro (rfl | rfl) <;> revert hc <;> decide
      simp only [List.cons_append] at htoken ⊢
      simp only [takeBareIndex, if_neg hquote, if_pos hc, htoken, hread]

/-- What is read as a bare index is the text of one. -/
theorem exists_body_of_takeBareIndex {cs : List Char} {i : Index} {rest : List Char}
    (h : takeBareIndex cs = .ok (i, rest)) : ∃ body, cs = body ++ rest ∧ IndexText body i := by
  cases cs with
  | nil => simp [takeBareIndex] at h
  | cons c tail =>
      simp only [takeBareIndex] at h
      split at h
      · next hquote =>
          split at h
          · cases h
          · next last tail' hdrop =>
              simp only [Except.ok.injEq, Prod.mk.injEq] at h
              rcases h with ⟨rfl, rfl⟩
              have hlast : last = c := by
                have hend := endsBefore_dropWhile (fun d => decide (d ≠ c)) tail
                simp only [hdrop] at hend
                simpa using hend last rfl
              have htext : c ∉ tail.takeWhile fun d => decide (d ≠ c) := by
                intro hmem
                simpa using List.mem_takeWhile_imp hmem
              refine ⟨_, ?_, .quoted hquote htext⟩
              have hsplit : (tail.takeWhile fun d => decide (d ≠ c)) ++ c :: tail' = tail := by
                simp only [hlast] at hdrop
                simp only [← hdrop]
                exact List.takeWhile_append_dropWhile
              simp only [List.cons_append, List.append_assoc]
              exact congrArg (c :: ·) hsplit.symm
      · split at h
        · split at h
          · next n hread =>
              simp only [Except.ok.injEq, Prod.mk.injEq] at h
              rcases h with ⟨rfl, rfl⟩
              rcases (Integer.read64_eq_ok_iff _ _).1 hread with ⟨hnumeral, hlow, hhigh⟩
              exact ⟨_, (integerToken_fst_append_snd _).symm, .whole hnumeral hlow hhigh⟩
          · cases h
        · cases h

/-- Neither blanks nor a closing bracket continue a numeral. -/
theorem endsBefore_isDigit_closing {opening closing : Char} (hbrackets : Brackets opening closing)
    {after : List Char} (hafter : AreBlanks after) (rest : List Char) :
    EndsBefore Char.isDigit (after ++ closing :: rest) := by
  cases after with
  | nil =>
      refine .cons ?_ rest
      cases hbrackets <;> decide
  | cons c tail =>
      refine .cons ?_ _
      cases hdigit : c.isDigit with
      | false => rfl
      | true =>
          have hblank := hafter c List.mem_cons_self
          have hsame := (isBlank_of_isDigit hdigit).symm.trans hblank
          cases hsame

/-- An index in brackets is read back, with blanks around it. -/
theorem takeIndex_append {opening closing : Char} (hbrackets : Brackets opening closing)
    {before body after : List Char} {i : Index} (hbefore : AreBlanks before)
    (hbody : IndexText body i) (hafter : AreBlanks after) (rest : List Char) :
    takeIndex closing (before ++ (body ++ (after ++ closing :: rest))) = .ok (i, rest) := by
  have hfront : Text.trimFront (before ++ (body ++ (after ++ closing :: rest))) =
      body ++ (after ++ closing :: rest) :=
    trimFront_append hbefore hbody.endsBefore_isBlank
  have hindex : takeBareIndex (body ++ (after ++ closing :: rest)) =
      .ok (i, after ++ closing :: rest) :=
    takeBareIndex_append hbody fun _ _ => endsBefore_isDigit_closing hbrackets hafter rest
  have hclosing : Text.isBlank closing = false := by cases hbrackets <;> decide
  have hback : Text.trimFront (after ++ closing :: rest) = closing :: rest :=
    trimFront_append hafter (.cons hclosing rest)
  simp only [takeIndex, hfront, hindex, hback, if_true]

/-- What is read as an index is the text of one, with blanks around it and the closing bracket
behind. -/
theorem exists_parts_of_takeIndex {closing : Char} {cs : List Char} {i : Index}
    {rest : List Char} (h : takeIndex closing cs = .ok (i, rest)) :
    ∃ before body after, cs = before ++ (body ++ (after ++ closing :: rest)) ∧
      AreBlanks before ∧ IndexText body i ∧ AreBlanks after := by
  rcases exists_blanks_append_trimFront cs with ⟨before, hbefore, hcs⟩
  simp only [takeIndex] at h
  split at h
  · cases h
  · next found left hbare =>
      rcases exists_body_of_takeBareIndex hbare with ⟨body, hleft, hbody⟩
      rcases exists_blanks_append_trimFront left with ⟨after, hafter, hback⟩
      split at h
      · cases h
      · next c tail htrim =>
          split at h
          · next hclose =>
              simp only [Except.ok.injEq, Prod.mk.injEq] at h
              rcases h with ⟨rfl, rfl⟩
              refine ⟨before, body, after, ?_, hbefore, hbody, hafter⟩
              simp only [← hclose, ← htrim, ← hback, ← hleft]
              exact hcs
          · cases h

/-! ## Accessors -/

theorem takeSteps_nil : takeSteps [] = .ok [] := by
  simp only [takeSteps]

theorem takeSteps_member {rest tail : List Char} {name : String}
    (h : takeName rest = .ok (name, tail)) :
    takeSteps ('.' :: rest) = (takeSteps tail).map (.member name :: ·) := by
  rw [takeSteps, if_pos rfl]
  split
  · next stop hstop =>
      have hsame := h.symm.trans hstop
      cases hsame
  · next found left hfound =>
      have hsame := h.symm.trans hfound
      cases hsame
      rfl

theorem takeSteps_index {opening closing : Char} (hbrackets : Brackets opening closing)
    {rest tail : List Char} {i : Index} (h : takeIndex closing rest = .ok (i, tail)) :
    takeSteps (opening :: rest) = (takeSteps tail).map (.index i :: ·) := by
  rcases hbrackets.opening_cases with ⟨hpoint, hopening, hclosing⟩
  simp only [takeSteps, if_neg hpoint, if_pos hopening]
  split
  · next stop hstop =>
      simp only [hclosing, h] at hstop
      cases hstop
  · next found left hfound =>
      simp only [hclosing, h] at hfound
      cases hfound
      rfl

theorem takeSteps_of_areBlanks {cs : List Char} (h : AreBlanks cs) : takeSteps cs = .ok [] := by
  cases cs with
  | nil => exact takeSteps_nil
  | cons c rest =>
      have hc : Text.isBlank c = true := h c List.mem_cons_self
      have hrest : AreBlanks rest := fun d hd => h d (List.mem_cons_of_mem c hd)
      have hpoint : c ≠ '.' := by
        rintro rfl
        revert hc
        decide
      have hopening : ¬(c = '[' ∨ c = '(') := by
        rintro (rfl | rfl) <;> revert hc <;> decide
      rw [takeSteps, if_neg hpoint, if_neg hopening, if_pos hc, trimFront_eq_nil_of_areBlanks hrest]

/-- Neither accessors nor blanks continue a name. -/
theorem endsBefore_isNamePart_accessors {accessors after : List Char} {steps : List Step}
    (h : AccessorsText accessors steps) (hafter : AreBlanks after) :
    EndsBefore isNamePart (accessors ++ after) := by
  cases h with
  | nil =>
      cases after with
      | nil => exact endsBefore_nil isNamePart
      | cons c rest => exact .cons (isNamePart_of_isBlank (hafter c List.mem_cons_self)) rest
  | cons haccessor _ =>
      cases haccessor with
      | member _ => exact .cons (by decide) _
      | index hbrackets _ _ _ => exact .cons (by cases hbrackets <;> decide) _

/-- An accessor is taken as the step that it denotes, and the reader goes on behind it. -/
theorem takeSteps_accessor {accessor rest : List Char} {step : Step}
    (h : AccessorText accessor step)
    (hrest : ∀ name, step = .member name → EndsBefore isNamePart rest) :
    takeSteps (accessor ++ rest) = (takeSteps rest).map (step :: ·) := by
  cases h with
  | member hname => exact takeSteps_member (takeName_append hname (hrest _ rfl))
  | @index opening closing before body after i hbrackets hbefore hbody hafter =>
      have htake := takeIndex_append hbrackets hbefore hbody hafter rest
      have hcs : opening :: (before ++ (body ++ (after ++ [closing]))) ++ rest =
          opening :: (before ++ (body ++ (after ++ closing :: rest))) := by
        simp
      simp only [hcs, takeSteps_index hbrackets htake]

/-- Accessors are read back, with blanks behind them. -/
theorem takeSteps_append {accessors after : List Char} {steps : List Step}
    (h : AccessorsText accessors steps) (hafter : AreBlanks after) :
    takeSteps (accessors ++ after) = .ok steps := by
  induction h with
  | nil => exact takeSteps_of_areBlanks hafter
  | cons haccessor hrest ih =>
      have hends := endsBefore_isNamePart_accessors hrest hafter
      simp only [List.append_assoc, takeSteps_accessor haccessor fun _ _ => hends, ih]
      rfl

theorem map_cons_eq_ok {ε α : Type} {a : α} {r : Except ε (List α)} {l : List α}
    (h : r.map (a :: ·) = .ok l) : ∃ rest, r = .ok rest ∧ l = a :: rest := by
  cases r with
  | error e => cases h
  | ok rest =>
      cases h
      exact ⟨rest, rfl, rfl⟩

theorem exists_takeName_of_takeSteps {rest : List Char} {steps : List Step}
    (h : takeSteps ('.' :: rest) = .ok steps) :
    ∃ name tail others, takeName rest = .ok (name, tail) ∧ takeSteps tail = .ok others ∧
      steps = .member name :: others := by
  rw [takeSteps, if_pos rfl] at h
  split at h
  · cases h
  · next name tail htake =>
      rcases map_cons_eq_ok h with ⟨others, hothers, rfl⟩
      exact ⟨name, tail, others, htake, hothers, rfl⟩

theorem exists_takeIndex_of_takeSteps {opening closing : Char} {rest : List Char}
    {steps : List Step} (hbrackets : Brackets opening closing)
    (h : takeSteps (opening :: rest) = .ok steps) :
    ∃ i tail others, takeIndex closing rest = .ok (i, tail) ∧ takeSteps tail = .ok others ∧
      steps = .index i :: others := by
  rcases hbrackets.opening_cases with ⟨hpoint, hopening, hclosing⟩
  simp only [takeSteps, if_neg hpoint, if_pos hopening] at h
  split at h
  · cases h
  · next i tail htake =>
      rcases map_cons_eq_ok h with ⟨others, hothers, rfl⟩
      exact ⟨i, tail, others, hclosing ▸ htake, hothers, rfl⟩

/-- What is read as steps is a row of accessors with blanks behind it. -/
theorem exists_accessors_of_takeSteps {cs : List Char} {steps : List Step}
    (h : takeSteps cs = .ok steps) :
    ∃ accessors after, cs = accessors ++ after ∧ AccessorsText accessors steps ∧
      AreBlanks after := by
  fun_induction takeSteps cs generalizing steps with
  | case1 =>
      cases h
      exact ⟨[], [], rfl, .nil, areBlanks_nil⟩
  | case2 rest stop hstop => cases h
  | case3 rest name tail htake ih =>
      rcases map_cons_eq_ok h with ⟨others, hothers, rfl⟩
      rcases ih hothers with ⟨accessors, after, htail, haccessors, hafter⟩
      rcases exists_name_of_takeName htake with ⟨text, hrest, hname, rfl⟩
      refine ⟨'.' :: text ++ accessors, after, ?_, .cons (.member hname) haccessors, hafter⟩
      simp only [hrest, htail]
      simp
  | case4 c rest hpoint hopening stop hstop => cases h
  | case5 c rest hpoint hopening i tail htake ih =>
      rcases map_cons_eq_ok h with ⟨others, hothers, rfl⟩
      rcases ih hothers with ⟨accessors, after, htail, haccessors, hafter⟩
      rcases exists_parts_of_takeIndex htake with
        ⟨before, body, after', hrest, hbefore, hbody, hafter'⟩
      have haccessor := AccessorText.index (brackets_of_opening hopening) hbefore hbody hafter'
      refine ⟨_, after, ?_, .cons haccessor haccessors, hafter⟩
      simp only [hrest, htail]
      simp
  | case6 c rest hpoint hopening hblank htrim =>
      cases h
      refine ⟨[], c :: rest, rfl, .nil, ?_⟩
      intro d hd
      rcases List.mem_cons.1 hd with rfl | hd
      · exact hblank
      · exact areBlanks_of_trimFront_eq_nil htrim d hd
  | case7 => cases h
  | case8 => cases h

/-! ## Paths -/

/-- Accessors start with characters that neither a blank nor a name starts with. -/
theorem accessorText_head {accessor : List Char} {step : Step} (h : AccessorText accessor step) :
    ∃ c rest, accessor = c :: rest ∧ Text.isBlank c = false ∧ isNameStart c = false := by
  cases h with
  | member _ => exact ⟨_, _, rfl, by decide, by decide⟩
  | index hbrackets _ _ _ =>
      refine ⟨_, _, rfl, ?_, ?_⟩
      · cases hbrackets <;> decide
      · cases hbrackets <;> decide

/-- Behind the name that it starts with, a path is read as accessors. -/
theorem takePath_name {before name rest : List Char} (hbefore : AreBlanks before)
    (hname : IsName name) (hrest : EndsBefore isNamePart rest) :
    takePath (before ++ (name ++ rest)) =
      (takeSteps rest).map (.member (String.ofList name) :: ·) := by
  have htake := takeName_append hname hrest
  cases hname with
  | @mk first more hfirst _ =>
      have htrim : Text.trimFront (before ++ (first :: more ++ rest)) = first :: (more ++ rest) :=
        trimFront_append hbefore (.cons (isBlank_of_isNameStart hfirst) _)
      simp only [List.cons_append] at htake
      simp only [takePath, htrim, hfirst, if_true, htake]

/-- Without a name a path is read as accessors. -/
theorem takePath_blanks {before rest : List Char} (hbefore : AreBlanks before)
    (hblank : EndsBefore Text.isBlank rest) (hstart : EndsBefore isNameStart rest) :
    takePath (before ++ rest) = takeSteps rest := by
  simp only [takePath, trimFront_append hbefore hblank]
  cases rest with
  | nil => exact takeSteps_nil.symm
  | cons c tail => exact if_neg (by simp [hstart c rfl])

theorem takePath_of_name {before name accessors after : List Char} {others : List Step}
    (hbefore : AreBlanks before) (hname : IsName name) (haccessors : AccessorsText accessors others)
    (hafter : AreBlanks after) :
    takePath (before ++ (name ++ (accessors ++ after))) =
      .ok (.member (String.ofList name) :: others) := by
  have hends := endsBefore_isNamePart_accessors haccessors hafter
  simp only [takePath_name hbefore hname hends, takeSteps_append haccessors hafter]
  rfl

theorem takePath_of_accessors {before accessors after : List Char} {others : List Step}
    (hbefore : AreBlanks before) (haccessors : AccessorsText accessors others)
    (hafter : AreBlanks after) : takePath (before ++ (accessors ++ after)) = .ok others := by
  have hsteps := takeSteps_append haccessors hafter
  cases haccessors with
  | nil =>
      have hblanks : AreBlanks (before ++ ([] ++ after)) := by
        intro c hc
        rcases List.mem_append.1 hc with hc | hc
        · exact hbefore c hc
        · exact hafter c hc
      simp only [takePath, trimFront_eq_nil_of_areBlanks hblanks]
  | cons haccessor _ =>
      rcases accessorText_head haccessor with ⟨c, rest, rfl, hblank, hstart⟩
      simp only [List.cons_append] at hsteps ⊢
      simp only [takePath_blanks hbefore (.cons hblank _) (.cons hstart _), hsteps]

/-- Every text of the grammar is read as its steps. -/
theorem takePath_of_pathText {cs : List Char} {steps : List Step} (h : PathText cs steps) :
    takePath cs = .ok steps := by
  cases h with
  | mk hbefore hlead haccessors hafter =>
      cases hlead with
      | none => simpa using takePath_of_accessors hbefore haccessors hafter
      | name hname => exact takePath_of_name hbefore hname haccessors hafter

/-- Every text that is read is one of the grammar. -/
theorem pathText_of_takePath {cs : List Char} {steps : List Step}
    (h : takePath cs = .ok steps) : PathText cs steps := by
  rcases exists_blanks_append_trimFront cs with ⟨before, hbefore, hcs⟩
  unfold takePath at h
  split at h
  · next htrim =>
      cases h
      rw [hcs, htrim]
      exact .mk hbefore .none .nil areBlanks_nil
  · next c rest htrim =>
      simp only [htrim] at hcs
      split at h
      · split at h
        · cases h
        · next name tail htake =>
            rcases map_cons_eq_ok h with ⟨others, hothers, rfl⟩
            rcases exists_name_of_takeName htake with ⟨text, hsplit, hname, rfl⟩
            rcases exists_accessors_of_takeSteps hothers with
              ⟨accessors, after, rfl, haccessors, hafter⟩
            simp only [hcs, hsplit]
            exact .mk hbefore (.name hname) haccessors hafter
      · rcases exists_accessors_of_takeSteps h with ⟨accessors, after, hsplit, haccessors, hafter⟩
        simp only [hcs, hsplit]
        exact .mk hbefore .none haccessors hafter

theorem readSteps_eq_ok_iff_takePath (text : String) (steps : List Step) :
    readSteps text = .ok steps ↔ takePath text.toList = .ok steps := by
  unfold readSteps
  split
  · next found hfound => simp [hfound]
  · next stop hstop => simp [hstop]

/-- The reader accepts the texts of the grammar, each as its steps. -/
theorem readSteps_eq_ok_iff (text : String) (steps : List Step) :
    readSteps text = .ok steps ↔ PathText text.toList steps := by
  simp only [readSteps_eq_ok_iff_takePath]
  exact ⟨pathText_of_takePath, takePath_of_pathText⟩

/-- A text stands for at most one path. -/
theorem PathText.steps_unique {cs : List Char} {s t : List Step} (hs : PathText cs s)
    (ht : PathText cs t) : s = t := by
  have h := takePath_of_pathText hs
  have hsame := (takePath_of_pathText ht).symm.trans h
  cases hsame
  rfl

theorem IsName.isBlank_eq_false {name : List Char} (h : IsName name) :
    ∀ c ∈ name, Text.isBlank c = false := by
  cases h with
  | mk hfirst hrest =>
      intro c hc
      rcases List.mem_cons.1 hc with rfl | hc
      · exact isBlank_of_isNameStart hfirst
      · cases hblank : Text.isBlank c with
        | false => rfl
        | true =>
            have hpart := hrest c hc
            have hsame := (isNamePart_of_isBlank hblank).symm.trans hpart
            cases hsame

/-- There are no blanks inside a numeral. -/
theorem denotes_isBlank_eq_false {numeral : List Char} {n : Int}
    (h : Integer.Denotes numeral n) : ∀ c ∈ numeral, Text.isBlank c = false := by
  intro c hc
  cases h with
  | unsigned hdigits => exact isBlank_of_isDigit (hdigits.2 c hc)
  | plus hdigits =>
      rcases List.mem_cons.1 hc with rfl | hc
      · decide
      · exact isBlank_of_isDigit (hdigits.2 c hc)
  | minus hdigits =>
      rcases List.mem_cons.1 hc with rfl | hc
      · decide
      · exact isBlank_of_isDigit (hdigits.2 c hc)

/-- The reader of paths accepts exactly the texts of the grammar, with the steps that they denote,
and refuses every other text.  No text denotes two lists of steps; no name and no numeral holds a
blank, so blanks stand at both ends, just inside of brackets and within quotes only. -/
theorem readSteps_accepts_grammar :
    (∀ text steps, readSteps text = .ok steps ↔ PathText text.toList steps) ∧
      (∀ text, (∃ e, readSteps text = .error e) ↔ ∀ steps, ¬ PathText text.toList steps) ∧
      (∀ cs s t, PathText cs s → PathText cs t → s = t) ∧
      (∀ name, IsName name → ∀ c ∈ name, Text.isBlank c = false) ∧
      ∀ numeral n, Integer.Denotes numeral n → ∀ c ∈ numeral, Text.isBlank c = false := by
  refine ⟨readSteps_eq_ok_iff, ?_, fun cs s t => PathText.steps_unique,
    fun name => IsName.isBlank_eq_false, fun numeral n => denotes_isBlank_eq_false⟩
  intro text
  constructor
  · rintro ⟨e, he⟩ steps hsteps
    have hsame := ((readSteps_eq_ok_iff text steps).2 hsteps).symm.trans he
    cases hsame
  · intro h
    cases hread : readSteps text with
    | error e => exact ⟨e, rfl⟩
    | ok steps => exact absurd ((readSteps_eq_ok_iff text steps).1 hread) (h steps)

end Path
end ErrorTriage
