import ErrorTriage.Proofs.Outcome
import ErrorTriage.Proofs.Path.Grammar

/-!
# Path.Fault — where a text stops being the beginning of a path

The place that the reader blames is the first one at which the text goes wrong.  What stands before
it can still be completed to a path; with the character at the place it cannot, whatever follows.

Two faults are not of this kind, for they are told of an index as a whole: that its quote is not
closed, and that its number does not fit.  Their place is where the index starts, and only the first
half is claimed of them.
-/

namespace ErrorTriage

/-- Whether a fault is told of an index as a whole. -/
def PathFault.blamesIndex : PathFault → Bool
  | .unterminated => true
  | .invalidInteger _ => true
  | _ => false

namespace Path

/-- A text that starts with an index that is blamed as a whole. -/
inductive IsBrokenIndex : List Char → PathFault → Prop where
  | unterminated {quote : Char} {text : List Char} :
      quote = '\'' ∨ quote = '"' → quote ∉ text → IsBrokenIndex (quote :: text) .unterminated
  | invalidInteger {first : Char} {digits rest : List Char} :
      first.isDigit = true ∨ first = '-' ∨ first = '+' → (∀ c ∈ digits, c.isDigit = true) →
      EndsBefore Char.isDigit rest →
      (∀ n, Integer.Denotes (first :: digits) n → ¬(Integer.min64 ≤ n ∧ n ≤ Integer.max64)) →
      IsBrokenIndex (first :: (digits ++ rest))
        (.invalidInteger (String.ofList (first :: digits)))

/-- A text goes wrong between its two parts, as a reader of steps sees it. -/
structure GoesWrong (read : List Char → Except Stop (List Step)) (front back : List Char)
    (fault : PathFault) : Prop where
  /-- The front can be completed. -/
  viable : ∃ more steps, read (front ++ more) = .ok steps
  /-- With the character behind it, it cannot. -/
  first : fault.blamesIndex = false →
    ∀ c ∈ back.head?, ∀ more steps, read (front ++ c :: more) ≠ .ok steps
  /-- The index that is blamed starts between the two parts. -/
  start : fault.blamesIndex = true → ∃ around opening closing before,
    Brackets opening closing ∧ AreBlanks before ∧ front = around ++ opening :: before ∧
      IsBrokenIndex back fault

/-! ## What the next character decides -/

theorem endsBefore_of_takeName {cs rest : List Char} {name : String}
    (h : takeName cs = .ok (name, rest)) : EndsBefore isNamePart rest := by
  cases cs with
  | nil => cases h
  | cons c tail =>
      simp only [takeName] at h
      split at h
      · cases h
        exact endsBefore_dropWhile isNamePart (c :: tail)
      · cases h

/-- Where no name is read, the text does not start like one. -/
theorem takeName_eq_error {cs : List Char} {stop : Stop} (h : takeName cs = .error stop) :
    stop = ⟨cs, .expectedName⟩ ∧ EndsBefore isNameStart cs := by
  cases cs with
  | nil =>
      cases h
      exact ⟨rfl, endsBefore_nil _⟩
  | cons c tail =>
      simp only [takeName] at h
      split at h
      · cases h
      · next hstart =>
          cases h
          exact ⟨rfl, .cons (by simpa using hstart) tail⟩

theorem integerToken_cons {first : Char} (h : first.isDigit = true ∨ first = '-' ∨ first = '+')
    (rest : List Char) :
    integerToken (first :: rest) =
      (first :: rest.takeWhile Char.isDigit, rest.dropWhile Char.isDigit) := by
  simp only [integerToken]
  split
  · rfl
  · next hsign =>
      have hdigit : first.isDigit = true := h.resolve_right hsign
      simp only [List.takeWhile_cons_of_pos hdigit, List.dropWhile_cons_of_pos hdigit]

theorem endsBefore_of_takeBareIndex {cs rest : List Char} {n : Int}
    (h : takeBareIndex cs = .ok (.int n, rest)) : EndsBefore Char.isDigit rest := by
  cases cs with
  | nil => cases h
  | cons c tail =>
      simp only [takeBareIndex] at h
      split at h
      · split at h <;> cases h
      · split at h
        · next hfirst =>
            simp only [integerToken_cons hfirst] at h
            split at h
            · cases h
              exact endsBefore_dropWhile Char.isDigit tail
            · cases h
        · cases h

/-- A text that is no index is blamed for its first character, or as a whole. -/
theorem takeBareIndex_eq_error {cs : List Char} {stop : Stop}
    (h : takeBareIndex cs = .error stop) :
    stop.rest = cs ∧
      (stop.fault.blamesIndex = false →
        ∀ c ∈ cs.head?, ∀ more found, takeBareIndex (c :: more) ≠ .ok found) ∧
      (stop.fault.blamesIndex = true → IsBrokenIndex cs stop.fault) := by
  cases cs with
  | nil =>
      cases h
      refine ⟨rfl, ?_, ?_⟩
      · intro _ c hc
        cases hc
      · intro hfault
        cases hfault
  | cons c tail =>
      simp only [takeBareIndex] at h
      split at h
      · next hquote =>
          split at h
          · next hdrop =>
              cases h
              -- The search for the closing quote has used up the text.
              have hclosed : c ∉ tail := by
                intro hc
                have hall := List.dropWhile_eq_nil_iff.1 hdrop c hc
                simp at hall
              refine ⟨rfl, ?_, fun _ => .unterminated hquote hclosed⟩
              intro hfault
              cases hfault
          · cases h
      · next hquote =>
          split at h
          · next hfirst =>
              simp only [integerToken_cons hfirst] at h
              split at h
              · cases h
              · next fault hread =>
                  cases h
                  -- A numeral within the range would have been read.
                  have hrange : ∀ n, Integer.Denotes (c :: tail.takeWhile Char.isDigit) n →
                      ¬(Integer.min64 ≤ n ∧ n ≤ Integer.max64) := by
                    rintro n hn hbounds
                    have hok := (Integer.read64_eq_ok_iff _ n).2 ⟨hn, hbounds⟩
                    have hsame := hok.symm.trans hread
                    cases hsame
                  have hbroken := IsBrokenIndex.invalidInteger hfirst
                    (fun d hd => List.mem_takeWhile_imp hd) (endsBefore_dropWhile _ tail) hrange
                  simp only [List.takeWhile_append_dropWhile] at hbroken
                  refine ⟨rfl, ?_, fun _ => hbroken⟩
                  intro hfault
                  cases hfault
          · next hfirst =>
              cases h
              refine ⟨rfl, ?_, ?_⟩
              · intro _ d hd more found hok
                cases hd
                simp only [takeBareIndex, if_neg hquote, if_neg hfirst] at hok
                cases hok
              · intro hfault
                cases hfault

/-! ## One accessor -/

/-- Behind a dot the text goes wrong where a name should begin. -/
theorem goesWrong_of_takeName {cs : List Char} {stop : Stop} (h : takeName cs = .error stop) :
    GoesWrong takeSteps ['.'] stop.rest stop.fault := by
  rcases takeName_eq_error h with ⟨rfl, hstart⟩
  refine ⟨?_, ?_, ?_⟩
  · have hname : IsName ['_'] := .mk (by decide) (by simp)
    have haccessor := AccessorText.member hname
    have hsteps := takeSteps_append (.cons haccessor .nil) areBlanks_nil
    exact ⟨['_'], _, by simpa using hsteps⟩
  · intro _ c hc more steps hread
    rcases exists_takeName_of_takeSteps hread with ⟨name, tail, _, htake, _, _⟩
    rcases exists_name_of_takeName htake with ⟨text, hsplit, hname, _⟩
    cases hname with
    | mk hfirst _ =>
        cases hsplit
        have hsame := (hstart c hc).symm.trans hfirst
        cases hsame
  · intro hfault
    cases hfault

section Index

variable {opening closing : Char} {before back : List Char}

/-- In brackets the text goes wrong where an index should begin, or with the broken index. -/
theorem goesWrong_of_takeBareIndex (hbrackets : Brackets opening closing)
    (hbefore : AreBlanks before) (hback : EndsBefore Text.isBlank back) {stop : Stop}
    (h : takeBareIndex back = .error stop) :
    GoesWrong takeSteps (opening :: before) back stop.fault := by
  rcases takeBareIndex_eq_error h with ⟨_, hfirst, hbroken⟩
  refine ⟨?_, ?_, ?_⟩
  · have hdigits : Integer.AreDigits ['0'] := by simp [Integer.AreDigits]
    have hzero : IndexText ['0'] (.int 0) := .whole (.unsigned hdigits) (by decide) (by decide)
    have haccessor := AccessorText.index hbrackets hbefore hzero areBlanks_nil
    have hsteps := takeSteps_append (.cons haccessor .nil) areBlanks_nil
    exact ⟨['0', closing], _, by simpa using hsteps⟩
  · intro hfault c hc more steps hread
    simp only [List.cons_append] at hread
    rcases exists_takeIndex_of_takeSteps hbrackets hread with ⟨i, tail, _, htake, _, _⟩
    have htrim : Text.trimFront (before ++ c :: more) = c :: more :=
      trimFront_append hbefore (.cons (hback c hc) more)
    have herror := hfirst hfault c hc more
    simp only [takeIndex, htrim] at htake
    split at htake
    · cases htake
    · next found hfound => exact herror _ hfound
  · intro hfault
    exact ⟨[], opening, closing, before, hbrackets, hbefore, rfl, hbroken hfault⟩

/-- Behind an index the text goes wrong where the bracket should close. -/
theorem goesWrong_of_unclosed (hbrackets : Brackets opening closing) (hbefore : AreBlanks before)
    {body after : List Char} {i : Index} (hbody : IndexText body i) (hafter : AreBlanks after)
    (hback : EndsBefore Text.isBlank back) (hclosing : closing ∉ back.head?)
    (hdigit : ∀ n, i = .int n → EndsBefore Char.isDigit (after ++ back)) {fault : PathFault}
    (hfault : fault.blamesIndex = false) :
    GoesWrong takeSteps (opening :: (before ++ (body ++ after))) back fault := by
  refine ⟨?_, ?_, ?_⟩
  · have haccessor := AccessorText.index hbrackets hbefore hbody hafter
    have hsteps := takeSteps_append (.cons haccessor .nil) areBlanks_nil
    exact ⟨[closing], _, by simpa using hsteps⟩
  · intro _ c hc more steps hread
    simp only [List.cons_append, List.append_assoc] at hread
    rcases exists_takeIndex_of_takeSteps hbrackets hread with ⟨j, tail, _, htake, _, _⟩
    -- The index is read as before, and then there is the wrong character.
    have hfront : Text.trimFront (before ++ (body ++ (after ++ c :: more))) =
        body ++ (after ++ c :: more) := trimFront_append hbefore hbody.endsBefore_isBlank
    have hindex : takeBareIndex (body ++ (after ++ c :: more)) = .ok (i, after ++ c :: more) :=
      takeBareIndex_append hbody fun n hn => (hdigit n hn).append_of_mem_head? hc more
    have hrest : Text.trimFront (after ++ c :: more) = c :: more :=
      trimFront_append hafter (.cons (hback c hc) more)
    have hne : c ≠ closing := by
      rintro rfl
      exact hclosing hc
    simp only [takeIndex, hfront, hindex, hrest, if_neg hne] at htake
    cases htake
  · intro hblames
    have hsame := hfault.symm.trans hblames
    cases hsame

/-- Whatever stops the reading of an index stops it where the text goes wrong. -/
theorem goesWrong_of_takeIndex (hbrackets : Brackets opening closing) {cs : List Char}
    {stop : Stop} (h : takeIndex closing cs = .error stop) :
    ∃ front, cs = front ++ stop.rest ∧
      GoesWrong takeSteps (opening :: front) stop.rest stop.fault := by
  rcases exists_blanks_append_trimFront cs with ⟨before, hbefore, hcs⟩
  simp only [takeIndex] at h
  split at h
  · next stop' hbare =>
      cases h
      have hrest := (takeBareIndex_eq_error hbare).1
      refine ⟨before, by simpa only [hrest] using hcs, ?_⟩
      simp only [hrest]
      exact goesWrong_of_takeBareIndex hbrackets hbefore (endsBefore_dropWhile _ cs) hbare
  · next i rest hbare =>
      rcases exists_body_of_takeBareIndex hbare with ⟨body, hbodyRest, hbody⟩
      rcases exists_blanks_append_trimFront rest with ⟨after, hafter, hrest⟩
      have hends : EndsBefore Text.isBlank (Text.trimFront rest) := endsBefore_dropWhile _ rest
      have hdigit : ∀ n, i = .int n → EndsBefore Char.isDigit (after ++ Text.trimFront rest) := by
        rintro n rfl
        simpa only [← hrest] using endsBefore_of_takeBareIndex hbare
      have hsplit : cs = before ++ (body ++ after) ++ Text.trimFront rest := by
        simp only [List.append_assoc, ← hrest, ← hbodyRest]
        exact hcs
      have hunclosed (hclosing : closing ∉ (Text.trimFront rest).head?) {fault : PathFault}
          (hfault : fault.blamesIndex = false) : ∃ front, cs = front ++ Text.trimFront rest ∧
            GoesWrong takeSteps (opening :: front) (Text.trimFront rest) fault :=
        ⟨_, hsplit, goesWrong_of_unclosed hbrackets hbefore hbody hafter hends hclosing hdigit
          hfault⟩
      split at h
      · next htrim =>
          cases h
          simpa only [htrim] using hunclosed (by simp [htrim]) rfl
      · next c tail htrim =>
          split at h
          · cases h
          · next hne =>
              cases h
              simpa only [htrim] using hunclosed (by simpa [htrim] using hne) rfl

end Index

/-! ## Behind what was read -/

section Behind

variable {part front back : List Char} {fault : PathFault}

/-- A text that goes wrong, goes wrong at the same place behind a part that is read before it, if
the part can stand before any steps and leaves the wrong character to them. -/
theorem GoesWrong.behind {read : List Char → Except Stop (List Step)}
    (h : GoesWrong takeSteps front back fault)
    (hcomplete : ∀ text steps, takeSteps text = .ok steps → ∃ all, read (part ++ text) = .ok all)
    (hleft : ∀ c ∈ back.head?, ∀ more all, read (part ++ (front ++ c :: more)) = .ok all →
      ∃ steps, takeSteps (front ++ c :: more) = .ok steps) :
    GoesWrong read (part ++ front) back fault := by
  refine ⟨?_, ?_, ?_⟩
  · rcases h.viable with ⟨more, steps, hread⟩
    rcases hcomplete _ _ hread with ⟨all, hall⟩
    exact ⟨more, all, by simpa only [List.append_assoc] using hall⟩
  · intro hfault c hc more all hread
    simp only [List.append_assoc] at hread
    rcases hleft c hc more all hread with ⟨steps, hsteps⟩
    exact h.first hfault c hc more steps hsteps
  · intro hfault
    rcases h.start hfault with ⟨around, opening, closing, before, hbrackets, hbefore, rfl, hbroken⟩
    exact ⟨part ++ around, opening, closing, before, hbrackets, hbefore, by simp, hbroken⟩

/-- A text goes wrong at the same place with an accessor before it, unless the two run into one
name. -/
theorem GoesWrong.behind_accessor {step : Step} (hpart : AccessorText part step)
    (h : GoesWrong takeSteps front back fault)
    (hends : ∀ name, step = .member name → EndsBefore isNamePart (front ++ back)) :
    GoesWrong takeSteps (part ++ front) back fault := by
  refine h.behind ?_ ?_
  · intro text steps htext
    rcases exists_accessors_of_takeSteps htext with ⟨accessors, after, rfl, haccessors, hafter⟩
    have hsteps := takeSteps_append (.cons hpart haccessors) hafter
    exact ⟨_, by simpa only [List.append_assoc] using hsteps⟩
  · intro c hc more all hread
    have hsteps : takeSteps (part ++ (front ++ c :: more)) =
        (takeSteps (front ++ c :: more)).map (step :: ·) :=
      takeSteps_accessor hpart fun name hname => (hends name hname).append_of_mem_head? hc more
    simp only [hsteps] at hread
    rcases map_cons_eq_ok hread with ⟨steps, hothers, _⟩
    exact ⟨steps, hothers⟩

/-- A text goes wrong at the same place with a name before it, unless the two run into one name. -/
theorem GoesWrong.behind_name {before : List Char} (hbefore : AreBlanks before)
    (hpart : IsName part) (h : GoesWrong takeSteps front back fault)
    (hends : EndsBefore isNamePart (front ++ back)) :
    GoesWrong takePath (before ++ part ++ front) back fault := by
  refine h.behind ?_ ?_
  · intro text steps htext
    rcases exists_accessors_of_takeSteps htext with ⟨accessors, after, rfl, haccessors, hafter⟩
    have hpath := takePath_of_name hbefore hpart haccessors hafter
    exact ⟨_, by simpa only [List.append_assoc] using hpath⟩
  · intro c hc more all hread
    have hpath := takePath_name hbefore hpart (hends.append_of_mem_head? hc more)
    simp only [List.append_assoc, hpath] at hread
    rcases map_cons_eq_ok hread with ⟨steps, hothers, _⟩
    exact ⟨steps, hothers⟩

/-- A text goes wrong at the same place with blanks before it. -/
theorem GoesWrong.behind_blanks (hpart : AreBlanks part) (h : GoesWrong takeSteps front back fault)
    (hblank : EndsBefore Text.isBlank (front ++ back))
    (hstart : EndsBefore isNameStart (front ++ back)) :
    GoesWrong takePath (part ++ front) back fault := by
  refine h.behind ?_ ?_
  · intro text steps htext
    rcases exists_accessors_of_takeSteps htext with ⟨accessors, after, rfl, haccessors, hafter⟩
    exact ⟨_, takePath_of_accessors hpart haccessors hafter⟩
  · intro c hc more all hread
    have hpath := takePath_blanks hpart (hblank.append_of_mem_head? hc more)
      (hstart.append_of_mem_head? hc more)
    exact ⟨all, hpath ▸ hread⟩

end Behind

/-- Steps that begin with a blank are only blanks. -/
theorem areBlanks_of_takeSteps {c : Char} {rest : List Char} {steps : List Step}
    (hc : Text.isBlank c = true) (h : takeSteps (c :: rest) = .ok steps) :
    AreBlanks (c :: rest) := by
  rcases exists_accessors_of_takeSteps h with ⟨accessors, after, hsplit, haccessors, hafter⟩
  cases haccessors with
  | nil =>
      simp only [List.nil_append] at hsplit
      exact hsplit ▸ hafter
  | cons haccessor _ =>
      rcases accessorText_head haccessor with ⟨d, more, rfl, hblank, _⟩
      cases hsplit
      have hsame := hc.symm.trans hblank
      cases hsame

/-- Steps begin with a dot, with a bracket, or with the blanks at the end. -/
theorem head_of_takeSteps {c : Char} {rest : List Char} {steps : List Step}
    (h : takeSteps (c :: rest) = .ok steps) :
    c = '.' ∨ (c = '[' ∨ c = '(') ∨ Text.isBlank c = true := by
  by_contra hnone
  simp only [not_or] at hnone
  rcases hnone with ⟨hpoint, hopening, hblank⟩
  have hindex : ¬(c = '[' ∨ c = '(') := not_or.2 hopening
  simp only [takeSteps, if_neg hpoint, if_neg hindex, if_neg hblank] at h
  cases h

/-- Steps stop where the text goes wrong. By induction on the reading: what is read before the stop
is put in front, one accessor at a time. -/
theorem goesWrong_of_takeSteps {cs : List Char} {stop : Stop} (h : takeSteps cs = .error stop) :
    ∃ front, cs = front ++ stop.rest ∧ GoesWrong takeSteps front stop.rest stop.fault := by
  -- Along the reader: an accessor that was read is put before a rest that goes wrong.
  fun_induction takeSteps cs generalizing stop with
  | case1 => cases h
  | case2 rest stop' htake =>
      cases h
      have hrest : stop'.rest = rest := by simp only [(takeName_eq_error htake).1]
      exact ⟨['.'], by simp [hrest], goesWrong_of_takeName htake⟩
  | case3 rest name tail htake ih =>
      rcases ih (map_eq_error_iff.1 h) with ⟨front, rfl, hwrong⟩
      rcases exists_name_of_takeName htake with ⟨text, rfl, hname, rfl⟩
      have hends := endsBefore_of_takeName htake
      refine ⟨'.' :: text ++ front, by simp, ?_⟩
      exact hwrong.behind_accessor (.member hname) fun _ _ => hends
  | case4 c rest hpoint hopening stop' htake =>
      cases h
      rcases goesWrong_of_takeIndex (brackets_of_opening hopening) htake with
        ⟨front, hsplit, hwrong⟩
      exact ⟨c :: front, by simp [hsplit], hwrong⟩
  | case5 c rest hpoint hopening i tail htake ih =>
      rcases ih (map_eq_error_iff.1 h) with ⟨front, rfl, hwrong⟩
      rcases exists_parts_of_takeIndex htake with
        ⟨before, body, after, rfl, hbefore, hbody, hafter⟩
      have haccessor := AccessorText.index (brackets_of_opening hopening) hbefore hbody hafter
      refine ⟨_, ?_, hwrong.behind_accessor haccessor (by simp)⟩
      simp
  | case6 => cases h
  | case7 c rest hpoint hopening hblank d tail htrim =>
      cases h
      rcases exists_blanks_append_trimFront rest with ⟨blanks, hblanks, hrest⟩
      have hall : AreBlanks (c :: blanks) := List.forall_mem_cons.2 ⟨hblank, hblanks⟩
      have hends : EndsBefore Text.isBlank (d :: tail) := htrim ▸ endsBefore_dropWhile _ rest
      refine ⟨c :: blanks, by simpa only [htrim, List.cons_append] using congrArg (c :: ·) hrest,
        ?_, ?_, ?_⟩
      · exact ⟨[], [], by simpa using takeSteps_of_areBlanks hall⟩
      · -- Behind a blank there are only blanks.
        intro _ e he more steps hread
        have hmem : e ∈ c :: (blanks ++ e :: more) := by simp
        have hsame := (hends e he).symm.trans (areBlanks_of_takeSteps hblank hread e hmem)
        cases hsame
      · intro hfault
        cases hfault
  | case8 c rest hpoint hopening hblank =>
      cases h
      refine ⟨[], rfl, ⟨[], [], takeSteps_nil⟩, ?_, ?_⟩
      · intro _ e he more steps hread
        cases he
        rcases head_of_takeSteps hread with hc | hc | hc
        · exact hpoint hc
        · exact hopening hc
        · exact hblank hc
      · intro hfault
        cases hfault

/-! ## The whole text -/

/-- A path stops where the text goes wrong. -/
theorem goesWrong_of_takePath {cs : List Char} {stop : Stop} (h : takePath cs = .error stop) :
    ∃ front, cs = front ++ stop.rest ∧ GoesWrong takePath front stop.rest stop.fault := by
  rcases exists_blanks_append_trimFront cs with ⟨before, hbefore, hcs⟩
  have hblank : EndsBefore Text.isBlank (Text.trimFront cs) := endsBefore_dropWhile _ cs
  unfold takePath at h
  split at h
  · cases h
  · next c rest htrim =>
      simp only [htrim] at hcs hblank
      split at h
      · next hstart =>
          split at h
          · next stop' htake =>
              have hsame := hstart.symm.trans ((takeName_eq_error htake).2 c rfl)
              cases hsame
          · next name tail htake =>
              rcases goesWrong_of_takeSteps (map_eq_error_iff.1 h) with ⟨front, rfl, hwrong⟩
              rcases exists_name_of_takeName htake with ⟨text, hsplit, hname, _⟩
              refine ⟨before ++ text ++ front, ?_, ?_⟩
              · simp only [hcs, hsplit, List.append_assoc]
              · exact hwrong.behind_name hbefore hname (endsBefore_of_takeName htake)
      · next hstart =>
          rcases goesWrong_of_takeSteps h with ⟨front, hsplit, hwrong⟩
          have hends : EndsBefore isNameStart (c :: rest) := .cons (by simpa using hstart) rest
          simp only [hsplit] at hcs hblank hends
          refine ⟨before ++ front, ?_, hwrong.behind_blanks hbefore hblank hends⟩
          simp only [hcs, List.append_assoc]

theorem byteLength_append (front back : List Char) :
    byteLength (front ++ back) = byteLength front + byteLength back := by
  induction front with
  | nil => simp [byteLength]
  | cons c rest ih =>
      simp only [List.cons_append, byteLength, ih]
      omega

theorem byteLength_eq (cs : List Char) : byteLength cs = (String.ofList cs).utf8ByteSize := by
  induction cs with
  | nil => rfl
  | cons c rest ih =>
      simp only [byteLength, ih, String.ofList_cons, String.utf8ByteSize_append,
        String.utf8ByteSize_singleton]

/-- A text that is refused goes wrong at the position of the error and not before: the position lies
between two characters, or at one of the ends; the text before it can be completed to a path; and
with the character at it the text cannot.  An index that is blamed as a whole starts there. -/
theorem errors_point_where_texts_go_wrong {text : String} {e : PathSyntaxError}
    (h : readSteps text = .error e) :
    e.expression = text ∧ e.position ≤ text.utf8ByteSize ∧
      String.Pos.Raw.IsValid text ⟨e.position⟩ ∧
      ∃ front back : String, text = front ++ back ∧ front.utf8ByteSize = e.position ∧
        (∃ more steps, readSteps (front ++ more) = .ok steps) ∧
        (e.fault.blamesIndex = false → back = "" ∨ ∃ c rest, back = String.singleton c ++ rest ∧
          ∀ more steps, readSteps (front ++ String.singleton c ++ more) ≠ .ok steps) ∧
        (e.fault.blamesIndex = true → ∃ around opening closing before,
          Brackets opening closing ∧ AreBlanks before ∧
            front.toList = around ++ opening :: before ∧ IsBrokenIndex back.toList e.fault) := by
  have hstop : ∃ stop, takePath text.toList = .error stop ∧
      e = ⟨text, byteLength text.toList - byteLength stop.rest, stop.fault⟩ := by
    unfold readSteps at h
    split at h
    · cases h
    · next stop htake =>
        cases h
        exact ⟨stop, htake, rfl⟩
  rcases hstop with ⟨stop, htake, rfl⟩
  rcases goesWrong_of_takePath htake with ⟨front, hsplit, hwrong⟩
  have htext : text = String.ofList front ++ String.ofList stop.rest := by
    calc text = String.ofList text.toList := String.ofList_toList.symm
      _ = String.ofList (front ++ stop.rest) := by rw [hsplit]
      _ = String.ofList front ++ String.ofList stop.rest := String.ofList_append
  have hposition : (String.ofList front).utf8ByteSize =
      byteLength text.toList - byteLength stop.rest := by
    simp only [hsplit, byteLength_append, ← byteLength_eq]
    omega
  have hbound : byteLength text.toList - byteLength stop.rest ≤ text.utf8ByteSize := by
    have hbytes := (congrArg String.utf8ByteSize htext).trans String.utf8ByteSize_append
    omega
  refine ⟨rfl, hbound, ?_, String.ofList front, String.ofList stop.rest, htext, hposition,
    ?_, ?_, ?_⟩
  · exact String.Pos.Raw.isValid_iff_exists_append.2
      ⟨_, _, htext, congrArg String.Pos.Raw.mk hposition.symm⟩
  · rcases hwrong.viable with ⟨more, steps, hread⟩
    refine ⟨String.ofList more, steps, ?_⟩
    simpa only [readSteps_eq_ok_iff_takePath, String.toList_append, String.toList_ofList]
      using hread
  · intro hfault
    cases hrest : stop.rest with
    | nil => exact .inl rfl
    | cons c rest =>
        refine .inr ⟨c, String.ofList rest, String.ofList_cons, ?_⟩
        intro more steps hread
        have hfirst := hwrong.first hfault c (by simp [hrest]) more.toList steps
        apply hfirst
        simpa only [readSteps_eq_ok_iff_takePath, String.toList_append, String.toList_ofList,
          String.toList_singleton, List.append_assoc, List.singleton_append] using hread
  · simpa only [String.toList_ofList] using hwrong.start

theorem errors_point_where_texts_go_wrong_unclosed :
    readSteps "a['é' x]" = .error ⟨"a['é' x]", 7, .expectedClose ']' (some 'x')⟩ ∧
      ∃ front back : String, "a['é' x]" = front ++ back ∧ front.utf8ByteSize = 7 ∧
        (∃ more steps, readSteps (front ++ more) = .ok steps) ∧
        (back = "" ∨ ∃ c rest, back = String.singleton c ++ rest ∧
          ∀ more steps, readSteps (front ++ String.singleton c ++ more) ≠ .ok steps) := by
  have herror : readSteps "a['é' x]" =
      .error ⟨"a['é' x]", 7, .expectedClose ']' (some 'x')⟩ :=
    failure?_eq_some_iff.1 (by decide +kernel)
  rcases errors_point_where_texts_go_wrong herror with
    ⟨_, _, _, front, back, htext, hposition, hviable, hfirst, _⟩
  exact ⟨herror, front, back, htext, hposition, hviable, hfirst rfl⟩

end Path
end ErrorTriage
