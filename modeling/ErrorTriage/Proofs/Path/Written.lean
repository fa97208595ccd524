import ErrorTriage.Proofs.Path.Modes
import ErrorTriage.Proofs.Text.Words

/-!
# Path.Written — paths that are put together, and paths as they are shown

A path that ends in no blank may go on with accessors: what is read of the two is read one after
the other, and walking them is walking from where the first one leads.

A path that was read is shown by its text without the blanks around it, and reads back to itself.
Steps that are written one after another read back unless a textual index holds the single quote
that it is written in: the reader ends the index at that quote, whatever follows it.
-/

namespace ErrorTriage
namespace Path

/-! ## Accessors behind a path -/

/-- Two rows of accessors are one. -/
theorem AccessorsText.append {front back : List Char} {s t : List Step}
    (hs : AccessorsText front s) (ht : AccessorsText back t) :
    AccessorsText (front ++ back) (s ++ t) := by
  induction hs with
  | nil => exact ht
  | cons haccessor _ ih =>
      simp only [List.append_assoc, List.cons_append]
      exact .cons haccessor ih

/-- The text begins as an accessor does. -/
def StartsAccessor (cs : List Char) : Prop :=
  ∃ c rest, cs = c :: rest ∧ (c = '.' ∨ c = '[' ∨ c = '(')

theorem StartsAccessor.endsBefore_isBlank {cs : List Char} (h : StartsAccessor cs) :
    EndsBefore Text.isBlank cs := by
  rcases h with ⟨c, rest, rfl, hc⟩
  refine .cons ?_ rest
  rcases hc with rfl | rfl | rfl <;> decide

theorem StartsAccessor.endsBefore_isNamePart {cs : List Char} (h : StartsAccessor cs) :
    EndsBefore isNamePart cs := by
  rcases h with ⟨c, rest, rfl, hc⟩
  refine .cons ?_ rest
  rcases hc with rfl | rfl | rfl <;> decide

/-- A path that begins with an accessor is its steps. -/
theorem StartsAccessor.takePath_eq {cs : List Char} (h : StartsAccessor cs) :
    takePath cs = takeSteps cs := by
  have hstart : EndsBefore isNameStart cs :=
    h.endsBefore_isNamePart.of_imp fun _ hc => isNamePart_of_isNameStart hc
  exact takePath_blanks areBlanks_nil h.endsBefore_isBlank hstart

/-- Steps behind a path that ends without a blank are more steps of it. -/
theorem PathText.append {front back : List Char} {s t : List Step} (hs : PathText front s)
    (hend : ∀ c ∈ front.getLast?, Text.isBlank c = false) (ht : takeSteps back = .ok t) :
    PathText (front ++ back) (s ++ t) := by
  rcases exists_accessors_of_takeSteps ht with ⟨accessors', after', rfl, haccessors', hafter'⟩
  cases hs with
  | @mk before lead accessors after first others hbefore hlead haccessors hafter =>
      -- The last character of the front would be the last one of the blanks after its accessors.
      have hnone : after = [] := by
        cases hlast : after.getLast? with
        | none => exact List.getLast?_eq_none_iff.1 hlast
        | some c =>
            have hc : Text.isBlank c = false := hend c (by simp [hlast])
            have hblank : Text.isBlank c = true := hafter c (List.mem_of_getLast? hlast)
            have hsame := hc.symm.trans hblank
            cases hsame
      subst hnone
      have hpath := PathText.mk hbefore hlead (haccessors.append haccessors') hafter'
      simpa using hpath

end Path

/-- A walk along joined steps is two walks, the second from where the first arrives. -/
theorem Value.walk_append (strict : Bool) (root : Value) (s t : List Step) :
    root.walk strict (s ++ t) = (root.walk strict s).bind fun v => v.walk strict t :=
  List.foldlM_append

namespace Path

/-- The steps of a path with accessors behind it are those of the path and then those of the
accessors, so the two together are walked from where the path leads: they fail as the path does, and
leniently they never fail. -/
theorem joined_paths_compose {front back : String} {s t : List Step}
    (hs : readSteps front = .ok s) (ht : readSteps back = .ok t)
    (hend : ∀ c ∈ front.toList.getLast?, Text.isBlank c = false)
    (hstart : StartsAccessor back.toList) :
    readSteps (front ++ back) = .ok (s ++ t) ∧
      (∀ (root : Value) strict, root.atPath (front ++ back) strict =
        (root.atPath front strict).bind fun v => v.atPath back strict) ∧
      ∀ root : Value, ∃ v w, root.atPath front false = .ok v ∧ v.atPath back false = .ok w ∧
        root.atPath (front ++ back) false = .ok w := by
  have htake : takeSteps back.toList = .ok t := by
    have hpath := (readSteps_eq_ok_iff_takePath back t).1 ht
    simpa only [hstart.takePath_eq] using hpath
  have hboth : readSteps (front ++ back) = .ok (s ++ t) := by
    have hpath := ((readSteps_eq_ok_iff front s).1 hs).append hend htake
    simpa only [readSteps_eq_ok_iff, String.toList_append] using hpath
  have hwalk : ∀ (root : Value) strict, root.atPath (front ++ back) strict =
      (root.atPath front strict).bind fun v => v.atPath back strict := by
    intro root strict
    simp only [Value.atPath_of_readSteps_eq_ok hboth, Value.atPath_of_readSteps_eq_ok hs,
      Value.atPath_of_readSteps_eq_ok ht, Value.walk_append]
    cases root.walk strict s <;> rfl
  refine ⟨hboth, hwalk, ?_⟩
  intro root
  -- Leniently both walks lead somewhere.
  have hfront : ∃ v, root.atPath front false = .ok v := by
    simp only [Value.atPath_of_readSteps_eq_ok hs, mapError_eq_ok_iff]
    exact (Value.collapses_walk root s).total
  rcases hfront with ⟨v, hv⟩
  have hback : ∃ w, v.atPath back false = .ok w := by
    simp only [Value.atPath_of_readSteps_eq_ok ht, mapError_eq_ok_iff]
    exact (Value.collapses_walk v t).total
  rcases hback with ⟨w, hw⟩
  refine ⟨v, w, hv, hw, ?_⟩
  simp only [hwalk, hv]
  exact hw

theorem joined_paths_compose_item :
    readSteps " Form" = .ok [.member "Form"] ∧
      readSteps "[ +1 ]('a.b') " = .ok [.index (.int 1), .index (.str "a.b")] ∧
      readSteps (" Form" ++ "[ +1 ]('a.b') ") =
        .ok [.member "Form", .index (.int 1), .index (.str "a.b")] := by
  have hfront : readSteps " Form" = .ok [.member "Form"] :=
    value?_eq_some_iff.1 (by decide +kernel)
  have hback : readSteps "[ +1 ]('a.b') " = .ok [.index (.int 1), .index (.str "a.b")] :=
    value?_eq_some_iff.1 (by decide +kernel)
  have hend : ∀ c ∈ " Form".toList.getLast?, Text.isBlank c = false := by
    have hlast : " Form".toList.getLast? = some 'm' := by decide +kernel
    intro c hc
    cases hlast.symm.trans hc
    decide
  have hstart : StartsAccessor "[ +1 ]('a.b') ".toList := ⟨'[', _, rfl, by decide⟩
  exact ⟨hfront, hback, (joined_paths_compose hfront hback hend hstart).1⟩

/-! ## The text of a path -/

theorem trimBack_accessor {accessor : List Char} {step : Step} (h : AccessorText accessor step) :
    Text.trimBack accessor = accessor := by
  cases h with
  | @member name hname =>
      have hword : Text.IsWord ('.' :: name) :=
        ⟨by simp, List.forall_mem_cons.2 ⟨by decide, hname.isBlank_eq_false⟩⟩
      exact hword.trimBack_eq
  | @index opening closing before body after i hbrackets _ _ _ =>
      have hword : Text.IsWord [closing] := by cases hbrackets <;> decide
      simpa using hword.trimBack_append (opening :: (before ++ (body ++ after)))

/-- There is nothing to trim behind accessors, which end in a name or a bracket. -/
theorem trimBack_accessors {accessors : List Char} {steps : List Step}
    (h : AccessorsText accessors steps) : Text.trimBack accessors = accessors := by
  induction h with
  | nil => rfl
  | cons haccessor _ ih =>
      simp only [Text.trimBack_append_of_trimmed (trimBack_accessor haccessor), ih]

theorem IsName.isWord {name : List Char} (h : IsName name) : Text.IsWord name := by
  refine ⟨?_, h.isBlank_eq_false⟩
  cases h with
  | mk _ _ => simp

theorem trimBack_lead {lead : List Char} {first : List Step} (h : LeadText lead first) :
    Text.trimBack lead = lead := by
  cases h with
  | none => rfl
  | name hname => exact hname.isWord.trimBack_eq

/-- Neither a name nor an accessor starts with a blank. -/
theorem endsBefore_isBlank_parts {lead accessors : List Char} {first others : List Step}
    (hlead : LeadText lead first) (haccessors : AccessorsText accessors others) :
    EndsBefore Text.isBlank (lead ++ accessors) := by
  cases hlead with
  | none =>
      cases haccessors with
      | nil => exact endsBefore_nil _
      | cons haccessor _ =>
          rcases accessorText_head haccessor with ⟨c, rest, rfl, hblank, _⟩
          exact .cons hblank _
  | name hname =>
      cases hname with
      | mk hfirst _ => exact .cons (isBlank_of_isNameStart hfirst) _

/-- A path is the same without the blanks around it. -/
theorem PathText.trimList {cs : List Char} {steps : List Step} (h : PathText cs steps) :
    PathText (Text.trimList cs) steps := by
  cases h with
  | @mk before lead accessors after first others hbefore hlead haccessors hafter =>
      have hback : Text.trimBack (lead ++ accessors) = lead ++ accessors := by
        simp only [Text.trimBack_append_of_trimmed (trimBack_lead hlead),
          trimBack_accessors haccessors]
      have htrim : Text.trimList (before ++ (lead ++ (accessors ++ after))) =
          [] ++ (lead ++ (accessors ++ [])) := by
        calc Text.trimList (before ++ (lead ++ (accessors ++ after)))
            = Text.trimList (before ++ ((lead ++ accessors) ++ after)) := by
              simp only [List.append_assoc]
          _ = Text.trimList (lead ++ accessors) := Text.trimList_between hbefore hafter _
          _ = lead ++ accessors :=
              Text.trimList_eq_self (endsBefore_isBlank_parts hlead haccessors) hback
          _ = [] ++ (lead ++ (accessors ++ [])) := by simp
      simp only [htrim]
      exact .mk areBlanks_nil hlead haccessors areBlanks_nil

/-- The text of a path is read as that path again. -/
theorem read_text {text : String} {strict : Bool} {p : Path} (h : read text strict = .ok p) :
    read p.text strict = .ok p := by
  rcases map_eq_ok_iff.1 h with ⟨steps, hsteps, rfl⟩
  have hpath := ((readSteps_eq_ok_iff text steps).1 hsteps).trimList
  have hread : readSteps (Text.trim text) = .ok steps := by
    simpa only [readSteps_eq_ok_iff, Text.trim, String.toList_ofList] using hpath
  have hagain : Text.trim (Text.trim text) = Text.trim text := by
    simp only [Text.trim, String.toList_ofList, Text.trimList_trimList]
  simp only [read, hread, Except.map, hagain]

/-! ## Steps as they are written -/

/-- A name is a letter or an underscore with letters, numbers and underscores behind it. -/
theorem isName_iff {cs : List Char} :
    IsName cs ↔ (cs.head?.any isNameStart && cs.all isNamePart) = true := by
  constructor
  · rintro ⟨hfirst, hrest⟩
    simpa [hfirst, isNamePart_of_isNameStart hfirst] using hrest
  · intro h
    cases cs with
    | nil => simp at h
    | cons first rest =>
        simp only [List.head?_cons, Option.any_some, List.all_cons, Bool.and_eq_true,
          List.all_eq_true] at h
        exact .mk h.1 h.2.2

instance (cs : List Char) : Decidable (IsName cs) := decidable_of_iff _ isName_iff.symm

/-- What a step that is read can be: a member has a name, and a number fits into 64 bits. -/
def IsStep : Step → Prop
  | .member name => IsName name.toList
  | .index (.int i) => Integer.min64 ≤ i ∧ i ≤ Integer.max64
  | .index (.str _) => True

/-- Whether the text of an index holds the quote that it is written in. -/
def HoldsQuote : Step → Prop
  | .index (.str s) => '\'' ∈ s.toList
  | _ => False

theorem toList_text (i : Index) :
    (Step.index i).text.toList = '[' :: ([] ++ (i.text.toList ++ ([] ++ [']']))) := by
  simp [Step.text]

/-- A step without a quote is written as an accessor. -/
theorem accessorText_text {step : Step} (h : IsStep step) (hquote : ¬HoldsQuote step) :
    AccessorText step.text.toList step := by
  cases step with
  | member name =>
      have hmember := AccessorText.member h
      simpa [Step.text] using hmember
  | index i =>
      have hbody : IndexText i.text.toList i := by
        cases i with
        | int n => exact .whole (Integer.denotes_toString n) h.1 h.2
        | str s =>
            have hquoted : IndexText _ _ := .quoted (.inl rfl) hquote
            simpa [Index.text] using hquoted
      simp only [toList_text]
      exact .index .square areBlanks_nil hbody areBlanks_nil

/-- A step is written as an accessor, so it ends the name before it. -/
theorem startsAccessor_text (step : Step) (rest : List Char) :
    StartsAccessor (step.text.toList ++ rest) := by
  cases step with
  | member name => exact ⟨'.', _, by simp [Step.text]; rfl, by decide⟩
  | index i => exact ⟨'[', _, by simp [Step.text]; rfl, by decide⟩

/-- The text of steps one after another. -/
def stepsText (steps : List Step) : List Char := steps.flatMap fun step => step.text.toList

/-- Written steps end a name before them. -/
theorem endsBefore_isNamePart_stepsText (steps : List Step) :
    EndsBefore isNamePart (stepsText steps) := by
  cases steps with
  | nil => exact endsBefore_nil isNamePart
  | cons step rest =>
      have hstart : StartsAccessor (stepsText (step :: rest)) :=
        startsAccessor_text step (stepsText rest)
      exact hstart.endsBefore_isNamePart

/-- What is read between quotes holds none. -/
theorem quote_not_mem_of_takeIndex {closing : Char} {cs tail : List Char} {s : String}
    (h : takeIndex closing ('\'' :: cs) = .ok (.str s, tail)) : '\'' ∉ s.toList := by
  rcases exists_parts_of_takeIndex h with ⟨before, body, after, hcs, hbefore, hbody, _⟩
  cases hbody with
  | @quoted quote text _ hquote =>
      -- The quote that opens the index is the first character of all.
      have hsame : quote = '\'' := by
        cases before with
        | nil =>
            simp only [List.nil_append, List.cons_append, List.cons.injEq] at hcs
            exact hcs.1.symm
        | cons c rest =>
            simp only [List.cons_append, List.cons.injEq] at hcs
            have hblank : Text.isBlank '\'' = true := hcs.1 ▸ hbefore c List.mem_cons_self
            exact absurd hblank (by decide)
      simpa only [String.toList_ofList, ← hsame] using hquote

/-- A step that reads back as written holds no quote. -/
theorem not_holdsQuote_of_takeSteps {step : Step} {rest : List Char} {others : List Step}
    (h : takeSteps (step.text.toList ++ rest) = .ok (step :: others)) : ¬HoldsQuote step := by
  cases step with
  | member name => exact not_false
  | index i =>
      cases i with
      | int n => exact not_false
      | str s =>
          have hcs : (Step.index (.str s)).text.toList ++ rest =
              '[' :: '\'' :: (s.toList ++ '\'' :: ']' :: rest) := by
            simp [Step.text, Index.text]
          simp only [hcs] at h
          rcases exists_takeIndex_of_takeSteps .square h with ⟨i, tail, _, htake, _, hsteps⟩
          cases hsteps
          exact quote_not_mem_of_takeIndex htake

/-- Written steps read back exactly if none of them holds a quote. -/
theorem takeSteps_stepsText_iff {steps : List Step} (h : ∀ step ∈ steps, IsStep step) :
    takeSteps (stepsText steps) = .ok steps ↔ ∀ step ∈ steps, ¬HoldsQuote step := by
  induction steps with
  | nil => simp [stepsText, takeSteps_nil]
  | cons step rest ih =>
      rcases List.forall_mem_cons.1 h with ⟨hstep, hrest⟩
      have hcs : stepsText (step :: rest) = step.text.toList ++ stepsText rest := rfl
      simp only [List.forall_mem_cons, ← ih hrest]
      constructor
      · intro htake
        -- The quote is ruled out first: without it the first step is read as it was written.
        have hquote : ¬HoldsQuote step := not_holdsQuote_of_takeSteps (hcs ▸ htake)
        have hends := endsBefore_isNamePart_stepsText rest
        simp only [hcs, takeSteps_accessor (accessorText_text hstep hquote) fun _ _ => hends]
          at htake
        rcases map_cons_eq_ok htake with ⟨others, hothers, heq⟩
        cases heq
        exact ⟨hquote, hothers⟩
      · rintro ⟨hquote, htake⟩
        have hends := endsBefore_isNamePart_stepsText rest
        simp only [hcs, takeSteps_accessor (accessorText_text hstep hquote) fun _ _ => hends, htake]
        rfl

/-- Steps that are written one behind the other read back exactly if none holds a quote. -/
theorem readSteps_join_text_iff {steps : List Step} (h : ∀ step ∈ steps, IsStep step) :
    readSteps (String.join (steps.map Step.text)) = .ok steps ↔
      ∀ step ∈ steps, ¬HoldsQuote step := by
  have htext : (String.join (steps.map Step.text)).toList = stepsText steps := by
    simp only [String.toList_join, List.flatMap_map, stepsText]
  have hpath : takePath (stepsText steps) = takeSteps (stepsText steps) := by
    cases steps with
    | nil => exact takePath_blanks areBlanks_nil (endsBefore_nil _) (endsBefore_nil _)
    | cons step rest => exact (startsAccessor_text step (stepsText rest)).takePath_eq
  simp only [readSteps_eq_ok_iff_takePath, htext, hpath, takeSteps_stepsText_iff h]

/-- Steps that are written behind a name are read behind it. -/
theorem readSteps_name_join {name : String} {steps : List Step} (hname : IsName name.toList)
    (hsteps : ∀ step ∈ steps, IsStep step) (hquote : ∀ step ∈ steps, ¬HoldsQuote step) :
    readSteps (name ++ String.join (steps.map Step.text)) = .ok (.member name :: steps) := by
  have htext : (name ++ String.join (steps.map Step.text)).toList =
      [] ++ (name.toList ++ stepsText steps) := by
    simp only [String.toList_append, String.toList_join, List.flatMap_map, stepsText,
      List.nil_append]
  have hends := endsBefore_isNamePart_stepsText steps
  rw [readSteps_eq_ok_iff_takePath, htext, takePath_name areBlanks_nil hname hends,
    (takeSteps_stepsText_iff hsteps).2 hquote, String.ofList_toList]
  rfl

theorem readSteps_name {name : String} (hname : IsName name.toList) :
    readSteps name = .ok [.member name] := by
  have hpath := readSteps_name_join hname (List.forall_mem_nil IsStep)
    (List.forall_mem_nil fun step => ¬HoldsQuote step)
  rwa [List.map_nil, String.join_nil, String.append_empty] at hpath

theorem readSteps_text {step : Step} (hstep : IsStep step) (hquote : ¬HoldsQuote step) :
    readSteps step.text = .ok [step] := by
  have hpath := (readSteps_join_text_iff (List.forall_mem_singleton.2 hstep)).2
    (List.forall_mem_singleton.2 hquote)
  rwa [List.map_singleton, String.join_cons, String.join_nil, String.append_empty] at hpath

/-- A path that was read is read again from the text that it is shown with.  Steps with valid names
and numbers of 64 bits are read again from their texts, one after another, exactly if no textual
index among them holds a single quote. -/
theorem shown_paths_read_back :
    (∀ text strict p, read text strict = .ok p → read p.text strict = .ok p) ∧
      ∀ steps, (∀ step ∈ steps, IsStep step) →
        (readSteps (String.join (steps.map Step.text)) = .ok steps ↔
          ∀ s, .index (.str s) ∈ steps → '\'' ∉ s.toList) := by
  refine ⟨fun text strict p => read_text, ?_⟩
  intro steps hsteps
  rw [readSteps_join_text_iff hsteps]
  constructor
  · intro h s hs
    exact h _ hs
  · intro h step hstep
    cases step with
    | member name => exact not_false
    | index i =>
        cases i with
        | int n => exact not_false
        | str s => exact h s hstep

/-- A path with blanks around it and within. -/
def paddedPath : Path := ⟨"_a[ 'x y ' ]", [.member "_a", .index (.str "x y ")], true⟩

theorem shown_paths_read_back_padded :
    read "\t_a[ 'x y ' ] " true = .ok paddedPath ∧ read paddedPath.text true = .ok paddedPath ∧
      readSteps ".a[-9223372036854775808]['\"]']" =
        .ok [.member "a", .index (.int (-9223372036854775808)), .index (.str "\"]")] ∧
      readSteps "['a'b']" ≠ .ok [.index (.str "a'b")] := by
  have hread : read "\t_a[ 'x y ' ] " true = .ok paddedPath :=
    value?_eq_some_iff.1 (by decide +kernel)
  have hname : IsStep (.member "a") := .mk (by decide +kernel) (by simp)
  have hleast : IsStep (.index (.int (-9223372036854775808))) := ⟨by decide, by decide⟩
  have hsteps : ∀ step ∈ [Step.member "a", .index (.int (-9223372036854775808)),
      .index (.str "\"]")], IsStep step :=
    List.forall_mem_cons.2 ⟨hname, List.forall_mem_cons.2 ⟨hleast, by simp [IsStep]⟩⟩
  have hquoted : ∀ step ∈ [Step.index (.str "a'b")], IsStep step := by simp [IsStep]
  have htext : String.join ([Step.member "a", .index (.int (-9223372036854775808)),
      .index (.str "\"]")].map Step.text) = ".a[-9223372036854775808]['\"]']" := by decide +kernel
  have hquotedText : String.join ([Step.index (.str "a'b")].map Step.text) = "['a'b']" := by
    decide +kernel
  have hshown := shown_paths_read_back.2 _ hsteps
  have hrefused := shown_paths_read_back.2 _ hquoted
  simp only [htext] at hshown
  simp only [hquotedText] at hrefused
  refine ⟨hread, shown_paths_read_back.1 _ _ _ hread, hshown.2 (by simp), ?_⟩
  intro h
  exact hrefused.1 h "a'b" (by simp) (by decide +kernel)

end Path
end ErrorTriage
