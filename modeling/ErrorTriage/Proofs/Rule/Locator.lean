import ErrorTriage.Proofs.Outcome
import ErrorTriage.Proofs.Rule.Tree
import ErrorTriage.Proofs.Text.Words

/-!
# Rule.Locator — locators are read back from the end of a text

A locator is written in one of three forms, behind a slash or at the start of a text.  `Denotes`
says which locator a text ends with, without cutting the text into segments.  A form that names a
namespace or a module alone is shadowed by a segment before it that makes the form with both out of
it: in `nsmodule/ns/rules` the namespace is `ns` and the module `rules`.

Reading finds the locator that a text denotes once the blanks around it and then the slashes at its
end are gone, and no other one.  A text that denotes none is the error of every rule that is
qualified by it.
-/

namespace ErrorTriage
namespace Locator

open ErrorTriage.Path (AreBlanks EndsBefore)
open ErrorTriage.Text (splitAt trimBack trimList isBlank)

/-! ## Forms -/

/-- The three forms of a locator. -/
inductive Form where
  | both (namespaceName moduleName : String)
  | namespaceAlone (name : String)
  | moduleAlone (name : String)
deriving DecidableEq

namespace Form

/-- The segment that tells the forms apart. -/
def keyword : Form → String
  | .both _ _ => "nsmodule"
  | .namespaceAlone _ => "ns"
  | .moduleAlone _ => "module"

def names : Form → List String
  | .both namespaceName moduleName => [namespaceName, moduleName]
  | .namespaceAlone name => [name]
  | .moduleAlone name => [name]

def segments (form : Form) : List String := form.keyword :: form.names

def text (form : Form) : String := "/".intercalate form.segments

def locator : Form → Locator
  | .both namespaceName moduleName => ⟨namespaceName, moduleName⟩
  | .namespaceAlone name => ⟨name, hostModule⟩
  | .moduleAlone name => ⟨name, name⟩

/-- Whether a form names only one of the two. -/
def isAlone : Form → Bool
  | .both _ _ => false
  | .namespaceAlone _ => true
  | .moduleAlone _ => true

end Form

/-- A text at the end of another one: behind a slash, if anything stands before it. -/
def behind : Option String → String → String
  | none, s => s
  | some lead, s => lead ++ "/" ++ s

def slashes (n : Nat) : String := String.ofList (List.replicate n '/')

/-- What can be a name in a locator. -/
structure IsName (s : String) : Prop where
  nonempty : s ≠ ""
  noSlash : '/' ∉ s.toList

/-- What stands before a form reads it as the two names of the form with both. -/
def Form.IsShadowedBy (form : Form) (lead : Option String) : Prop :=
  form.isAlone = true ∧ ∃ before, lead = some (behind before "nsmodule")

inductive Denotes : String → Locator → Prop where
  | intro (lead : Option String) (form : Form) (hnames : ∀ s ∈ form.names, IsName s)
      (hplain : ¬form.IsShadowedBy lead) : Denotes (behind lead form.text) form.locator

/-- A text without the blanks around it and then without the slashes at its end. -/
def stripped (text : String) : String :=
  String.ofList (withoutSlashes (trimList text.toList))

/-! ## Segments -/

/-- The segments of a text as it stands. -/
def segmentsOf (s : String) : List String := (splitAt '/' s.toList).map String.ofList

/-- The segments before the end of a text. -/
def leadSegments : Option String → List String
  | none => []
  | some lead => segmentsOf lead

/-- A locator is split at its slashes, without those at its end. -/
theorem segments_eq (text : String) : segments text = segmentsOf (stripped text) := by
  simp [segments, segmentsOf, stripped]

theorem noSlash_of_mem_segmentsOf {s segment : String} (h : segment ∈ segmentsOf s) :
    '/' ∉ segment.toList := by
  rcases List.mem_map.1 h with ⟨piece, hpiece, rfl⟩
  simpa using Text.not_mem_of_mem_splitAt hpiece

/-- The segments of a text behind another one come after the other ones. -/
theorem segmentsOf_behind (lead : Option String) (s : String) :
    segmentsOf (behind lead s) = leadSegments lead ++ segmentsOf s := by
  cases lead with
  | none => rfl
  | some text =>
      have hsplit := List.splitOn_append_cons_self (a := '/') text.toList s.toList
      have hchars : (behind (some text) s).toList = text.toList ++ '/' :: s.toList := by
        simp [behind]
      simp [segmentsOf, leadSegments, Text.splitAt_eq_splitOn, hchars, hsplit]

/-- Joined segments are split again. -/
theorem segmentsOf_intercalate {segments : List String} (hne : segments ≠ [])
    (hsegments : ∀ s ∈ segments, '/' ∉ s.toList) :
    segmentsOf ("/".intercalate segments) = segments := by
  have hpieces : ∀ piece ∈ segments.map String.toList, '/' ∉ piece := by
    intro piece hpiece
    rcases List.mem_map.1 hpiece with ⟨s, hs, rfl⟩
    exact hsegments s hs
  have hsplit := List.splitOn_intercalate '/' hpieces (by simpa using hne)
  have hslash : "/".toList = ['/'] := rfl
  simp [segmentsOf, Text.splitAt_eq_splitOn, String.toList_intercalate, hslash, hsplit]

theorem intercalate_segmentsOf (s : String) : "/".intercalate (segmentsOf s) = s := by
  have hjoin : ['/'].intercalate (s.toList.splitOn '/') = s.toList := List.intercalate_splitOn '/'
  have hslash : "/".toList = ['/'] := rfl
  rw [← String.toList_inj, String.toList_intercalate]
  simp [segmentsOf, Text.splitAt_eq_splitOn, Function.comp_def, hslash, hjoin]

/-- A text whose segments are given in two parts ends with the second one. -/
theorem exists_behind {s : String} {before after : List String}
    (h : segmentsOf s = before ++ after) (hafter : after ≠ []) :
    ∃ lead, s = behind lead ("/".intercalate after) ∧ leadSegments lead = before := by
  cases before with
  | nil =>
      have hs : s = "/".intercalate after := by rw [← intercalate_segmentsOf s, h, List.nil_append]
      exact ⟨none, hs, rfl⟩
  | cons first rest =>
      have hs : s = "/".intercalate (first :: rest) ++ "/" ++ "/".intercalate after := by
        rw [← String.intercalate_append_of_ne_nil (by simp) hafter, ← h, intercalate_segmentsOf]
      have hsegments : ∀ segment ∈ first :: rest, '/' ∉ segment.toList := by
        intro segment hsegment
        exact noSlash_of_mem_segmentsOf (h ▸ List.mem_append_left after hsegment)
      exact ⟨some _, hs, segmentsOf_intercalate (by simp) hsegments⟩

/-- What a text ends with behind a slash is its last segment. -/
theorem exists_behind_iff_getLast? {lead : Option String} {segment : String}
    (hsegment : '/' ∉ segment.toList) :
    (∃ before, lead = some (behind before segment)) ↔
      (leadSegments lead).getLast? = some segment := by
  have hself : segmentsOf segment = [segment] := by
    have hjoined : segmentsOf ("/".intercalate [segment]) = [segment] :=
      segmentsOf_intercalate (by simp) (by simpa using hsegment)
    simpa using hjoined
  constructor
  · rintro ⟨before, rfl⟩
    simp [leadSegments, segmentsOf_behind, hself]
  · intro h
    cases lead with
    | none => simp [leadSegments] at h
    | some text =>
        rcases List.getLast?_eq_some_iff.1 h with ⟨before, hbefore⟩
        rcases exists_behind hbefore (by simp) with ⟨lead, htext, _⟩
        exact ⟨lead, by simpa using htext⟩

/-! ## Reading segments -/

variable {rest : List String} {name : String}

/-- A form that names a namespace alone is read unless the segment before it makes it the form with
both. -/
theorem ofReversed?_namespaceAlone (h : rest.head? ≠ some "nsmodule") :
    ofReversed? (name :: "ns" :: rest) = some ⟨name, hostModule⟩ := by
  cases rest with
  | nil => rfl
  | cons segment more =>
      have hsegment : segment ≠ "nsmodule" := by simpa using h
      simp [ofReversed?, hsegment]

/-- From the end, a name behind `module` is that module, unless it is a pair behind `nsmodule`. -/
theorem ofReversed?_moduleAlone (h : rest.head? ≠ some "nsmodule") :
    ofReversed? (name :: "module" :: rest) = some ⟨name, name⟩ := by
  cases rest with
  | nil => rfl
  | cons segment more =>
      have hsegment : segment ≠ "nsmodule" := by simpa using h
      simp [ofReversed?, hsegment]

theorem getLast?_reverse_ne {segment : String} (h : ∀ more, rest ≠ segment :: more) :
    rest.reverse.getLast? ≠ some segment := by
  intro hlast
  rw [List.getLast?_reverse, List.head?_eq_some_iff] at hlast
  rcases hlast with ⟨more, hmore⟩
  exact h more hmore

/-- From the end, a locator is read off the segments of a form, unless a form with both names ends
there as well. -/
theorem ofReversed?_reverse_eq_some_iff {segments : List String} {l : Locator} :
    ofReversed? segments.reverse = some l ↔
      ∃ before form, segments = before ++ Form.segments form ∧ form.locator = l ∧
        ¬(form.isAlone = true ∧ before.getLast? = some "nsmodule") := by
  constructor
  · intro h
    -- The reader takes the segments from the last one on.
    obtain ⟨reversed, rfl⟩ : ∃ reversed, segments = reversed.reverse := ⟨segments.reverse, by simp⟩
    rw [List.reverse_reverse] at h
    unfold ofReversed? at h
    split at h
    · next last previous rest =>
      cases h
      refine ⟨rest.reverse, .both previous last, ?_, rfl, ?_⟩
      · simp [Form.segments, Form.keyword, Form.names]
      · simp [Form.isAlone]
    · next last rest hboth =>
      cases h
      refine ⟨rest.reverse, .namespaceAlone last, ?_, rfl, ?_⟩
      · simp [Form.segments, Form.keyword, Form.names]
      · exact fun hshadowed => getLast?_reverse_ne hboth hshadowed.2
    · next last rest hboth =>
      cases h
      refine ⟨rest.reverse, .moduleAlone last, ?_, rfl, ?_⟩
      · simp [Form.segments, Form.keyword, Form.names]
      · exact fun hshadowed => getLast?_reverse_ne hboth hshadowed.2
    · cases h
  · rintro ⟨before, form, rfl, rfl, hplain⟩
    have hreversed : (before ++ form.segments).reverse =
        form.names.reverse ++ form.keyword :: before.reverse := by
      simp [Form.segments]
    rw [hreversed]
    cases form with
    | both namespaceName moduleName => rfl
    | namespaceAlone name =>
        have hhead : before.reverse.head? ≠ some "nsmodule" := by simpa [Form.isAlone] using hplain
        exact ofReversed?_namespaceAlone hhead
    | moduleAlone name =>
        have hhead : before.reverse.head? ≠ some "nsmodule" := by simpa [Form.isAlone] using hplain
        exact ofReversed?_moduleAlone hhead

/-! ## Reading texts -/

/-- A form of proper names has no slashes but those between its segments. -/
theorem noSlash_of_mem_segments {form : Form} (h : ∀ s ∈ form.names, IsName s) :
    ∀ s ∈ form.segments, '/' ∉ s.toList := by
  intro s hs
  rcases List.mem_cons.1 hs with rfl | hs
  · cases form <;> simp [Form.keyword]
  · exact (h s hs).noSlash

/-- The two names of a form's locator are empty only if a name in the form is. -/
theorem Form.names_nonempty_iff (form : Form) :
    (∀ s ∈ form.names, s ≠ "") ↔
      form.locator.namespaceName ≠ "" ∧ form.locator.moduleName ≠ "" := by
  have hhost : hostModule ≠ "" := by decide
  cases form <;> simp [names, locator, hhost]

/-- Reading finds the locator that a text denotes once it is stripped, and no other. -/
theorem ofText?_eq_some_iff {text : String} {l : Locator} :
    ofText? text = some l ↔ Denotes (stripped text) l := by
  have hread : ofText? text = some l ↔
      ofReversed? (segmentsOf (stripped text)).reverse = some l ∧
        l.namespaceName ≠ "" ∧ l.moduleName ≠ "" := by
    simp only [ofText?, segments_eq]
    cases ofReversed? (segmentsOf (stripped text)).reverse with
    | none => simp
    | some found =>
        simp only [String.isEmpty_iff]
        grind
  rw [hread, ofReversed?_reverse_eq_some_iff]
  constructor
  · rintro ⟨⟨before, form, hsegments, rfl, hplain⟩, hnonempty⟩
    rcases exists_behind hsegments (List.cons_ne_nil _ _) with ⟨lead, htext, rfl⟩
    have hnames : ∀ s ∈ form.names, IsName s := by
      intro s hs
      have hmem : s ∈ segmentsOf (stripped text) :=
        hsegments ▸ List.mem_append_right _ (List.mem_cons_of_mem _ hs)
      exact ⟨form.names_nonempty_iff.2 hnonempty s hs, noSlash_of_mem_segmentsOf hmem⟩
    rw [htext]
    refine .intro lead form hnames ?_
    rintro ⟨halone, hbefore⟩
    exact hplain ⟨halone, (exists_behind_iff_getLast? (by decide)).1 hbefore⟩
  · intro h
    generalize stripped text = s at h
    cases h with
    | intro lead form hnames hplain =>
        have hsegments : segmentsOf form.text = form.segments :=
          segmentsOf_intercalate (List.cons_ne_nil _ _) (noSlash_of_mem_segments hnames)
        refine ⟨⟨leadSegments lead, form, ?_, rfl, ?_⟩, ?_⟩
        · rw [segmentsOf_behind, hsegments]
        · rintro ⟨halone, hlast⟩
          exact hplain ⟨halone, (exists_behind_iff_getLast? (by decide)).2 hlast⟩
        · exact form.names_nonempty_iff.1 fun s hs => (hnames s hs).nonempty

/-! ## Writing texts -/

theorem withoutSlashes_append {cs : List Char} (h : '/' ∉ cs.getLast?) (n : Nat) :
    withoutSlashes (cs ++ List.replicate n '/') = cs := by
  have hlast : cs.rdropWhile (· = '/') = cs := by
    refine List.rdropWhile_eq_self_iff.2 ?_
    intro hne hslash
    exact h (by simpa [List.getLast?_eq_getLast_of_ne_nil hne] using hslash)
  have hslashes : ∀ c ∈ List.replicate n '/', decide (c = '/') = true := by
    intro c hc
    simpa using List.eq_of_mem_replicate hc
  calc withoutSlashes (cs ++ List.replicate n '/')
      = ((List.replicate n '/' ++ cs.reverse).dropWhile (· = '/')).reverse := by
        simp [withoutSlashes]
    _ = (cs.reverse.dropWhile (· = '/')).reverse := by
        rw [List.dropWhile_append_of_pos hslashes]
    _ = cs := hlast

theorem endsBefore_append {p : Char → Bool} {front back : List Char} (hfront : EndsBefore p front)
    (hback : EndsBefore p back) : EndsBefore p (front ++ back) := by
  cases front with
  | nil => exact hback
  | cons c rest => exact .cons (hfront c rfl) _

/-- A form starts with its keyword and ends with one of its names. -/
theorem Form.exists_last (form : Form) :
    ∃ start, EndsBefore isBlank start.toList ∧ ∃ last ∈ form.names, form.text = start ++ last := by
  cases form with
  | both namespaceName moduleName =>
      have hstart : EndsBefore isBlank ("nsmodule/" ++ namespaceName ++ "/").toList := by
        rw [String.toList_append, String.toList_append]
        exact .cons (c := 'n') rfl _
      refine ⟨_, hstart, moduleName, by simp [names], ?_⟩
      simp [text, segments, keyword, names, String.append_assoc]
  | namespaceAlone name =>
      have hstart : EndsBefore isBlank "ns/".toList := .cons (c := 'n') rfl _
      refine ⟨_, hstart, name, by simp [names], ?_⟩
      simp [text, segments, keyword, names]
  | moduleAlone name =>
      have hstart : EndsBefore isBlank "module/".toList := .cons (c := 'm') rfl _
      refine ⟨_, hstart, name, by simp [names], ?_⟩
      simp [text, segments, keyword, names]

/-- A written locator starts without a blank, and its end is that of a name. -/
theorem exists_last_behind {lead : Option String}
    (hlead : ∀ before ∈ lead, EndsBefore isBlank before.toList) (form : Form) :
    ∃ start, EndsBefore isBlank start ∧ ∃ last ∈ form.names,
      (behind lead form.text).toList = start ++ last.toList := by
  rcases form.exists_last with ⟨start, hstart, last, hlast, htext⟩
  cases lead with
  | none => exact ⟨start.toList, hstart, last, hlast, by simp [behind, htext]⟩
  | some before =>
      have hslash : EndsBefore isBlank ('/' :: start.toList) := .cons rfl _
      have hbefore := endsBefore_append (hlead before rfl) hslash
      exact ⟨_, hbefore, last, hlast, by simp [behind, htext]⟩

/-- Blanks and slashes around a locator do not outlast the stripping. -/
theorem stripped_written {lead : Option String} {form : Form} {front back : String}
    (hlead : ∀ before ∈ lead, EndsBefore isBlank before.toList)
    (hnames : ∀ s ∈ form.names, IsName s ∧ Text.trim s = s)
    (hfront : Text.isBlankText front = true) (hback : Text.isBlankText back = true) (n : Nat) :
    stripped (front ++ (behind lead form.text ++ slashes n ++ back)) = behind lead form.text := by
  rcases exists_last_behind hlead form with ⟨start, hstart, last, hlast, hwritten⟩
  rcases hnames last hlast with ⟨hname, htrim⟩
  have hne : last.toList ≠ [] := by simpa using hname.nonempty
  have htrimmed : trimList last.toList = last.toList := by
    simpa [Text.trim] using congrArg String.toList htrim
  -- A name that is trimmed has no blank at its end, whatever stands before it.
  have hlastBack : trimBack last.toList = last.toList := by
    rw [← htrimmed]
    exact Text.trimBack_trimBack _
  have hlastFront : EndsBefore isBlank last.toList := htrimmed ▸ Text.endsBefore_trimList _
  have hends : EndsBefore isBlank (start ++ last.toList ++ List.replicate n '/') := by
    refine endsBefore_append (endsBefore_append hstart hlastFront) ?_
    cases n with
    | zero => exact Path.endsBefore_nil _
    | succ n => exact .cons rfl _
  have hkept : trimBack (start ++ last.toList ++ List.replicate n '/') =
      start ++ last.toList ++ List.replicate n '/' := by
    cases n with
    | zero => simp [Text.trimBack_append, hlastBack, hne]
    | succ n =>
        have hslashes : Text.IsWord (List.replicate (n + 1) '/') := by
          refine ⟨by simp, ?_⟩
          intro c hc
          rw [List.eq_of_mem_replicate hc]
          rfl
        exact hslashes.trimBack_append _
  have hnoSlash : '/' ∉ (start ++ last.toList).getLast? := by
    intro hslash
    rw [List.getLast?_append_of_ne_nil _ hne] at hslash
    exact hname.noSlash (List.mem_of_getLast? hslash)
  have hfront' : AreBlanks front.toList := List.all_eq_true.1 hfront
  have hback' : AreBlanks back.toList := List.all_eq_true.1 hback
  have hchars : (front ++ (behind lead form.text ++ slashes n ++ back)).toList =
      front.toList ++ ((start ++ last.toList ++ List.replicate n '/') ++ back.toList) := by
    simp [slashes, hwritten]
  rw [stripped, hchars, Text.trimList_between hfront' hback', Text.trimList_eq_self hends hkept,
    withoutSlashes_append hnoSlash, ← hwritten, String.ofList_toList]

/-! ## Rules that are qualified -/

/-- Once there is a builder, a failure is one while building the rule. -/
theorem exists_whileBuilding {d : Dialect} {node : RuleNode} {b : Builder} {e : RuleError}
    (hbuilder : d.builderOf node = .ok b) (h : d.build node = .error e) :
    ∃ found, e = .whileBuilding node.name found := by
  rw [Dialect.build_eq, hbuilder] at h
  cases b with
  | leaf make =>
      rcases mapError_eq_error_iff.1 h with ⟨found, _, he⟩
      exact ⟨found, he⟩
  | composite combine =>
      rcases mapError_eq_error_iff.1 h with ⟨found, _, he⟩
      exact ⟨found, he⟩
  | bound params make =>
      rcases mapError_eq_error_iff.1 h with ⟨found, _, he⟩
      exact ⟨found, he⟩

/-- A rule is qualified by a text that denotes no locator exactly if the text is its error. -/
theorem build_eq_invalidLocator_iff {d : Dialect} {node : RuleNode} {text : String}
    (hlocator : node.locator = some text) :
    d.build node = .error (.invalidLocator text) ↔ ofText? text = none := by
  constructor
  · intro h
    cases hbuilder : d.builderOf node with
    | ok b =>
        rcases exists_whileBuilding hbuilder h with ⟨found, hfound⟩
        cases hfound
    | error e =>
        rw [Dialect.build_eq, hbuilder] at h
        cases h
        simp only [Dialect.builderOf, Dialect.vocabularyOf, hlocator] at hbuilder
        cases hread : ofText? text with
        | none => rfl
        | some l =>
            simp only [hread] at hbuilder
            cases hmodule : d.modules.resolve? l with
            | none => simp [hmodule] at hbuilder
            | some vocabulary =>
                simp only [hmodule] at hbuilder
                split at hbuilder <;> cases hbuilder
  · intro h
    simp [Dialect.build_eq, Dialect.builderOf, Dialect.vocabularyOf, hlocator, h]

/-- A locator that is read has proper names. -/
theorem Denotes.isName {text : String} {l : Locator} (h : Denotes text l) :
    IsName l.namespaceName ∧ IsName l.moduleName := by
  have hhost : IsName hostModule := ⟨by decide, by decide⟩
  cases h with
  | intro lead form hnames _ =>
      cases form with
      | both namespaceName moduleName =>
          exact ⟨hnames _ List.mem_cons_self, hnames moduleName (by simp [Form.names])⟩
      | namespaceAlone name => exact ⟨hnames _ List.mem_cons_self, hhost⟩
      | moduleAlone name => exact ⟨hnames _ List.mem_cons_self, hnames _ List.mem_cons_self⟩

/-- Locators are read as they were written, with any blanks around them and any slashes at their
end.  What is read is what the text denotes once it is stripped, and its two names are names.  All
other texts are refused as they stand. -/
theorem locators_are_read_from_the_end :
    (∀ (lead : Option String) (form : Form) (front back : String) (n : Nat),
      (∀ before ∈ lead, EndsBefore isBlank before.toList) →
      (∀ s ∈ form.names, IsName s ∧ Text.trim s = s) → ¬form.IsShadowedBy lead →
      Text.isBlankText front = true → Text.isBlankText back = true →
      ofText? (front ++ (behind lead form.text ++ slashes n ++ back)) = some form.locator) ∧
    (∀ text l, ofText? text = some l ↔ Denotes (stripped text) l) ∧
    (∀ text l, ofText? text = some l → IsName l.namespaceName ∧ IsName l.moduleName) ∧
    ∀ (text : String) (d : Dialect) (node : RuleNode), node.locator = some text →
      (d.build node = .error (.invalidLocator text) ↔ ¬∃ l, Denotes (stripped text) l) := by
  refine ⟨?_, fun text l => ofText?_eq_some_iff, ?_, ?_⟩
  · intro lead form front back n hlead hnames hplain hfront hback
    rw [ofText?_eq_some_iff, stripped_written hlead hnames hfront hback]
    exact .intro lead form (fun s hs => (hnames s hs).1) hplain
  · intro text l hread
    exact (ofText?_eq_some_iff.1 hread).isName
  · intro text d node hlocator
    rw [build_eq_invalidLocator_iff hlocator]
    simp only [← ofText?_eq_some_iff, Option.eq_none_iff_forall_ne_some, not_exists]

/-- A locator behind segments that look like two other forms, and one whose name is missing. -/
theorem locators_are_read_from_the_end_acme :
    ofText? "  urn:ns/nsmodule/module/nsmodule/Acme Rules/acme//\t" = some ⟨"Acme Rules", "acme"⟩ ∧
    ∀ d : Dialect, d.build ⟨"equal", some "urn:rules/ns/ ", .empty, []⟩ =
      .error (.invalidLocator "urn:rules/ns/ ") := by
  rcases locators_are_read_from_the_end with ⟨hwritten, hread, _, hrefused⟩
  constructor
  · refine hwritten (some "urn:ns/nsmodule/module") (.both "Acme Rules" "acme") "  " "\t" 2 ?_ ?_ ?_
      rfl rfl
    · intro before hbefore
      cases hbefore
      exact .cons (c := 'u') rfl _
    · intro s hs
      rcases List.mem_cons.1 hs with rfl | hs
      · exact ⟨⟨by decide, by decide⟩, by decide +kernel⟩
      · cases List.mem_singleton.1 hs
        exact ⟨⟨by decide, by decide⟩, by decide +kernel⟩
    · rintro ⟨halone, _⟩
      cases halone
  · intro d
    refine (hrefused _ d _ rfl).2 ?_
    rintro ⟨l, hl⟩
    have hnone : ofText? "urn:rules/ns/ " = none := by decide +kernel
    rw [(hread _ l).2 hl] at hnone
    cases hnone

end Locator
end ErrorTriage
