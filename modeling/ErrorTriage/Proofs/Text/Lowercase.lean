import ErrorTriage.Text.Lowercase
import Mathlib.Data.List.Infix
import Mathlib.Data.Nat.Basic

/-!
# Text.Lowercase — the lower case of a part of a text

Every character is lowered on its own but for the capital sigma, which has a lower case for the end
of a word.  So a part of a text is lowered between what stands before and after it there, and that
is the lower case of the part alone if its sigmas end words in both or in neither.  The case of the
ASCII letters makes no difference.
-/

namespace ErrorTriage
namespace Text

/-! ## Occurrences -/

/-- The search finds exactly the parts of a text. -/
theorem occursIn_iff_isInfix {needle cs : List Char} :
    occursIn needle cs = true ↔ needle <:+: cs := by
  induction cs with
  | nil => simp [occursIn]
  | cons c rest ih =>
      rw [occursIn, Bool.or_eq_true, List.isPrefixOf_iff_prefix, ih, List.infix_cons_iff]

/-! ## The tables at the ASCII characters -/

/-- A table in lines has the rows of each line, one line after another. -/
theorem rowsOfLines_cons {line : String} {cs : List Char} {lines : List String}
    {rows : List (List Char)} (hline : line = String.ofList cs)
    (hlines : rowsOfLines lines = rows) :
    rowsOfLines (line :: lines) = splitAt ' ' cs ++ rows := by
  rw [rowsOfLines, List.flatMap_cons, hline, String.toList_ofList, ← hlines, rowsOfLines]

/-- A set is searched in rows that are known. -/
theorem RangeTable.forall_contains_ofLines {lines : List String} {rows : List (List Char)}
    {f : Nat → Bool} {bound : Nat} (hrows : rowsOfLines lines = rows)
    (h : ∀ n < bound, RangeTable.contains ⟨(rows.map rangeOfRow).toArray⟩ n = f n) :
    ∀ n < bound, (ofLines lines).contains n = f n := by
  rwa [ofLines, hrows]

/-- The ASCII letters, which are the cased ASCII characters. -/
def isAsciiLetter (n : Nat) : Bool :=
  65 ≤ n && n ≤ 90 || 97 ≤ n && n ≤ 122

/-- The ASCII characters that case ignores: the apostrophe, the full stop, the colon, the circumflex
and the grave accent. -/
def asciiIgnorable : List Nat := [0x27, 0x2E, 0x3A, 0x5E, 0x60]

/-- Of ASCII the letters are cased. -/
theorem cased_ascii : ∀ n < 128, Property.cased.contains n = isAsciiLetter n := by
  -- The kernel is slow at taking a text apart, so the lines are spelled out before they are read.
  apply RangeTable.forall_contains_ofLines
  · repeat apply rowsOfLines_cons rfl
    exact rfl
  · decide +kernel

/-- Of ASCII five marks are ignored between cased characters. -/
theorem caseIgnorable_ascii : ∀ n < 128,
    Property.caseIgnorable.contains n = asciiIgnorable.contains n := by
  apply RangeTable.forall_contains_ofLines
  · repeat apply rowsOfLines_cons rfl
    exact rfl
  · decide +kernel

/-! ## The case of ASCII letters -/

/-- Only ASCII capitals have another lower form. -/
theorem toLower_eq_self_or (c : Char) :
    c.toLower = c ∨ 65 ≤ c.toNat ∧ c.toNat ≤ 90 ∧ c.toLower.toNat = c.toNat + 32 := by
  by_cases hcapital : 'A'.val ≤ c.val ∧ c.val ≤ 'Z'.val
  · have hlow : 65 ≤ c.toNat := UInt32.le_iff_toNat_le.1 hcapital.1
    have hhigh : c.toNat ≤ 90 := UInt32.le_iff_toNat_le.1 hcapital.2
    have hlower : c.toLower.val = c.val + 32 := congrArg Char.val (dif_pos hcapital)
    refine .inr ⟨hlow, hhigh, ?_⟩
    rw [← Char.toNat_val, hlower, UInt32.toNat_add, Char.toNat_val]
    exact Nat.mod_eq_of_lt (by change c.toNat + 32 < 2 ^ 32; omega)
  · exact .inl (dif_neg hcapital)

/-- The ASCII case of a character does not change whether it is cased. -/
theorem contains_cased_toLower (c : Char) :
    Property.cased.contains c.toLower.toNat = Property.cased.contains c.toNat := by
  rcases toLower_eq_self_or c with h | ⟨hlow, hhigh, hlower⟩
  · rw [h]
  · have hletters : isAsciiLetter (c.toNat + 32) = isAsciiLetter c.toNat := by
      grind [isAsciiLetter]
    rw [hlower, cased_ascii _ (by omega), cased_ascii _ (by omega), hletters]

theorem contains_caseIgnorable_toLower (c : Char) :
    Property.caseIgnorable.contains c.toLower.toNat = Property.caseIgnorable.contains c.toNat := by
  rcases toLower_eq_self_or c with h | ⟨hlow, hhigh, hlower⟩
  · rw [h]
  · have hletters : asciiIgnorable.contains (c.toNat + 32) = asciiIgnorable.contains c.toNat := by
      grind [asciiIgnorable]
    rw [hlower, caseIgnorable_ascii _ (by omega), caseIgnorable_ascii _ (by omega), hletters]

theorem leadsToCased_nil : leadsToCased [] = false :=
  rfl

/-- A character that is ignored leads to whatever comes after it. -/
theorem leadsToCased_cons_of_ignorable {c : Char}
    (h : Property.caseIgnorable.contains c.toNat = true) (cs : List Char) :
    leadsToCased (c :: cs) = leadsToCased cs := by
  rw [leadsToCased, List.dropWhile_cons, if_pos h, leadsToCased]

theorem leadsToCased_cons_of_not_ignorable {c : Char}
    (h : Property.caseIgnorable.contains c.toNat = false) (cs : List Char) :
    leadsToCased (c :: cs) = Property.cased.contains c.toNat := by
  rw [leadsToCased, List.dropWhile_cons, if_neg (Bool.eq_false_iff.1 h)]

theorem leadsToCased_cons_ascii {c : Char} (hascii : c.toNat < 128)
    (hplain : asciiIgnorable.contains c.toNat = false) (cs : List Char) :
    leadsToCased (c :: cs) = isAsciiLetter c.toNat := by
  have hnotIgnorable := (caseIgnorable_ascii _ hascii).trans hplain
  rw [leadsToCased_cons_of_not_ignorable hnotIgnorable, cased_ascii _ hascii]

/-- The ASCII case of a text does not change what it leads to. -/
theorem leadsToCased_map_toLower (cs : List Char) :
    leadsToCased (cs.map Char.toLower) = leadsToCased cs := by
  induction cs with
  | nil => simp only [List.map_nil]
  | cons c rest ih =>
      have hignorable := contains_caseIgnorable_toLower c
      rw [List.map_cons]
      cases h : Property.caseIgnorable.contains c.toNat with
      | true =>
          rw [leadsToCased_cons_of_ignorable (hignorable.trans h),
            leadsToCased_cons_of_ignorable h, ih]
      | false =>
          rw [leadsToCased_cons_of_not_ignorable (hignorable.trans h),
            leadsToCased_cons_of_not_ignorable h, contains_cased_toLower]

theorem toLower_toLower (c : Char) : c.toLower.toLower = c.toLower := by
  rcases toLower_eq_self_or c with hself | ⟨hlow, _, hlower⟩
  · rw [hself, hself]
  · rcases toLower_eq_self_or c.toLower with hself | ⟨_, hhigh, _⟩
    · exact hself
    · omega

/-- The ASCII case of a character does not change its lower case. -/
theorem lowercaseChar_toLower (c : Char) : lowercaseChar c.toLower = lowercaseChar c := by
  rcases toLower_eq_self_or c with hself | ⟨_, hhigh, hlower⟩
  · rw [hself]
  · have hascii : c.toNat < 128 := by omega
    have hasciiLower : c.toLower.toNat < 128 := by omega
    rw [lowercaseChar, if_pos hasciiLower, lowercaseChar, if_pos hascii, toLower_toLower]

/-! ## A character between its neighbours -/

/-- Whether a capital sigma ends a word between the characters before it, nearest first, and those
after it. -/
def endsWord (before after : List Char) : Bool :=
  leadsToCased before && !leadsToCased after

/-- The lower case of a character between its neighbours. -/
def lowercaseAt (before : List Char) (c : Char) (after : List Char) : List Char :=
  if c.toNat = 0x3A3 then
    if endsWord before after then ['\u03C2'] else ['\u03C3']
  else lowercaseChar c

theorem lowercaseAfter_cons (before : List Char) (c : Char) (rest : List Char) :
    lowercaseAfter before (c :: rest) =
      lowercaseAt before c rest ++ lowercaseAfter (c :: before) rest :=
  rfl

theorem toNat_eq_sigma_iff {c : Char} : c.toNat = 0x3A3 ↔ c = 'Σ' :=
  Char.toNat_inj (d := 'Σ')

/-- Only the sigma looks at its neighbours. -/
theorem lowercaseAt_of_ne {c : Char} (h : c ≠ 'Σ') (before after : List Char) :
    lowercaseAt before c after = lowercaseChar c := by
  rw [lowercaseAt, if_neg (mt toNat_eq_sigma_iff.1 h)]

theorem lowercaseAt_sigma (before after : List Char) :
    lowercaseAt before 'Σ' after = if endsWord before after then ['ς'] else ['σ'] := by
  rw [lowercaseAt, if_pos (by decide)]

/-- Both forms of the sigma are one character. -/
theorem length_lowercaseAt (before : List Char) (c : Char) (after : List Char) :
    (lowercaseAt before c after).length = (lowercaseAt [] c []).length := by
  by_cases h : c = 'Σ'
  · subst h
    rw [lowercaseAt_sigma, lowercaseAt_sigma]
    split <;> split <;> rfl
  · rw [lowercaseAt_of_ne h, lowercaseAt_of_ne h]

/-- Neighbours matter for a character only if it is a sigma, and then by whether it ends a word. -/
theorem lowercaseAt_eq_iff {before after before' after' : List Char} {c : Char} :
    lowercaseAt before c after = lowercaseAt before' c after' ↔
      (c = 'Σ' → endsWord before after = endsWord before' after') := by
  by_cases h : c = 'Σ'
  · subst h
    rw [lowercaseAt_sigma, lowercaseAt_sigma]
    cases endsWord before after <;> cases endsWord before' after' <;> simp
  · simp [lowercaseAt_of_ne h, h]

theorem endsWord_map_toLower (before after : List Char) :
    endsWord (before.map Char.toLower) (after.map Char.toLower) = endsWord before after := by
  rw [endsWord, leadsToCased_map_toLower, leadsToCased_map_toLower, endsWord]

/-- ASCII case, of a character or its neighbours, does not change its lower case. -/
theorem lowercaseAt_toLower (before : List Char) (c : Char) (after : List Char) :
    lowercaseAt (before.map Char.toLower) c.toLower (after.map Char.toLower) =
      lowercaseAt before c after := by
  by_cases h : c = 'Σ'
  · have hlower : ('Σ' : Char).toLower = 'Σ' := by decide
    rw [h, hlower, lowercaseAt_sigma, lowercaseAt_sigma, endsWord_map_toLower]
  · have hlower : c.toLower ≠ 'Σ' := by
      rcases toLower_eq_self_or c with hself | ⟨_, hhigh, htoNat⟩
      · rwa [hself]
      · intro hsigma
        have := toNat_eq_sigma_iff.2 hsigma
        omega
    rw [lowercaseAt_of_ne h, lowercaseAt_of_ne hlower, lowercaseChar_toLower]

/-- ASCII case does not change the lower case of a text. -/
theorem lowercaseAfter_map_toLower (before cs : List Char) :
    lowercaseAfter (before.map Char.toLower) (cs.map Char.toLower) = lowercaseAfter before cs := by
  induction cs generalizing before with
  | nil => rfl
  | cons c rest ih =>
      rw [List.map_cons, lowercaseAfter_cons, lowercaseAfter_cons, lowercaseAt_toLower,
        ← List.map_cons, ih]

/-- Texts that differ in the case of ASCII letters have one lower case. -/
theorem lowercase_eq_of_sameIgnoringAsciiCase {a b : String}
    (h : sameIgnoringAsciiCase a b = true) : lowercase a = lowercase b := by
  have hlower : a.toList.map Char.toLower = b.toList.map Char.toLower := eq_of_beq h
  calc
    lowercase a = lowercaseAfter [] (a.toList.map Char.toLower) :=
      (lowercaseAfter_map_toLower [] a.toList).symm
    _ = lowercaseAfter [] (b.toList.map Char.toLower) := by rw [hlower]
    _ = lowercase b := lowercaseAfter_map_toLower [] b.toList

/-! ## A part between what stands before and after it -/

/-- The lower case of a part between the characters before it, nearest first, and those after
it. -/
def lowercaseBetween (before after : List Char) : List Char → List Char
  | [] => []
  | c :: rest => lowercaseAt before c (rest ++ after) ++ lowercaseBetween (c :: before) after rest

theorem lowercaseBetween_nil (before part : List Char) :
    lowercaseBetween before [] part = lowercaseAfter before part := by
  induction part generalizing before with
  | nil => rfl
  | cons c rest ih =>
      rw [lowercaseBetween, lowercaseAfter_cons, List.append_nil, ih]

/-- Lower-casing a text goes through its parts, each between its neighbours. -/
theorem lowercaseAfter_append (before part after : List Char) :
    lowercaseAfter before (part ++ after) =
      lowercaseBetween before after part ++ lowercaseAfter (part.reverse ++ before) after := by
  induction part generalizing before with
  | nil => rfl
  | cons c rest ih =>
      rw [List.cons_append, lowercaseAfter_cons, ih, lowercaseBetween, List.append_assoc,
        List.reverse_cons, List.append_assoc, List.singleton_append]

/-- Where a part stands makes no difference to the length of its lower case. -/
theorem length_lowercaseBetween (before after part : List Char) :
    (lowercaseBetween before after part).length = (lowercaseAfter [] part).length := by
  have hfree : ∀ before' after' : List Char, (lowercaseBetween before after part).length =
      (lowercaseBetween before' after' part).length := by
    induction part generalizing before with
    | nil => exact fun _ _ => rfl
    | cons c rest ih =>
        intro before' after'
        rw [lowercaseBetween, lowercaseBetween, List.length_append, List.length_append,
          length_lowercaseAt, length_lowercaseAt before', ih (c :: before) (c :: before') after']
  rw [← lowercaseBetween_nil, hfree [] []]

/-- A character of a text is its first one or a character of the rest. -/
theorem forall_split_cons_iff {mark c : Char} {rest : List Char}
    {P : List Char → List Char → Prop} :
    (∀ u v, c :: rest = u ++ mark :: v → P u v) ↔
      (c = mark → P [] rest) ∧ ∀ u v, rest = u ++ mark :: v → P (c :: u) v := by
  constructor
  · intro h
    refine ⟨?_, ?_⟩
    · rintro rfl
      exact h [] rest rfl
    · rintro u v rfl
      exact h (c :: u) v rfl
  · rintro ⟨hfirst, hrest⟩ u v h
    rcases List.cons_eq_append_iff.1 h with ⟨rfl, hhere⟩ | ⟨u', rfl, hthere⟩
    · rw [List.cons.injEq] at hhere
      rcases hhere with ⟨rfl, rfl⟩
      exact hfirst rfl
    · exact hrest u' v hthere

/-- Where a part stands makes no difference to its lower case if it makes none to which of its
sigmas end words. -/
theorem lowercaseBetween_eq_iff {before after before' after' part : List Char} :
    lowercaseBetween before after part = lowercaseBetween before' after' part ↔
      ∀ u v, part = u ++ 'Σ' :: v →
        endsWord (u.reverse ++ before) (v ++ after) =
          endsWord (u.reverse ++ before') (v ++ after') := by
  induction part generalizing before before' with
  | nil => simp [lowercaseBetween]
  | cons c rest ih =>
      have hlength : (lowercaseAt before c (rest ++ after)).length =
          (lowercaseAt before' c (rest ++ after')).length := by
        rw [length_lowercaseAt, length_lowercaseAt before']
      have hparts : lowercaseBetween before after (c :: rest) =
            lowercaseBetween before' after' (c :: rest) ↔
          lowercaseAt before c (rest ++ after) = lowercaseAt before' c (rest ++ after') ∧
            lowercaseBetween (c :: before) after rest =
              lowercaseBetween (c :: before') after' rest := by
        refine ⟨fun h => List.append_inj h hlength, ?_⟩
        rintro ⟨hhere, hrest⟩
        rw [lowercaseBetween, hhere, hrest, lowercaseBetween]
      rw [hparts, lowercaseAt_eq_iff, ih, forall_split_cons_iff]
      simp

/-- The sigmas of a part end words where it stands if they end words in the part alone. -/
def KeepsSigmas (before part after : List Char) : Prop :=
  ∀ u v, part = u ++ 'Σ' :: v →
    endsWord (u.reverse ++ before.reverse) (v ++ after) = endsWord u.reverse v

/-- A part without a sigma has none that could change. -/
theorem keepsSigmas_of_not_mem {part : List Char} (h : 'Σ' ∉ part) (before after : List Char) :
    KeepsSigmas before part after := by
  rintro u v rfl
  exact absurd List.mem_append_cons_self h

/-- The sigmas of a text begin words: no cased character comes before them. -/
def SigmasBeginWords (cs : List Char) : Prop :=
  ∀ u v, cs = u ++ 'Σ' :: v → leadsToCased u.reverse = false

theorem leadsToCased_append {cs : List Char} (h : leadsToCased cs = true) (more : List Char) :
    leadsToCased (cs ++ more) = true := by
  induction cs with
  | nil => cases h
  | cons c rest ih =>
      rw [List.cons_append]
      cases hc : Property.caseIgnorable.contains c.toNat with
      | true =>
          rw [leadsToCased_cons_of_ignorable hc] at h ⊢
          exact ih h
      | false =>
          rw [leadsToCased_cons_of_not_ignorable hc] at h ⊢
          exact h

/-- Every part of a text keeps its sigmas if and only if no sigma comes after a cased character. -/
theorem forall_keepsSigmas_iff {cs : List Char} :
    (∀ before part after, cs = before ++ (part ++ after) → KeepsSigmas before part after) ↔
      SigmasBeginWords cs := by
  constructor
  · rintro hkeeps u v rfl
    -- A sigma after a cased character ends no word by itself, and it ends one in the part up to it.
    have halone : endsWord u.reverse v = false := by
      simpa [endsWord, leadsToCased] using hkeeps u ['Σ'] v rfl [] [] rfl
    have hupto : endsWord u.reverse v = leadsToCased u.reverse := by
      simpa [endsWord, leadsToCased] using hkeeps [] (u ++ ['Σ']) v (by simp) u [] rfl
    rw [← hupto, halone]
  · rintro hbegin before part after rfl u v rfl
    -- What comes before the sigma in the part comes before it in the text.
    have hwhole : leadsToCased (u.reverse ++ before.reverse) = false := by
      simpa using hbegin (before ++ u) (v ++ after) (by simp)
    have halone : leadsToCased u.reverse = false := by
      refine Bool.eq_false_iff.2 fun h => ?_
      rw [leadsToCased_append h] at hwhole
      cases hwhole
    rw [endsWord, hwhole, endsWord, halone]
    rfl

/-! ## A part of a text -/

variable {value text : String} {before part after : List Char}

/-- The lower case of a text consists of those of its parts, each where it stands. -/
theorem lowercase_eq_append (hvalue : value.toList = before ++ (part ++ after)) :
    lowercase value =
      lowercaseBetween [] (part ++ after) before ++
        (lowercaseBetween before.reverse after part ++
          lowercaseAfter (part.reverse ++ before.reverse) after) := by
  rw [lowercase, hvalue, lowercaseAfter_append, List.append_nil, lowercaseAfter_append]

theorem lowercase_ofList (cs : List Char) :
    lowercase (String.ofList cs) = lowercaseAfter [] cs := by
  rw [lowercase, String.toList_ofList]

/-- The lower case of a part stands in that of the text where the part does if the part keeps its
sigmas. -/
theorem lowercase_part_iff (hvalue : value.toList = before ++ (part ++ after)) :
    lowercase (String.ofList part) <+:
        (lowercase value).drop (lowercase (String.ofList before)).length ↔
      KeepsSigmas before part after := by
  have hlength : (lowercase (String.ofList before)).length =
      (lowercaseBetween [] (part ++ after) before).length := by
    rw [lowercase_ofList, length_lowercaseBetween]
  have halone : lowercase (String.ofList part) = lowercaseBetween [] [] part := by
    rw [lowercase_ofList, lowercaseBetween_nil]
  have hpart : (lowercaseBetween [] [] part).length =
      (lowercaseBetween before.reverse after part).length := by
    rw [length_lowercaseBetween, length_lowercaseBetween]
  rw [lowercase_eq_append hvalue, hlength, List.drop_left, halone]
  -- Both lower cases of the part have one length, so one begins with the other if they are equal.
  have heq : lowercaseBetween [] [] part <+: lowercaseBetween before.reverse after part ++
        lowercaseAfter (part.reverse ++ before.reverse) after ↔
      lowercaseBetween before.reverse after part = lowercaseBetween [] [] part := by
    constructor
    · rintro ⟨tail, htail⟩
      exact (List.append_inj_left htail hpart).symm
    · intro h
      rw [h]
      exact List.prefix_append _ _
  rw [heq, lowercaseBetween_eq_iff, KeepsSigmas]
  simp

end Text
end ErrorTriage
