import ErrorTriage.Proofs.Calendar.Written

/-!
# Calendar.Fitting — the texts that fit a layout

Each item of a layout takes the front of a text, and what it takes has a form of its own:
`LayoutItem.Takes`.  Numbers and blanks leave a lot of freedom, but none of them ever takes one of
the characters that a layout asks for as they stand, signs and points apart.  So a text has as many
colons, and as many letters `T`, as the layout that it fits.  The form with a distance from
universal time is told apart in the same way: it ends with `Z`, or has a third colon.
-/

namespace ErrorTriage

open Integer (AreDigits)
open ErrorTriage.Path (AreBlanks)
open Text (IsWord trimFront trimBack trimList)

/-- The forms of the texts that an item takes; how many digits a number has is left open. -/
inductive LayoutItem.Takes : LayoutItem → List Char → Prop where
  | number (field : Field) {blanks digits : List Char} (hblanks : AreBlanks blanks)
      (hdigits : AreDigits digits) : Takes (.number field) (blanks ++ digits)
  | signedYear {blanks digits : List Char} {sign : Char} (hblanks : AreBlanks blanks)
      (hsign : sign = '-' ∨ sign = '+') (hdigits : AreDigits digits) :
      Takes (.number .year) (blanks ++ sign :: digits)
  | literal (c : Char) : Takes (.literal c) [c]
  | blanks {blanks : List Char} (hblanks : AreBlanks blanks) : Takes .blanks blanks
  | noFraction : Takes .fraction []
  | fraction {digits : List Char} (hdigits : AreDigits digits) : Takes .fraction ('.' :: digits)

theorem Integer.AreDigits.isWord {digits : List Char} (h : AreDigits digits) : IsWord digits :=
  ⟨h.1, fun _ hc => h.isBlank_of_mem hc⟩

namespace Layout

variable {parts p : DateParts} {items : List LayoutItem} {cs rest : List Char}

/-! ## What is taken -/

/-- Digits are taken from the front, at least one. -/
theorem takeDigits_eq_some {limit : Nat} {digits : List Char}
    (h : takeDigits limit cs = some (digits, rest)) : AreDigits digits ∧ cs = digits ++ rest := by
  simp only [takeDigits] at h
  split at h
  · cases h
  · next hne =>
    cases h
    have hprefix : (cs.takeWhile Char.isDigit).take limit <+: cs :=
      (List.take_prefix limit _).trans (List.takeWhile_prefix _)
    refine ⟨⟨by simpa using hne, fun c hc => ?_⟩, List.prefix_iff_eq_append.1 hprefix |>.symm⟩
    exact List.mem_takeWhile_imp (List.mem_of_mem_take hc)

/-- A number takes digits from the front. -/
theorem takeNatural_eq_some {limit n : Nat} (h : takeNatural limit cs = some (n, rest)) :
    ∃ digits, AreDigits digits ∧ cs = digits ++ rest := by
  simp only [takeNatural, Option.bind_eq_bind, Option.bind_eq_some_iff] at h
  rcases h with ⟨⟨digits, after⟩, htake, _, _, heq⟩
  cases heq
  exact ⟨digits, takeDigits_eq_some htake⟩

/-- What is made of a number does not change where the number ends. -/
theorem map_takeNatural_eq_some {α : Type} {f : Nat × List Char → α × List Char}
    (hf : ∀ n tail, (f (n, tail)).2 = tail) {limit : Nat} {a : α}
    (h : (takeNatural limit cs).map f = some (a, rest)) :
    ∃ digits, AreDigits digits ∧ cs = digits ++ rest := by
  rcases Option.map_eq_some_iff.1 h with ⟨⟨n, tail⟩, htake, heq⟩
  have htail : tail = rest := by rw [← hf n tail, heq]
  exact takeNatural_eq_some (htail ▸ htake)

/-- A year takes digits from the front, with a sign before them or without. -/
theorem takeYear_eq_some {year : Int} (h : takeYear cs = some (year, rest)) :
    ∃ digits, AreDigits digits ∧ (cs = digits ++ rest ∨
      ∃ sign, (sign = '-' ∨ sign = '+') ∧ cs = sign :: (digits ++ rest)) := by
  unfold takeYear at h
  split at h
  · rcases map_takeNatural_eq_some (fun _ _ => rfl) h with ⟨digits, hdigits, rfl⟩
    exact ⟨digits, hdigits, .inr ⟨'-', .inl rfl, rfl⟩⟩
  · rcases map_takeNatural_eq_some (fun _ _ => rfl) h with ⟨digits, hdigits, rfl⟩
    exact ⟨digits, hdigits, .inr ⟨'+', .inr rfl, rfl⟩⟩
  · rcases map_takeNatural_eq_some (fun _ _ => rfl) h with ⟨digits, hdigits, rfl⟩
    exact ⟨digits, hdigits, .inl rfl⟩

/-- A fraction takes digits from the front, however many there are. -/
theorem takeFraction_eq_some {n : Nat} (h : takeFraction cs = some (n, rest)) :
    ∃ digits, AreDigits digits ∧ cs = digits ++ rest := by
  simp only [takeFraction, Option.bind_eq_bind, Option.bind_eq_some_iff] at h
  rcases h with ⟨⟨digits, after⟩, htake, _, _, heq⟩
  cases heq
  rcases takeDigits_eq_some htake with ⟨hdigits, rfl⟩
  -- The digits after the ninth one are passed over.
  refine ⟨digits ++ after.takeWhile Char.isDigit, ⟨by simp [hdigits.1], fun c hc => ?_⟩, ?_⟩
  · rcases List.mem_append.1 hc with hcounted | hpassed
    · exact hdigits.2 c hcounted
    · exact List.mem_takeWhile_imp hpassed
  · rw [List.append_assoc, List.takeWhile_append_dropWhile]

/-- An item takes a text of one of its forms from the front. -/
theorem exists_takes_of_readItem {item : LayoutItem}
    (h : readItem parts cs item = some (p, rest)) :
    ∃ taken, item.Takes taken ∧ cs = taken ++ rest := by
  rcases Path.exists_blanks_append_trimFront cs with ⟨blanks, hblanks, hcs⟩
  have hnatural {field : Field} {f : Nat × List Char → DateParts × List Char}
      (hf : ∀ n tail, (f (n, tail)).2 = tail)
      (hread : (takeNatural 2 (trimFront cs)).map f = some (p, rest)) :
      ∃ taken, LayoutItem.Takes (.number field) taken ∧ cs = taken ++ rest := by
    rcases map_takeNatural_eq_some hf hread with ⟨digits, hdigits, htrim⟩
    exact ⟨_, .number field hblanks hdigits, by rw [hcs, htrim, List.append_assoc]⟩
  cases item with
  | number field =>
      cases field with
      | year =>
          rcases Option.map_eq_some_iff.1 h with ⟨⟨n, tail⟩, htake, heq⟩
          cases heq
          rcases takeYear_eq_some htake with ⟨digits, hdigits, htrim | ⟨sign, hsign, htrim⟩⟩
          · exact ⟨_, .number .year hblanks hdigits, by rw [hcs, htrim, List.append_assoc]⟩
          · refine ⟨_, .signedYear hblanks hsign hdigits, ?_⟩
            rw [hcs, htrim, List.append_assoc, List.cons_append]
      | month => exact hnatural (fun _ _ => rfl) h
      | day => exact hnatural (fun _ _ => rfl) h
      | hour => exact hnatural (fun _ _ => rfl) h
      | minute => exact hnatural (fun _ _ => rfl) h
      | second => exact hnatural (fun _ _ => rfl) h
  | literal c =>
      cases cs with
      | nil => cases h
      | cons d more =>
          simp only [readItem] at h
          split at h
          · next hc =>
            cases h
            exact ⟨[c], .literal c, by rw [hc, List.singleton_append]⟩
          · cases h
  | blanks =>
      cases h
      exact ⟨blanks, .blanks hblanks, hcs⟩
  | fraction =>
      simp only [readItem] at h
      split at h
      · next more =>
        rcases Option.map_eq_some_iff.1 h with ⟨⟨n, tail⟩, htake, heq⟩
        cases heq
        rcases takeFraction_eq_some htake with ⟨digits, hdigits, rfl⟩
        exact ⟨'.' :: digits, .fraction hdigits, rfl⟩
      · cases h
        exact ⟨[], .noFraction, rfl⟩

/-- A layout is followed item by item, each taking the front of what is left. -/
theorem readFrom_cons_eq_some {item : LayoutItem}
    (h : readFrom parts cs (item :: items) = some p) :
    ∃ next taken rest, readItem parts cs item = some (next, rest) ∧ item.Takes taken ∧
      cs = taken ++ rest ∧ readFrom next rest items = some p := by
  simp only [readFrom] at h
  split at h
  · next next rest hitem =>
    rcases exists_takes_of_readItem hitem with ⟨taken, htakes, hcs⟩
    exact ⟨next, taken, rest, hitem, htakes, hcs, h⟩
  · cases h

theorem readFrom_nil_eq_some (h : readFrom parts cs [] = some p) : cs = [] ∧ parts = p := by
  simp only [readFrom] at h
  split at h
  · next hnil => exact ⟨by simpa using hnil, Option.some.inj h⟩
  · cases h

/-! ## Characters that no number takes -/

/-- Whether a character stands in a text only where a layout asks for it. -/
def isMark (c : Char) : Bool :=
  !Text.isBlank c && !c.isDigit && c != '-' && c != '+' && c != '.'

theorem count_eq_zero_of_forall {c : Char} {q : Char → Prop} {cs : List Char}
    (hcs : ∀ d ∈ cs, q d) (hc : ¬q c) : cs.count c = 0 :=
  List.count_eq_zero.2 fun hmem => hc (hcs c hmem)

end Layout

/-- What an item takes has a mark exactly if the item is that mark. -/
theorem LayoutItem.Takes.count_eq {c : Char} (hc : Layout.isMark c = true) {item : LayoutItem}
    {taken : List Char} (h : item.Takes taken) :
    taken.count c = [item].count (.literal c) := by
  simp only [Layout.isMark, Bool.and_eq_true, Bool.not_eq_true', bne_iff_ne] at hc
  rcases hc with ⟨⟨⟨⟨hblank, hdigit⟩, hminus⟩, hplus⟩, hpoint⟩
  have hin {blanks : List Char} (hblanks : AreBlanks blanks) : blanks.count c = 0 :=
    Layout.count_eq_zero_of_forall hblanks (by simp [hblank])
  have hof {digits : List Char} (hdigits : AreDigits digits) : digits.count c = 0 :=
    Layout.count_eq_zero_of_forall hdigits.2 (by simp [hdigit])
  cases h with
  | number field hblanks hdigits => simp [List.count_append, hin hblanks, hof hdigits]
  | signedYear hblanks hsign hdigits =>
      rcases hsign with rfl | rfl
      · simp [List.count_append, hin hblanks, hof hdigits, Ne.symm hminus]
      · simp [List.count_append, hin hblanks, hof hdigits, Ne.symm hplus]
  | literal d => by_cases hd : d = c <;> simp [hd]
  | blanks hblanks => simp [hin hblanks]
  | noFraction => rfl
  | fraction hdigits => simp [hof hdigits, Ne.symm hpoint]

namespace Layout

variable {parts p : DateParts} {items : List LayoutItem} {cs rest : List Char}

/-- A text has each mark as often as the layout that it fits. -/
theorem count_of_readFrom {c : Char} (hc : isMark c = true) (h : readFrom parts cs items = some p) :
    cs.count c = items.count (.literal c) := by
  induction items generalizing parts cs with
  | nil =>
      rw [(readFrom_nil_eq_some h).1]
      rfl
  | cons item items ih =>
      rcases readFrom_cons_eq_some h with ⟨next, taken, rest, _, htakes, rfl, hrest⟩
      calc
        (taken ++ rest).count c = taken.count c + rest.count c := List.count_append
        _ = [item].count (.literal c) + items.count (.literal c) := by
              rw [htakes.count_eq hc, ih hrest]
        _ = (item :: items).count (.literal c) := by
              rw [← List.count_append, List.singleton_append]

/-- A text has as many marks of a kind as the layout that it fits. -/
theorem count_of_read? {c : Char} (hc : isMark c = true) (h : read? items cs = some p) :
    cs.count c = items.count (.literal c) :=
  count_of_readFrom hc h

/-- Two layouts with different marks share no text. -/
theorem read?_eq_none_or {a b : List LayoutItem} {c : Char} (hc : isMark c = true)
    (hne : a.count (.literal c) ≠ b.count (.literal c)) (cs : List Char) :
    read? a cs = none ∨ read? b cs = none := by
  cases ha : read? a cs with
  | none => exact .inl rfl
  | some p =>
      right
      rw [Option.eq_none_iff_forall_ne_some]
      intro q hb
      exact hne ((count_of_read? hc ha).symm.trans (count_of_read? hc hb))

/-! ## Blanks around a text that fits -/

/-- A text that fits a layout with a number at its end ends with digits. -/
theorem exists_digits_of_readFrom {field : Field}
    (h : readFrom parts cs (items ++ [.number field]) = some p) :
    ∃ front digits, AreDigits digits ∧ cs = front ++ digits := by
  induction items generalizing parts cs with
  | nil =>
      rcases readFrom_cons_eq_some h with ⟨_, taken, rest, _, htakes, hcs, hrest⟩
      rw [(readFrom_nil_eq_some hrest).1, List.append_nil] at hcs
      cases htakes with
      | number _ hblanks hdigits => exact ⟨_, _, hdigits, hcs⟩
      | signedYear hblanks hsign hdigits =>
          exact ⟨_, _, hdigits, hcs.trans (List.append_cons _ _ _)⟩
  | cons item items ih =>
      rcases readFrom_cons_eq_some h with ⟨_, taken, rest, _, _, rfl, hrest⟩
      rcases ih hrest with ⟨front, digits, hdigits, rfl⟩
      exact ⟨taken ++ front, digits, hdigits, (List.append_assoc _ _ _).symm⟩

/-- Blanks before a number do not count. -/
theorem readItem_trimFront (parts : DateParts) (cs : List Char) (field : Field) :
    readItem parts (trimFront cs) (.number field) = readItem parts cs (.number field) := by
  have htrim : trimFront (trimFront cs) = trimFront cs :=
    List.dropWhile_idempotent Text.isBlank cs
  cases field <;> simp only [readItem, htrim]

/-- A text that fits a layout with numbers at its ends fits it after trimming as well. -/
theorem read?_trimList {first last : Field} (hfirst : items.head? = some (.number first))
    (hlast : items.getLast? = some (.number last)) (h : read? items cs = some p) :
    read? items (trimList cs) = some p := by
  -- The last number ends the text, so there are blanks at the front only.
  have hback : trimBack cs = cs := by
    rcases List.getLast?_eq_some_iff.1 hlast with ⟨front, rfl⟩
    rcases exists_digits_of_readFrom h with ⟨before, digits, hdigits, rfl⟩
    exact hdigits.isWord.trimBack_append before
  rw [trimList, ← Text.trimFront_trimBack, hback]
  rcases List.head?_eq_some_iff.1 hfirst with ⟨back, rfl⟩
  simpa only [read?, readFrom, readItem_trimFront] using h

/-! ## Fractions of a second -/

/-- A fraction of a second may be missing. -/
theorem readFrom_append_fraction (h : readFrom parts cs items = some p) :
    readFrom parts cs (items ++ [.fraction]) = some p := by
  induction items generalizing parts cs with
  | nil =>
      rcases readFrom_nil_eq_some h with ⟨rfl, rfl⟩
      rfl
  | cons item items ih =>
      rcases readFrom_cons_eq_some h with ⟨next, _, rest, hitem, _, _, hrest⟩
      rw [List.cons_append, readFrom, hitem]
      exact ih hrest

/-- Only a fraction sets nanoseconds. -/
theorem nanosecond_of_readItem {item : LayoutItem} (hitem : item ≠ .fraction)
    (h : readItem parts cs item = some (p, rest)) : p.nanosecond = parts.nanosecond := by
  cases item with
  | number field =>
      cases field <;>
        · rcases Option.map_eq_some_iff.1 h with ⟨⟨n, tail⟩, _, heq⟩
          cases heq
          rfl
  | literal c =>
      cases cs with
      | nil => cases h
      | cons d more =>
          simp only [readItem] at h
          split at h
          · cases h
            rfl
          · cases h
  | blanks =>
      cases h
      rfl
  | fraction => exact absurd rfl hitem

theorem nanosecond_of_readFrom (hitems : .fraction ∉ items)
    (h : readFrom parts cs items = some p) : p.nanosecond = parts.nanosecond := by
  induction items generalizing parts cs with
  | nil => rw [(readFrom_nil_eq_some h).2]
  | cons item items ih =>
      rcases readFrom_cons_eq_some h with ⟨next, _, rest, hitem, _, _, hrest⟩
      rcases List.ne_and_not_mem_of_not_mem_cons hitems with ⟨hne, hnotin⟩
      rw [ih hnotin hrest, nanosecond_of_readItem hne.symm hitem]

/-- A layout without fractions reads whole seconds. -/
theorem nanosecond_of_read? (hitems : .fraction ∉ items) (h : read? items cs = some p) :
    p.nanosecond = 0 :=
  nanosecond_of_readFrom hitems h

end Layout

/-! ## Numbers that name a moment -/

/-- A day that parts name has these parts. -/
theorem Date.of?_eq_some {year : Int} {month day : Nat} {d : Date}
    (h : Date.of? year month day = some d) : d.year = year ∧ d.month = month ∧ d.day = day := by
  simp only [Date.of?] at h
  split at h
  · cases h
    exact ⟨rfl, rfl, rfl⟩
  · cases h

/-- A time that parts name has these parts. -/
theorem Clock.of?_eq_some {hour minute second nanosecond : Nat} {t : Clock}
    (h : Clock.of? hour minute second nanosecond = some t) :
    t.hour = hour ∧ t.minute = minute ∧ t.second = second ∧ t.nanosecond = nanosecond := by
  simp only [Clock.of?] at h
  split at h
  · cases h
    exact ⟨rfl, rfl, rfl, rfl⟩
  · cases h

/-- A whole second is written as it was read, and second sixty is a leap second. -/
theorem Clock.ofWritten?_eq_some {hour minute second : Nat} {t : Clock}
    (h : Clock.ofWritten? hour minute second 0 = some t) :
    (t.hour = hour ∧ t.minute = minute ∧ t.writtenSecond = second) ∧ t.fraction = 0 ∧
      (second = 60 ↔ 1000000000 ≤ t.nanosecond) := by
  simp only [Clock.ofWritten?] at h
  split at h
  · next hleap =>
    rcases Clock.of?_eq_some h with ⟨hhour, hminute, hsecond, hnanosecond⟩
    simp [hhour, hminute, Clock.writtenSecond, Clock.fraction, hsecond, hnanosecond, hleap]
  · next hleap =>
    rw [if_pos (by decide)] at h
    rcases Clock.of?_eq_some h with ⟨hhour, hminute, hsecond, hnanosecond⟩
    simp [hhour, hminute, Clock.writtenSecond, Clock.fraction, hsecond, hnanosecond, hleap]

/-- Numbers of a whole second are the ones that the moment they name is written with. -/
theorem DateParts.dateTime?_eq_some {p : DateParts} {t : DateTime} (hwhole : p.nanosecond = 0)
    (h : p.dateTime? = some t) :
    p = Layout.writtenParts t ∧ t.clock.fraction = 0 ∧
      (p.second = 60 ↔ t.isInLeapSecond = true) := by
  simp only [dateTime?, Option.bind_eq_bind, Option.bind_eq_some_iff, hwhole] at h
  rcases h with ⟨date, hdate, clock, hclock, heq⟩
  cases heq
  rcases Date.of?_eq_some hdate with ⟨hyear, hmonth, hday⟩
  rcases Clock.ofWritten?_eq_some hclock with ⟨⟨hhour, hminute, hsecond⟩, hfraction, hleap⟩
  refine ⟨?_, hfraction, by simpa [DateTime.isInLeapSecond] using hleap⟩
  cases p
  simp_all [Layout.writtenParts]

namespace Layout

/-! ## The form with a distance from universal time -/

/-- What is left of a text behind a front with so many colons. -/
structure Passes (colons : Nat) (cs rest : List Char) : Prop where
  suffix : rest <:+ cs
  count_eq : cs.count ':' = colons + rest.count ':'

variable {cs rest : List Char}

/-- Fronts are put together, and their colons are added. -/
theorem Passes.trans {m n : Nat} {middle : List Char} (h : Passes m cs middle)
    (hrest : Passes n middle rest) : Passes (m + n) cs rest :=
  ⟨hrest.suffix.trans h.suffix, by rw [h.count_eq, hrest.count_eq, Nat.add_assoc]⟩

theorem passes_append {colons : Nat} (taken rest : List Char) (h : taken.count ':' = colons) :
    Passes colons (taken ++ rest) rest :=
  ⟨List.suffix_append taken rest, by rw [List.count_append, h]⟩

theorem passes_digits {digits : List Char} (h : AreDigits digits) (rest : List Char) :
    Passes 0 (digits ++ rest) rest :=
  passes_append digits rest (count_eq_zero_of_forall h.2 (by decide))

/-- A number of fixed width has no colon. -/
theorem takeExactly_passes {count n : Nat} (h : takeExactly count cs = some (n, rest)) :
    Passes 0 cs rest := by
  simp only [takeExactly, Option.bind_eq_bind, Option.bind_eq_some_iff] at h
  rcases h with ⟨⟨digits, after⟩, htake, hread⟩
  rcases takeDigits_eq_some htake with ⟨hdigits, rfl⟩
  split at hread
  · rcases Option.bind_eq_some_iff.1 hread with ⟨_, _, heq⟩
    cases heq
    exact passes_digits hdigits after
  · cases hread

/-- A fraction has no colon. -/
theorem takeFraction_passes {n : Nat} (h : takeFraction cs = some (n, rest)) :
    Passes 0 cs rest := by
  rcases takeFraction_eq_some h with ⟨digits, hdigits, rfl⟩
  exact passes_digits hdigits rest

theorem takeOne_eq_some {allowed : List Char} (h : takeOne allowed cs = some rest) :
    ∃ c ∈ allowed, cs = c :: rest := by
  cases cs with
  | nil => cases h
  | cons c more =>
      simp only [takeOne] at h
      split at h
      · next hc =>
        cases h
        exact ⟨c, by simpa using hc, rfl⟩
      · cases h

/-- A character that is no colon passes none. -/
theorem takeOne_passes {allowed : List Char} (hallowed : ':' ∉ allowed)
    (h : takeOne allowed cs = some rest) : Passes 0 cs rest := by
  rcases takeOne_eq_some h with ⟨c, hc, rfl⟩
  have hne : ':' ∉ [c] := by
    rw [List.mem_singleton]
    rintro rfl
    exact hallowed hc
  exact passes_append [c] rest (List.count_eq_zero.2 hne)

/-- A colon passes one. -/
theorem takeColon_passes (h : takeOne [':'] cs = some rest) : Passes 1 cs rest := by
  rcases takeOne_eq_some h with ⟨c, hc, rfl⟩
  rw [List.mem_singleton.1 hc]
  exact passes_append [':'] rest rfl

/-- A distance is the letter `Z` or has a colon. -/
theorem takeOffset_passes {distance : Int} (h : takeOffset cs = some (distance, rest)) :
    ('Z' ∈ cs ∨ 'z' ∈ cs) ∨ Passes 1 cs rest := by
  cases cs with
  | nil => cases h
  | cons c more =>
      simp only [takeOffset] at h
      split at h
      · next hzulu =>
        left
        rcases hzulu with rfl | rfl <;> simp
      · right
        split at h
        · next hsign =>
          have hcolon : ':' ∉ [c] := by
            rw [List.mem_singleton]
            rintro rfl
            exact absurd hsign (by decide)
          simp only [Option.bind_eq_bind, Option.bind_eq_some_iff] at h
          rcases h with ⟨⟨_, _⟩, hhours, _, hone, ⟨_, _⟩, hminutes, hread⟩
          split at hread
          · cases hread
          · cases hread
            have hsigned := passes_append [c] more (List.count_eq_zero.2 hcolon)
            have hminute := (takeColon_passes hone).trans (takeExactly_passes hminutes)
            exact hsigned.trans ((takeExactly_passes hhours).trans hminute)
        · cases h

/-- Behind two colons, a distance that ends the text gives the text its third colon or a `Z`. -/
theorem marks_of_takeOffset {before : List Char} {distance : Int} (hbefore : Passes 2 cs before)
    (hoffset : takeOffset before = some (distance, rest)) (hrest : rest.isEmpty = true) :
    'Z' ∈ cs ∨ 'z' ∈ cs ∨ cs.count ':' = 3 := by
  rcases takeOffset_passes hoffset with (hZ | hz) | hpasses
  · exact .inl (hbefore.suffix.mem hZ)
  · exact .inr (.inl (hbefore.suffix.mem hz))
  · have hcount := (hbefore.trans hpasses).count_eq
    rw [List.isEmpty_iff.1 hrest] at hcount
    exact .inr (.inr hcount)

/-- A text of this form has a mark that no text of a layout has, or one colon more. -/
theorem marks_of_readUniversal? {t : DateTime} (h : readUniversal? cs = some t) :
    'Z' ∈ cs ∨ 'z' ∈ cs ∨ cs.count ':' = 3 := by
  unfold readUniversal? at h
  rcases Option.bind_eq_some_iff.1 h with ⟨⟨_, _⟩, hyear, h⟩
  rcases Option.bind_eq_some_iff.1 h with ⟨_, hhyphen, h⟩
  rcases Option.bind_eq_some_iff.1 h with ⟨⟨_, _⟩, hmonth, h⟩
  rcases Option.bind_eq_some_iff.1 h with ⟨_, hhyphen', h⟩
  rcases Option.bind_eq_some_iff.1 h with ⟨⟨_, _⟩, hday, h⟩
  rcases Option.bind_eq_some_iff.1 h with ⟨_, hbetween, h⟩
  rcases Option.bind_eq_some_iff.1 h with ⟨⟨_, _⟩, hhour, h⟩
  rcases Option.bind_eq_some_iff.1 h with ⟨_, hcolon, h⟩
  rcases Option.bind_eq_some_iff.1 h with ⟨⟨_, _⟩, hminute, h⟩
  rcases Option.bind_eq_some_iff.1 h with ⟨_, hcolon', h⟩
  rcases Option.bind_eq_some_iff.1 h with ⟨⟨_, behind⟩, hsecond, h⟩
  have hmonths := (takeExactly_passes hyear).trans (takeOne_passes (by decide) hhyphen)
  have hdays := (takeExactly_passes hmonth).trans (takeOne_passes (by decide) hhyphen')
  have hhours := (takeExactly_passes hday).trans (takeOne_passes (by decide) hbetween)
  have hminutes := (takeExactly_passes hhour).trans (takeColon_passes hcolon)
  have hseconds := (takeExactly_passes hminute).trans (takeColon_passes hcolon')
  have hbehind := hmonths.trans (hdays.trans (hhours.trans (hminutes.trans
    (hseconds.trans (takeExactly_passes hsecond)))))
  -- A fraction of a second may follow, and has no colon either.
  dsimp only at h
  split at h
  · next tail =>
    rcases Option.bind_eq_some_iff.1 h with ⟨⟨_, before⟩, hfraction, h⟩
    rcases Option.bind_eq_some_iff.1 h with ⟨⟨_, after⟩, hoffset, hread⟩
    split at hread
    · next hafter =>
      have htail : Passes 0 ('.' :: tail) tail := passes_append ['.'] tail rfl
      have hbefore := hbehind.trans (htail.trans (takeFraction_passes hfraction))
      exact marks_of_takeOffset hbefore hoffset hafter
    · cases hread
  · rcases Option.bind_eq_some_iff.1 h with ⟨⟨_, before⟩, heq, h⟩
    rcases Option.bind_eq_some_iff.1 h with ⟨⟨_, after⟩, hoffset, hread⟩
    cases heq
    split at hread
    · next hafter => exact marks_of_takeOffset hbehind hoffset hafter
    · cases hread

/-- A text that fits a layout with at most two colons and without the letter `Z` does not say how
far it is from universal time. -/
theorem read?_or_readUniversal?_eq_none {items : List LayoutItem} (hZ : .literal 'Z' ∉ items)
    (hz : .literal 'z' ∉ items) (hcolons : items.count (.literal ':') ≤ 2) (cs : List Char) :
    read? items cs = none ∨ readUniversal? cs = none := by
  cases hread : read? items cs with
  | none => exact .inl rfl
  | some p =>
      right
      rw [Option.eq_none_iff_forall_ne_some]
      intro t ht
      have hmark {c : Char} (hc : isMark c = true) (hitems : .literal c ∉ items) : c ∉ cs := by
        rw [← List.count_eq_zero, count_of_read? hc hread, List.count_eq_zero]
        exact hitems
      rcases marks_of_readUniversal? ht with hmem | hmem | hcount
      · exact hmark (by decide) hZ hmem
      · exact hmark (by decide) hz hmem
      · rw [count_of_read? (by decide) hread] at hcount
        omega

end Layout
end ErrorTriage
