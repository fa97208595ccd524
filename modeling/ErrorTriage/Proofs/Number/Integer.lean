import ErrorTriage.Number.Integer
import Mathlib.Tactic.Tauto

/-!
# Number.Integer — what a bounded reader of whole numbers accepts

`Denotes` is the grammar: an optional sign and at least one digit.  `readWithin` reports a fault as
soon as a number leaves its bounds; since the digits of a number only take it further away from
zero, this refuses exactly the numbers that lie outside.
-/

namespace ErrorTriage
namespace Integer

/-! ## Numerals -/

def decimalFrom (before : Nat) (digits : List Char) : Nat :=
  digits.foldl (fun n c => n * 10 + (c.toNat - 48)) before

def decimal (digits : List Char) : Nat := decimalFrom 0 digits

/-- Whether there is at least one character and all of them are digits. -/
def AreDigits (cs : List Char) : Prop := cs ≠ [] ∧ ∀ c ∈ cs, c.isDigit = true

/-- The whole numbers that texts denote. -/
inductive Denotes : List Char → Int → Prop where
  | unsigned {digits : List Char} : AreDigits digits → Denotes digits (decimal digits)
  | plus {digits : List Char} : AreDigits digits → Denotes ('+' :: digits) (decimal digits)
  | minus {digits : List Char} : AreDigits digits → Denotes ('-' :: digits) (-decimal digits)

/-- A number with the sign that it was read with. -/
def signed (negative : Bool) (n : Nat) : Int := if negative then -n else n

/-- More digits do not make the number smaller. -/
theorem decimalFrom_ge (before : Nat) (digits : List Char) :
    before ≤ decimalFrom before digits := by
  induction digits generalizing before with
  | nil => exact Nat.le_refl before
  | cons c rest ih =>
      have hstep : before ≤ before * 10 + (c.toNat - 48) := by omega
      exact Nat.le_trans hstep (ih _)

theorem areDigits_cons {c : Char} {rest : List Char} :
    AreDigits (c :: rest) ↔ c.isDigit = true ∧ ∀ d ∈ rest, d.isDigit = true := by
  simp [AreDigits]

/-- Behind a minus there are digits, and the number is the negative one of theirs. -/
theorem denotes_minus_iff {cs : List Char} {n : Int} :
    Denotes ('-' :: cs) n ↔ AreDigits cs ∧ n = -decimal cs := by
  constructor
  · intro h
    cases h with
    | unsigned hdigits => exact absurd (areDigits_cons.1 hdigits).1 (by decide)
    | minus hdigits => exact ⟨hdigits, rfl⟩
  · rintro ⟨hdigits, rfl⟩
    exact .minus hdigits

theorem denotes_plus_iff {cs : List Char} {n : Int} :
    Denotes ('+' :: cs) n ↔ AreDigits cs ∧ n = decimal cs := by
  constructor
  · intro h
    cases h with
    | unsigned hdigits => exact absurd (areDigits_cons.1 hdigits).1 (by decide)
    | plus hdigits => exact ⟨hdigits, rfl⟩
  · rintro ⟨hdigits, rfl⟩
    exact .plus hdigits

theorem denotes_unsigned_iff {cs : List Char} {n : Int} (hminus : cs.head? ≠ some '-')
    (hplus : cs.head? ≠ some '+') : Denotes cs n ↔ AreDigits cs ∧ n = decimal cs := by
  constructor
  · intro h
    cases h with
    | unsigned hdigits => exact ⟨hdigits, rfl⟩
    | plus _ => exact absurd rfl hplus
    | minus _ => exact absurd rfl hminus
  · rintro ⟨hdigits, rfl⟩
    exact .unsigned hdigits

/-! ## Reading without bounds -/

/-- Reading goes on exactly over digits, and has their number. -/
theorem digitsFrom_eq_some_iff {cs : List Char} {before n : Nat} :
    digitsFrom before cs = some n ↔
      (∀ c ∈ cs, c.isDigit = true) ∧ n = decimalFrom before cs := by
  induction cs generalizing before with
  | nil =>
      constructor
      · intro h
        cases h
        exact ⟨by simp, rfl⟩
      · rintro ⟨_, rfl⟩
        rfl
  | cons c rest ih =>
      cases hdigit : c.isDigit with
      | false => simp [digitsFrom, digit?, hdigit]
      | true =>
          have hd : digit? c = some (c.toNat - 48) := by simp [digit?, hdigit]
          simp only [digitsFrom, hd, Option.bind_some, ih]
          simp [hdigit, decimalFrom]

theorem digitsFrom_eq_some {cs : List Char} (h : ∀ c ∈ cs, c.isDigit = true) (before : Nat) :
    digitsFrom before cs = some (decimalFrom before cs) :=
  digitsFrom_eq_some_iff.2 ⟨h, rfl⟩

/-- A natural number is read exactly off digits, at least one. -/
theorem natural?_eq_some_iff {cs : List Char} {n : Nat} :
    natural? cs = some n ↔ AreDigits cs ∧ n = decimal cs := by
  cases cs with
  | nil => simp [natural?, AreDigits]
  | cons c rest =>
      have hread : natural? (c :: rest) = digitsFrom 0 (c :: rest) := rfl
      simp [hread, digitsFrom_eq_some_iff, AreDigits, decimal]

/-- Digits behind a sign are read as the number with that sign. -/
theorem map_natural?_eq_some_iff {sign : Nat → Int} {cs : List Char} {n : Int} :
    (natural? cs).map sign = some n ↔ AreDigits cs ∧ n = sign (decimal cs) := by
  simp only [Option.map_eq_some_iff, natural?_eq_some_iff]
  constructor
  · rintro ⟨_, ⟨hdigits, rfl⟩, rfl⟩
    exact ⟨hdigits, rfl⟩
  · rintro ⟨hdigits, rfl⟩
    exact ⟨_, ⟨hdigits, rfl⟩, rfl⟩

theorem head?_ne_of_ne_cons {c : Char} {cs : List Char} (h : ∀ rest, cs = c :: rest → False) :
    cs.head? ≠ some c := by
  intro hhead
  rcases List.head?_eq_some_iff.1 hhead with ⟨rest, hrest⟩
  exact h rest hrest

/-- The unbounded reader accepts the numerals of the grammar and no other texts. -/
theorem read?_eq_some_iff {cs : List Char} {n : Int} : read? cs = some n ↔ Denotes cs n := by
  unfold read?
  split
  · simp only [denotes_minus_iff, map_natural?_eq_some_iff, Int.ofNat_eq_natCast]
  · simp only [denotes_plus_iff, map_natural?_eq_some_iff, Int.ofNat_eq_natCast]
  · next hminus hplus =>
      have hunsigned := denotes_unsigned_iff (n := n) (head?_ne_of_ne_cons hminus)
        (head?_ne_of_ne_cons hplus)
      simp only [hunsigned, map_natural?_eq_some_iff, Int.ofNat_eq_natCast]

/-! ## Writing -/

theorem areDigits_toDigits (n : Nat) : AreDigits (Nat.toDigits 10 n) := by
  refine ⟨by simp, fun c hc => ?_⟩
  exact Nat.isDigit_of_mem_toDigits (by decide) (by decide) hc

theorem decimal_eq_ofDigitChars (cs : List Char) : decimal cs = Nat.ofDigitChars 10 cs 0 := by
  simp only [decimal, decimalFrom, Nat.ofDigitChars_eq_foldl, Nat.mul_comm]
  rfl

/-- The digits of a number have that number. -/
theorem decimal_toDigits (n : Nat) : decimal (Nat.toDigits 10 n) = n := by
  rw [decimal_eq_ofDigitChars]
  simp

/-- A number as it is written denotes itself. -/
theorem denotes_toString (n : Int) : Denotes (toString n).toList n := by
  cases n with
  | ofNat n =>
      have hdenotes := Denotes.unsigned (areDigits_toDigits n)
      rw [decimal_toDigits] at hdenotes
      simpa [toString, Int.repr, Nat.repr] using hdenotes
  | negSucc n =>
      have hdenotes := Denotes.minus (areDigits_toDigits (n + 1))
      rw [decimal_toDigits, Int.natCast_add, Int.natCast_one, ← Int.negSucc_eq] at hdenotes
      simpa [toString, Int.repr, Nat.repr] using hdenotes

/-! ## Bounded reading -/

section Bounds

variable {low high : Int}

/-- With the sign carried along, one more digit moves the number away from zero. -/
theorem next_eq_signed (negative : Bool) (n d : Nat) :
    (if negative then signed negative n * 10 - Int.ofNat d
      else signed negative n * 10 + Int.ofNat d) = signed negative (n * 10 + d) := by
  cases negative with
  | true =>
      simp only [signed, if_true, Int.ofNat_eq_natCast]
      omega
  | false =>
      simp only [signed, Bool.false_eq_true, if_false, Int.ofNat_eq_natCast]
      omega

/-- A number between zero and one inside the bounds lies inside them. -/
theorem signed_within (hlow : low ≤ 0) (hhigh : 0 ≤ high) {negative : Bool} {n m : Nat}
    (hle : n ≤ m) (h : low ≤ signed negative m ∧ signed negative m ≤ high) :
    low ≤ signed negative n ∧ signed negative n ≤ high := by
  cases negative with
  | true =>
      simp only [signed, if_true] at h ⊢
      omega
  | false =>
      simp only [signed, Bool.false_eq_true, if_false] at h ⊢
      omega

/-- The scan, which checks the range digit by digit, accepts exactly the numerals whose number is in
range: none on the way is further from zero than the last one. -/
theorem scan_eq_ok_iff (hlow : low ≤ 0) (hhigh : 0 ≤ high) (negative : Bool) (before : Nat)
    (hbefore : low ≤ signed negative before ∧ signed negative before ≤ high) (cs : List Char)
    (n : Int) :
    scan low high negative (signed negative before) cs = .ok n ↔
      (∀ c ∈ cs, c.isDigit = true) ∧ n = signed negative (decimalFrom before cs) ∧
        low ≤ n ∧ n ≤ high := by
  induction cs generalizing before with
  | nil =>
      constructor
      · intro h
        cases h
        exact ⟨by simp, rfl, hbefore⟩
      · rintro ⟨_, rfl, _⟩
        rfl
  | cons c rest ih =>
      cases hdigit : c.isDigit with
      | false =>
          constructor
          · intro h
            simp [scan, digit?, hdigit] at h
          · rintro ⟨hall, _⟩
            have hc := hall c List.mem_cons_self
            have hsame := hdigit.symm.trans hc
            cases hsame
      | true =>
          have hd : digit? c = some (c.toNat - 48) := by simp [digit?, hdigit]
          simp only [scan, hd, next_eq_signed]
          by_cases hnext : low ≤ signed negative (before * 10 + (c.toNat - 48)) ∧
              signed negative (before * 10 + (c.toNat - 48)) ≤ high
          · rw [if_neg (by omega), if_neg (by omega), ih _ hnext]
            simp [hdigit, decimalFrom]
          · -- Further digits cannot bring the number back into its bounds.
            have hout : ¬(low ≤ signed negative (decimalFrom before (c :: rest)) ∧
                signed negative (decimalFrom before (c :: rest)) ≤ high) := by
              intro h
              exact hnext (signed_within hlow hhigh (decimalFrom_ge _ rest) h)
            constructor
            · intro h
              split at h
              · cases h
              · split at h
                · cases h
                · omega
            · rintro ⟨_, rfl, h⟩
              exact absurd h hout

/-- Scanning from zero reads the digits of one sign. -/
theorem scan_zero_eq_ok_iff (hlow : low ≤ 0) (hhigh : 0 ≤ high) (negative : Bool)
    {cs : List Char} (hcs : cs ≠ []) (n : Int) :
    scan low high negative 0 cs = .ok n ↔
      (AreDigits cs ∧ n = signed negative (decimal cs)) ∧ low ≤ n ∧ n ≤ high := by
  have hzero : signed negative 0 = 0 := by cases negative <;> rfl
  have hscan := scan_eq_ok_iff hlow hhigh negative 0 (by rw [hzero]; exact ⟨hlow, hhigh⟩) cs n
  simp only [hzero] at hscan
  simp only [hscan, AreDigits, decimal]
  tauto

/-- A reader with bounds around zero accepts the numerals of the numbers inside them. -/
theorem readWithin_eq_ok_iff (hlow : low ≤ 0) (hhigh : 0 ≤ high) (cs : List Char) (n : Int) :
    readWithin low high cs = .ok n ↔ Denotes cs n ∧ low ≤ n ∧ n ≤ high := by
  unfold readWithin
  split
  · rw [denotes_unsigned_iff (by simp) (by simp)]
    simp [AreDigits]
  · simp [denotes_minus_iff, AreDigits]
  · simp [denotes_plus_iff, AreDigits]
  · next rest hrest =>
      have hne : rest ≠ [] := fun h => hrest (by simp only [h])
      simp only [denotes_minus_iff]
      exact scan_zero_eq_ok_iff hlow hhigh true hne n
  · next rest hrest =>
      have hne : rest ≠ [] := fun h => hrest (by simp only [h])
      simp only [denotes_plus_iff]
      exact scan_zero_eq_ok_iff hlow hhigh false hne n
  · next hnil _ _ hminus hplus =>
      simp only [denotes_unsigned_iff (head?_ne_of_ne_cons hminus) (head?_ne_of_ne_cons hplus)]
      exact scan_zero_eq_ok_iff hlow hhigh false hnil n

/-- A numeral of 64 bits is one whose number fits. -/
theorem read64_eq_ok_iff (cs : List Char) (n : Int) :
    read64 cs = .ok n ↔ Denotes cs n ∧ min64 ≤ n ∧ n ≤ max64 :=
  readWithin_eq_ok_iff (by decide) (by decide) cs n

end Bounds
end Integer
end ErrorTriage
