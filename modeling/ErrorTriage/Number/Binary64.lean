import ErrorTriage.Number.Integer

/-!
# Binary64 — double-precision numbers as exact values

A finite number is a sign and `mantissa · 2 ^ shift` units of `2 ^ -1074`, the smallest positive
double.  Every finite double is a whole number of units, so comparison and rounding are integer
arithmetic and nothing is approximated.  Rounding to a double is to nearest, a tie going to the
even mantissa.  Of arithmetic there is no more than the moving of the decimal point.
-/

namespace ErrorTriage

inductive Binary64 where
  | nan
  | infinite (negative : Bool)
  /-- A sign and `mantissa · 2 ^ shift` units of `2 ^ -1074`. -/
  | finite (negative : Bool) (mantissa shift : Nat)
deriving DecidableEq, Repr

namespace Binary64

def unitsPerOne : Nat := Nat.pow 2 1074

/-- The largest shift of a finite number whose mantissa has at most 53 bits. -/
def maxShift : Nat := 2045

/-- A quotient rounded to the nearest whole number, a tie to the even one. -/
def roundDiv (num den : Nat) : Nat :=
  let q := num / den
  let r := num % den
  if 2 * r < den then q else if den < 2 * r then q + 1 else q + q % 2

/-- The double nearest to `num / den`, with the given sign. -/
def ofRatio (negative : Bool) (num den : Nat) : Binary64 :=
  let units := num * unitsPerOne
  let shift := Nat.log2 (units / den) + 1 - 53
  let mantissa := roundDiv units (den * Nat.pow 2 shift)
  -- Rounding up may reach the next power of two, which is half as much with one more shift.
  let carried := mantissa = Nat.pow 2 53
  let shift := if carried then shift + 1 else shift
  if maxShift < shift then .infinite negative
  else .finite negative (if carried then Nat.pow 2 52 else mantissa) shift

def ofInt (n : Int) : Binary64 :=
  ofRatio (n < 0) n.natAbs 1

/-- The double nearest to `digits · 10 ^ exponent`.  Exponents so large or so small that the result
is certain are not multiplied out. -/
def ofDecimal (negative : Bool) (digits : Nat) (exponent : Int) : Binary64 :=
  if digits = 0 then .finite negative 0 0
  else
    -- A decimal digit is worth less than four bits, so this is at most the number of places.
    let places : Int := exponent + (Nat.log2 digits / 4 : Nat)
    if 400 < places then .infinite negative
    else if exponent + (Nat.log2 digits : Nat) < -400 then .finite negative 0 0
    else if 0 ≤ exponent then ofRatio negative (digits * Nat.pow 10 exponent.toNat) 1
    else ofRatio negative digits (Nat.pow 10 (-exponent).toNat)

def isZero : Binary64 → Bool
  | .finite _ 0 _ => true
  | _ => false

def isFinite : Binary64 → Bool
  | .finite .. => true
  | _ => false

/-- A finite number in units. -/
def units (negative : Bool) (mantissa shift : Nat) : Int :=
  if negative then -(Int.ofNat (mantissa * Nat.pow 2 shift)) else Int.ofNat (mantissa * Nat.pow 2 shift)

/-- The order of two numbers; NaN has no order with anything. -/
def compare? : Binary64 → Binary64 → Option Ordering
  | .nan, _ => none
  | _, .nan => none
  | .infinite a, .infinite b => some (compare b.toNat a.toNat)
  | .infinite negative, .finite .. => some (if negative then .lt else .gt)
  | .finite .., .infinite negative => some (if negative then .gt else .lt)
  | .finite a m s, .finite b n t => some (compare (units a m s) (units b n t))

/-- The nearest whole number, a tie to the even one; only finite numbers have one. -/
def round? : Binary64 → Option Int
  | .finite negative mantissa shift =>
    let n := roundDiv (mantissa * Nat.pow 2 shift) unitsPerOne
    some (if negative then -Int.ofNat n else Int.ofNat n)
  | _ => none

/-! ## Moving the point -/

/-- The exponent of the greatest power of ten among the doubles. -/
def maxTen : Nat := 308

/-- The double nearest to a power of ten; from the twenty-third power on it is not exact. -/
def ofTen (exponent : Nat) : Binary64 :=
  ofRatio false (Nat.pow 10 exponent) 1

def times : Binary64 → Binary64 → Binary64
  | .finite a m s, .finite b n t =>
    ofRatio (a != b) (m * n * Nat.pow 2 (s + t)) (unitsPerOne * unitsPerOne)
  | x, _ => x

def dividedBy : Binary64 → Binary64 → Binary64
  | .finite a m s, .finite b n t => ofRatio (a != b) (m * Nat.pow 2 s) (n * Nat.pow 2 t)
  | x, _ => x

/-- Moves the point to the left, at most `maxTen` places at a time. -/
def shiftDown (x : Binary64) (places : Nat) : Binary64 :=
  if places ≤ maxTen then x.dividedBy (ofTen places)
  else if x.isZero then x
  else shiftDown (x.dividedBy (ofTen maxTen)) (places - maxTen)
termination_by places
decreasing_by exact Nat.sub_lt (by omega) (by decide)

/-- Moves the point to the right, unless the number grows beyond every double. -/
def shiftUp? (x : Binary64) (places : Nat) : Option Binary64 :=
  if x.isZero then some x
  else if maxTen < places then none
  else
    let moved := x.times (ofTen places)
    if moved.isFinite then some moved else none

def shift? (x : Binary64) (places : Int) : Option Binary64 :=
  match places with
  | .ofNat n => x.shiftUp? n
  | .negSucc n => some (x.shiftDown (n + 1))

/-! ## Reading -/

/-- Splits off the ASCII digits at the front. -/
def spanDigits (cs : List Char) : List Char × List Char :=
  (cs.takeWhile Char.isDigit, cs.dropWhile Char.isDigit)

/-- The exponent that ends a number: nothing, or `e` and a whole number. -/
def exponent? : List Char → Option Int
  | [] => some 0
  | c :: rest => if c = 'e' ∨ c = 'E' then Integer.read? rest else none

/-- Reads a number without its sign: digits with an optional point and an optional exponent, at
least one digit on either side of the point, or a name of infinity or NaN in any case. -/
def magnitude? (negative : Bool) (cs : List Char) : Option Binary64 :=
  let name := String.ofList (cs.map Char.toLower)
  if name = "inf" ∨ name = "infinity" then some (.infinite negative)
  else if name = "nan" then some .nan
  else
    let (whole, rest) := spanDigits cs
    let (fraction, rest) :=
      match rest with
      | '.' :: tail => spanDigits tail
      | _ => ([], rest)
    if whole.isEmpty ∧ fraction.isEmpty then none
    else do
      let exponent ← exponent? rest
      let digits ← Integer.digitsFrom 0 (whole ++ fraction)
      some (ofDecimal negative digits (exponent - Int.ofNat fraction.length))

/-- Reads a number in decimal notation. -/
def ofText? : List Char → Option Binary64
  | '-' :: rest => magnitude? true rest
  | '+' :: rest => magnitude? false rest
  | cs => magnitude? false cs

end Binary64
end ErrorTriage
