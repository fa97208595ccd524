import ErrorTriage.Number.Binary64

/-!
# Shortest — the fewest decimal digits that read back as the same double

The decimals that read back as a given double form an interval around it, its ends belonging to it
when the mantissa is even.  `shortest` takes the widest decimal grid `10 ^ e` that has a point in
the interval and the grid's nearest point to the number.  A number may lie halfway between two
points, as `2 ^ 50 + 1 / 4` does between two tenths; each notation then has a choice of its own.
`plainText` never uses an exponent and goes away from zero, `scientificText` uses an exponent
outside of a fixed window and takes the even point.
-/

namespace ErrorTriage
namespace Binary64

/-- Where a number halfway between two points of a grid goes. -/
inductive Tie where
  | up
  /-- To the point whose last digit is even. -/
  | even
deriving DecidableEq, Repr

/-- Whether the point below wins over the one above, at the given distances to both. -/
def Tie.favours (tie : Tie) (below toBelow toAbove : Nat) : Bool :=
  toBelow < toAbove || (toBelow == toAbove && tie == .even && below % 2 == 0)

/-- Four times the distance, in units, from a number to the lower end of its interval is `1` or `2`
times `2 ^ shift`: below a power of two the neighbours are half as far apart. -/
def lowerQuarter (mantissa shift : Nat) : Nat :=
  if mantissa = Nat.pow 2 52 ∧ 0 < shift then 1 else 2

/-- The nearest multiple of `10 ^ exponent` inside the interval, divided by that power, if there is
one.  All quantities are scaled by four times the units in one and by the power when it is a
fraction. -/
def nearestOnGrid? (tie : Tie) (mantissa shift : Nat) (exponent : Int) : Option Nat :=
  let scale := Nat.pow 10 (-exponent).toNat
  let step := 4 * unitsPerOne * Nat.pow 10 exponent.toNat
  let value := 4 * mantissa * Nat.pow 2 shift * scale
  let low := value - lowerQuarter mantissa shift * Nat.pow 2 shift * scale
  let high := value + 2 * Nat.pow 2 shift * scale
  let inside := fun n : Nat =>
    let point := n * step
    if mantissa % 2 = 0 then low ≤ point && point ≤ high else low < point && point < high
  let below := value / step
  let above := below + 1
  if inside below ∧
      (¬ inside above ∨ tie.favours below (value - below * step) (above * step - value)) then
    some below
  else if inside above then some above
  else none

/-- Tries the grids from `10 ^ exponent` downwards. -/
def firstGrid (tie : Tie) (mantissa shift : Nat) : Nat → Int → Nat × Int
  | 0, exponent => (0, exponent)
  | fuel + 1, exponent =>
    match nearestOnGrid? tie mantissa shift exponent with
    | some digits =>
      -- Zero lies in the interval of the smallest numbers, but it has no digits to print.
      if digits = 0 then firstGrid tie mantissa shift fuel (exponent - 1) else (digits, exponent)
    | none => firstGrid tie mantissa shift fuel (exponent - 1)

/-- The digits and the power of ten of a number other than zero.  The first grid tried is wider
than the number itself, and the last one is the grid of the smallest double. -/
def shortest (tie : Tie) (mantissa shift : Nat) : Nat × Int :=
  let places := (Nat.log2 (mantissa * Nat.pow 2 shift) : Int) - 1074
  let top := places * 30103 / 100000 + 2
  firstGrid tie mantissa shift 800 top

def digitText (n : Nat) : List Char :=
  Nat.toDigits 10 n

/-- Digits and a power of ten without an exponent; `whole` is what a whole number ends in. -/
def positional (whole : String) (digits : List Char) (exponent : Int) : String :=
  if 0 ≤ exponent then
    String.ofList (digits ++ List.replicate exponent.toNat '0') ++ whole
  else
    let places := (-exponent).toNat
    if places < digits.length then
      String.ofList (digits.take (digits.length - places)) ++ "."
        ++ String.ofList (digits.drop (digits.length - places))
    else
      "0." ++ String.ofList (List.replicate (places - digits.length) '0' ++ digits)

/-- A number without exponent and without a point after a whole number. -/
def plainText : Binary64 → String
  | .nan => "NaN"
  | .infinite negative => if negative then "-inf" else "inf"
  | .finite negative mantissa shift =>
    let body :=
      if mantissa = 0 then "0"
      else
        let (digits, exponent) := shortest .up mantissa shift
        positional "" (digitText digits) exponent
    if negative then "-" ++ body else body

/-- Digits, and a power of ten after them, with one digit before the point. -/
def exponential (digits : List Char) (exponent : Int) : String :=
  let power := exponent + Int.ofNat digits.length - 1
  let mantissa := match digits with
    | [] => ""
    | [d] => String.ofList [d]
    | d :: rest => String.ofList (d :: '.' :: rest)
  mantissa ++ (if power < 0 then "e-" else "e+") ++ toString power.natAbs

/-- A finite number with a point in it, from `10 ^ -5` up to `10 ^ 16` without an exponent. -/
def scientificText : Binary64 → String
  | .nan => "null"
  | .infinite _ => "null"
  | .finite negative mantissa shift =>
    let body :=
      if mantissa = 0 then "0.0"
      else
        let (digits, exponent) := shortest .even mantissa shift
        let text := digitText digits
        let point := exponent + Int.ofNat text.length
        if -5 < point ∧ point ≤ 16 then positional ".0" text exponent
        else exponential text exponent
    if negative then "-" ++ body else body

end Binary64
end ErrorTriage
