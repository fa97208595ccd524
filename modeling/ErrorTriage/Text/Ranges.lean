import ErrorTriage.Text.Blank

/-!
# Ranges — sets and maps of code points written as text

The tables of the character classes are long, so each is kept as lines of text: ascending
hexadecimal code points, `41-5A` for a range and `AA` for a single point.  This module reads
three kinds of row out of such lines and searches them by bisection:

* `RangeTable` — a set, one row per range;
* `RunTable` — a partition, one row per start of a run and the name of the run;
* `ShiftTable` — a map that moves every point of a range by one distance.

What the rows mean (which standard property they list) is said where each table is defined.
-/

namespace ErrorTriage
namespace Text

/-- The value of a hexadecimal digit of either case. -/
def hexDigit? (c : Char) : Option Nat :=
  if '0' ≤ c ∧ c ≤ '9' then some (c.toNat - 48)
  else if 'A' ≤ c ∧ c ≤ 'F' then some (c.toNat - 55)
  else if 'a' ≤ c ∧ c ≤ 'f' then some (c.toNat - 87)
  else none

/-- The number that a run of hexadecimal digits denotes; other characters count as zero. -/
def hexNat (digits : List Char) : Nat :=
  digits.foldl (fun n c => n * 16 + (hexDigit? c).getD 0) 0

/-- The rows on the lines of a table, as text. -/
def rowsOfLines (lines : List String) : List (List Char) :=
  lines.flatMap fun line => splitAt ' ' line.toList

/-- The last row whose key is at most `n`, for rows in ascending order of key. -/
def lastRow? {α : Type} (rows : Array (Nat × α)) (n : Nat) : Option (Nat × α) :=
  search rows.size 0 rows.size
where
  /-- Bisection of the half-open window from `low` to `high`. -/
  search : Nat → Nat → Nat → Option (Nat × α)
    | 0, _, _ => none
    | fuel + 1, low, high =>
      if high ≤ low then
        if low = 0 then none else rows[low - 1]?
      else
        let middle := (low + high) / 2
        match rows[middle]? with
        | none => none
        | some row => if row.1 ≤ n then search fuel (middle + 1) high else search fuel low middle

/-! ## Sets -/

/-- A set of code points: rows of first and last member, ascending and disjoint. -/
structure RangeTable where
  /-- First and last code point of each range. -/
  ranges : Array (Nat × Nat)

namespace RangeTable

/-- Reads `41-5A` or `AA`. -/
def rangeOfRow (row : List Char) : Nat × Nat :=
  match splitAt '-' row with
  | [low, high] => (hexNat low, hexNat high)
  | _ => (hexNat row, hexNat row)

/-- Reads `41-5A AA`. -/
def ofLines (lines : List String) : RangeTable :=
  ⟨((rowsOfLines lines).map rangeOfRow).toArray⟩

def contains (table : RangeTable) (n : Nat) : Bool :=
  match lastRow? table.ranges n with
  | some (_, high) => n ≤ high
  | none => false

end RangeTable

/-! ## Partitions -/

/-- A partition of all code points: each row starts a run that lasts until the next row. -/
structure RunTable where
  /-- First code point and name of each run. -/
  runs : Array (Nat × String)

namespace RunTable

/-- Reads `0=Cc 20=Zs`. -/
def ofLines (lines : List String) : RunTable :=
  ⟨((rowsOfLines lines).filterMap fun row =>
    match splitAt '=' row with
    | [start, name] => some (hexNat start, String.ofList name)
    | _ => none).toArray⟩

/-- The name of the run that a code point lies in. -/
def nameAt (table : RunTable) (n : Nat) : String :=
  match lastRow? table.runs n with
  | some (_, name) => name
  | none => ""

end RunTable

/-! ## Maps -/

/-- One row of a map: the points from `first` in steps of `stride` up to `last` move by
`distance`. -/
structure Shift where
  /-- Last code point that moves. -/
  last : Nat
  /-- Step between the points that move. -/
  stride : Nat
  /-- What is added to each. -/
  distance : Int

/-- A map of code points that fixes all points outside its rows. -/
structure ShiftTable where
  /-- First code point of each row with the row. -/
  rows : Array (Nat × Shift)

namespace ShiftTable

/-- Reads `41-5A/1+20 178-178/1-79`: first, last, stride, signed distance. -/
def ofLines (lines : List String) : ShiftTable :=
  ⟨((rowsOfLines lines).filterMap fun row =>
    match splitAt '/' row with
    | [range, move] =>
      match splitAt '-' range, splitAt '+' move, splitAt '-' move with
      | [first, last], [stride, distance], _ =>
        some (hexNat first, ⟨hexNat last, hexNat stride, Int.ofNat (hexNat distance)⟩)
      | [first, last], _, [stride, distance] =>
        some (hexNat first, ⟨hexNat last, hexNat stride, -Int.ofNat (hexNat distance)⟩)
      | _, _, _ => none
    | _ => none).toArray⟩

def apply (table : ShiftTable) (n : Nat) : Nat :=
  match lastRow? table.rows n with
  | some (first, row) =>
    if n ≤ row.last ∧ (n - first) % row.stride = 0 then (Int.ofNat n + row.distance).toNat else n
  | none => n

end ShiftTable

end Text
end ErrorTriage
