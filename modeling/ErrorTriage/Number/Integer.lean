/-!
# Integer — reading a whole number from its decimal digits

A number is an optional sign and at least one ASCII digit.  `read?` has no bounds; `readWithin`
scans from the left and reports the first character at which the text stops being a number inside
the bounds, so a text with two faults is blamed for the one further left.
-/

namespace ErrorTriage
namespace Integer

def digit? (c : Char) : Option Nat :=
  if c.isDigit then some (c.toNat - 48) else none

/-- The number that a list of digits denotes, continued from the number before it. -/
def digitsFrom (before : Nat) : List Char → Option Nat
  | [] => some before
  | c :: rest => (digit? c).bind fun d => digitsFrom (before * 10 + d) rest

def natural? (cs : List Char) : Option Nat :=
  if cs.isEmpty then none else digitsFrom 0 cs

/-- Reads an optional sign and digits. -/
def read? : List Char → Option Int
  | '-' :: rest => (natural? rest).map fun n => -Int.ofNat n
  | '+' :: rest => (natural? rest).map Int.ofNat
  | cs => (natural? cs).map Int.ofNat

/-! ## Bounded numbers -/

/-- Why a text is not a number within given bounds. -/
inductive Fault where
  | empty
  /-- A character is no digit, or only a sign is there. -/
  | invalidDigit
  /-- The number is above the upper bound. -/
  | tooLarge
  /-- The number is below the lower bound. -/
  | tooSmall
deriving DecidableEq, Repr

def Fault.message : Fault → String
  | .empty => "cannot parse integer from empty string"
  | .invalidDigit => "invalid digit found in string"
  | .tooLarge => "number too large to fit in target type"
  | .tooSmall => "number too small to fit in target type"

/-- Reads digits towards the bound that the sign leads to. -/
def scan (low high : Int) (negative : Bool) (value : Int) : List Char → Except Fault Int
  | [] => .ok value
  | c :: rest =>
    match digit? c with
    | none => .error .invalidDigit
    | some d =>
      let next := if negative then value * 10 - Int.ofNat d else value * 10 + Int.ofNat d
      if next < low then .error .tooSmall
      else if high < next then .error .tooLarge
      else scan low high negative next rest

def readWithin (low high : Int) : List Char → Except Fault Int
  | [] => .error .empty
  | ['-'] => .error .invalidDigit
  | ['+'] => .error .invalidDigit
  | '-' :: rest => scan low high true 0 rest
  | '+' :: rest => scan low high false 0 rest
  | cs => scan low high false 0 cs

def min64 : Int := -9223372036854775808

def max64 : Int := 9223372036854775807

def read64 (cs : List Char) : Except Fault Int :=
  readWithin min64 max64 cs

def fits64 (n : Int) : Bool :=
  min64 ≤ n && n ≤ max64

end Integer
end ErrorTriage
