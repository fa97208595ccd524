import ErrorTriage.Json.Basic

/-!
# Json.Reader — reading a document

The grammar is the strict one: four kinds of blanks, no leading zeros, no trailing commas, no bare
control characters in texts, surrogates only in pairs.  Arrays and objects nest at most 127 deep,
and a number whose magnitude is beyond every double is refused.  A double is not always the nearest
one to what is written: its digits are rounded before the point is moved.  The reader recurses on a
fuel that the length of the text bounds.
-/

namespace ErrorTriage
namespace Json

def isSpace (c : Char) : Bool :=
  c == ' ' || c == '\t' || c == '\n' || c == '\r'

def skipSpace (cs : List Char) : List Char :=
  cs.dropWhile isSpace

/-- How deep arrays and objects nest. -/
def maxDepth : Nat := 127

/-! ## Texts -/

def hexDigit? (c : Char) : Option Nat :=
  if c.isDigit then some (c.toNat - 48)
  else if 'a' ≤ c ∧ c ≤ 'f' then some (c.toNat - 87)
  else if 'A' ≤ c ∧ c ≤ 'F' then some (c.toNat - 55)
  else none

def hexUnit? : List Char → Option (Nat × List Char)
  | a :: b :: c :: d :: rest => do
    let a ← hexDigit? a
    let b ← hexDigit? b
    let c ← hexDigit? c
    let d ← hexDigit? d
    return (((a * 16 + b) * 16 + c) * 16 + d, rest)
  | _ => none

/-- The character of an escape by number: one unit, or the two units of a pair. -/
def escapedUnit? (cs : List Char) : Option (Char × List Char) := do
  let (unit, rest) ← hexUnit? cs
  if unit < 0xD800 ∨ 0xDFFF < unit then return (Char.ofNat unit, rest)
  else if unit < 0xDC00 then
    match rest with
    | '\\' :: 'u' :: tail => do
      let (low, tail) ← hexUnit? tail
      if 0xDC00 ≤ low ∧ low ≤ 0xDFFF then
        return (Char.ofNat (0x10000 + (unit - 0xD800) * 0x400 + (low - 0xDC00)), tail)
      else none
    | _ => none
  else none

/-- The character of an escape by letter. -/
def escapedLetter? (c : Char) : Option Char :=
  match c with
  | '"' => some '"'
  | '\\' => some '\\'
  | '/' => some '/'
  | 'b' => some '\x08'
  | 'f' => some '\x0c'
  | 'n' => some '\n'
  | 'r' => some '\r'
  | 't' => some '\t'
  | _ => none

/-- The characters of a text up to its closing quote, `done` holding those before in reverse. -/
def readText : Nat → List Char → List Char → Option (String × List Char)
  | 0, _, _ => none
  | _ + 1, _, [] => none
  | fuel + 1, done, c :: rest =>
    if c = '"' then some (String.ofList done.reverse, rest)
    else if c = '\\' then
      match rest with
      | 'u' :: tail => do
        let (d, tail) ← escapedUnit? tail
        readText fuel (d :: done) tail
      | d :: tail => do
        let d ← escapedLetter? d
        readText fuel (d :: done) tail
      | [] => none
    else if c.toNat < 0x20 then none
    else readText fuel (c :: done) rest

/-! ## Numbers -/

/-- The greatest whole number of 64 bits without sign. -/
def maxUnsigned64 : Int := 18446744073709551615

/-- Appends digits to a significand up to the first that would lead beyond 64 bits; answers with
the digits that were left out. -/
def appendDigits (significand : Nat) : List Char → Nat × List Char
  | [] => (significand, [])
  | c :: rest =>
    let next := significand * 10 + (Integer.digit? c).getD 0
    if (next : Int) ≤ maxUnsigned64 then appendDigits next rest else (significand, c :: rest)

/-- The number of a sign, digits, a fraction and an exponent.  A double is found in two roundings:
the leading digits become a double, and the point of that double is moved. -/
def numberOf? (negative : Bool) (whole fraction : List Char) (exponent : Option Int) :
    Option JsonNumber :=
  let (significand, left) := appendDigits 0 whole
  let n := if negative then -Int.ofNat significand else Int.ofNat significand
  if fraction.isEmpty ∧ exponent.isNone ∧ left.isEmpty ∧ Integer.min64 ≤ n
      -- A negative zero is a double; no whole number keeps its sign.
      ∧ ¬ (negative ∧ n = 0) then
    some (.int n)
  else
    let (significand, leftOfFraction) := appendDigits significand fraction
    let places := exponent.getD 0 + Int.ofNat left.length
      - Int.ofNat (fraction.length - leftOfFraction.length)
    ((Binary64.ofRatio negative significand 1).shift? places).map .float

/-- The part after the point, if there is one; a point needs a digit after it. -/
def fraction? : List Char → Option (List Char × List Char)
  | '.' :: rest =>
    let (digits, tail) := Binary64.spanDigits rest
    if digits.isEmpty then none else some (digits, tail)
  | cs => some ([], cs)

def exponentPart? : List Char → Option (Option Int × List Char)
  | c :: rest =>
    if c = 'e' ∨ c = 'E' then
      let (sign, rest) :=
        match rest with
        | '-' :: tail => (true, tail)
        | '+' :: tail => (false, tail)
        | _ => (false, rest)
      let (digits, tail) := Binary64.spanDigits rest
      (Integer.natural? digits).map fun n =>
        (some (if sign then -Int.ofNat n else Int.ofNat n), tail)
    else some (none, c :: rest)
  | [] => some (none, [])

/-- A number from its first digit on: a zero stands alone before the point. -/
def readNumber (negative : Bool) (cs : List Char) : Option (JsonNumber × List Char) := do
  let (whole, rest) := Binary64.spanDigits cs
  if whole.isEmpty ∨ (1 < whole.length ∧ whole.head? = some '0') then none
  else
    let (fraction, rest) ← fraction? rest
    let (exponent, rest) ← exponentPart? rest
    return (← numberOf? negative whole fraction exponent, rest)

/-! ## Values -/

mutual

/-- Reads a value, blanks before it allowed; `depth` more arrays and objects may be entered. -/
def readValue : Nat → Nat → List Char → Option (Json × List Char)
  | 0, _, _ => none
  | fuel + 1, depth, cs =>
    match skipSpace cs with
    | '"' :: rest => (readText (rest.length + 1) [] rest).map fun (s, tail) => (.string s, tail)
    | '[' :: rest =>
      if depth = 0 then none
      else
        match skipSpace rest with
        | ']' :: tail => some (.array [], tail)
        | rest => (readItems fuel (depth - 1) [] rest).map fun (items, tail) => (.array items, tail)
    | '\x7b' :: rest =>
      if depth = 0 then none
      else
        match skipSpace rest with
        | '\x7d' :: tail => some (.object [], tail)
        | rest =>
          (readMembers fuel (depth - 1) [] rest).map fun (members, tail) => (.object members, tail)
    | 't' :: 'r' :: 'u' :: 'e' :: rest => some (.bool true, rest)
    | 'f' :: 'a' :: 'l' :: 's' :: 'e' :: rest => some (.bool false, rest)
    | 'n' :: 'u' :: 'l' :: 'l' :: rest => some (.null, rest)
    | '-' :: rest => (readNumber true rest).map fun (n, tail) => (.number n, tail)
    | rest => (readNumber false rest).map fun (n, tail) => (.number n, tail)

/-- Reads items up to the closing bracket, `done` holding those before in reverse. -/
def readItems : Nat → Nat → List Json → List Char → Option (List Json × List Char)
  | 0, _, _, _ => none
  | fuel + 1, depth, done, cs =>
    match readValue fuel depth cs with
    | none => none
    | some (item, rest) =>
      match skipSpace rest with
      | ',' :: tail => readItems fuel depth (item :: done) tail
      | ']' :: tail => some ((item :: done).reverse, tail)
      | _ => none

/-- Reads members up to the closing brace, `done` holding those before in reverse. -/
def readMembers : Nat → Nat → List (String × Json) → List Char →
    Option (List (String × Json) × List Char)
  | 0, _, _, _ => none
  | fuel + 1, depth, done, cs =>
    match skipSpace cs with
    | '"' :: rest =>
      match readText (rest.length + 1) [] rest with
      | none => none
      | some (key, rest) =>
        match skipSpace rest with
        | ':' :: rest =>
          match readValue fuel depth rest with
          | none => none
          | some (value, rest) =>
            match skipSpace rest with
            | ',' :: tail => readMembers fuel depth ((key, value) :: done) tail
            | '\x7d' :: tail => some (((key, value) :: done).reverse, tail)
            | _ => none
        | _ => none
    | _ => none

end

def read? (text : String) : Option Json :=
  let cs := text.toList
  match readValue (cs.length + 1) maxDepth cs with
  | some (value, rest) => if (skipSpace rest).isEmpty then some value else none
  | none => none

end Json
end ErrorTriage
