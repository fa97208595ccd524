import ErrorTriage.Calendar.Date
import ErrorTriage.Json.Basic
import ErrorTriage.Text.Ranges

/-!
# Toml.Scalar — texts, numbers and moments of a profile file

Every reader takes a scalar from the front of the text and answers it with the rest.  Numbers may
have single underscores between their digits.  A moment becomes a record with one member that
holds its text, a form that nothing in a profile is read from.
-/

namespace ErrorTriage
namespace Toml

def isSpace (c : Char) : Bool := c == ' ' || c == '\t'

def skipSpace (cs : List Char) : List Char := cs.dropWhile isSpace

def isPlain (c : Char) : Bool := c == '\t' || (0x20 ≤ c.toNat && c.toNat != 0x7F)

def newline? : List Char → Option (List Char)
  | '\n' :: rest => some rest
  | '\r' :: '\n' :: rest => some rest
  | _ => none

def skipComment : List Char → List Char
  | '#' :: rest => rest.dropWhile isPlain
  | cs => cs

/-! ## Texts -/

/-- The character of so many hexadecimal digits. -/
def hexEscape? (count : Nat) (cs : List Char) : Option (Char × List Char) :=
  let digits := cs.take count
  let n := Text.hexNat digits
  if digits.length = count ∧ digits.all (fun c => (Text.hexDigit? c).isSome) then
    if h : n.isValidChar then some (Char.ofNatAux n h, cs.drop count) else none
  else none

/-- The character of an escape, from after the backslash on. -/
def escape? : List Char → Option (Char × List Char)
  | 'b' :: rest => some ('\x08', rest)
  | 't' :: rest => some ('\t', rest)
  | 'n' :: rest => some ('\n', rest)
  | 'f' :: rest => some ('\x0c', rest)
  | 'r' :: rest => some ('\r', rest)
  | '"' :: rest => some ('"', rest)
  | '\\' :: rest => some ('\\', rest)
  | 'u' :: rest => hexEscape? 4 rest
  | 'U' :: rest => hexEscape? 8 rest
  | _ => none

/-- The characters of a text with escapes up to its closing quote. -/
def readBasic : Nat → List Char → List Char → Option (List Char × List Char)
  | 0, _, _ => none
  | _ + 1, _, [] => none
  | fuel + 1, done, c :: rest =>
    if c = '"' then some (done.reverse, rest)
    else if c = '\\' then
      match escape? rest with
      | some (d, rest) => readBasic fuel (d :: done) rest
      | none => none
    else if isPlain c then readBasic fuel (c :: done) rest
    else none

/-- The characters of a text without escapes up to its closing quote. -/
def readLiteral (cs : List Char) : Option (List Char × List Char) :=
  let inside := cs.takeWhile fun c => isPlain c && c != '\''
  match cs.dropWhile fun c => isPlain c && c != '\'' with
  | '\'' :: rest => some (inside, rest)
  | _ => none

/-- Quotes directly before the closing ones belong to the text, up to two of them. -/
def closing (quote : Char) (done : List Char) : List Char → List Char × List Char
  | a :: b :: rest =>
    if a = quote then
      if b = quote then ((quote :: quote :: done).reverse, rest)
      else ((quote :: done).reverse, b :: rest)
    else (done.reverse, a :: b :: rest)
  | [a] => if a = quote then ((quote :: done).reverse, []) else (done.reverse, [a])
  | [] => (done.reverse, [])

def skipLines : List Char → List Char
  | '\r' :: '\n' :: rest => skipLines rest
  | '\n' :: rest => skipLines rest
  | ' ' :: rest => skipLines rest
  | '\t' :: rest => skipLines rest
  | cs => cs

/-- The characters of a text over several lines up to its closing quotes; a backslash at the end of
a line joins the lines. -/
def readLines (quote : Char) (escapes : Bool) :
    Nat → List Char → List Char → Option (List Char × List Char)
  | 0, _, _ => none
  | _ + 1, _, [] => none
  | fuel + 1, done, c :: rest =>
    if c = quote then
      match rest with
      | a :: b :: tail =>
        if a = quote ∧ b = quote then some (closing quote done tail)
        else readLines quote escapes fuel (c :: done) rest
      | _ => readLines quote escapes fuel (c :: done) rest
    else if c = '\\' ∧ escapes then
      match newline? (skipSpace rest) with
      -- Blanks may stand between the backslash and the end of its line.
      | some tail => readLines quote escapes fuel done (skipLines tail)
      | none =>
        match escape? rest with
        | some (d, tail) => readLines quote escapes fuel (d :: done) tail
        | none => none
    else
      match newline? (c :: rest) with
      -- Either kind of line break becomes a line feed.
      | some tail => readLines quote escapes fuel ('\n' :: done) tail
      | none => if isPlain c then readLines quote escapes fuel (c :: done) rest else none

/-- Takes a text in any of the four kinds of quotes. -/
def readText (cs : List Char) : Option (String × List Char) :=
  let text := fun (r : Option (List Char × List Char)) =>
    r.map fun (inside, rest) => (String.ofList inside, rest)
  let lines := fun (quote : Char) (escapes : Bool) (rest : List Char) =>
    -- A line break directly after the opening quotes does not belong to the text.
    let rest := (newline? rest).getD rest
    text (readLines quote escapes (rest.length + 1) [] rest)
  match cs with
  | '"' :: '"' :: '"' :: rest => lines '"' true rest
  | '\'' :: '\'' :: '\'' :: rest => lines '\'' false rest
  | '"' :: rest => text (readBasic (rest.length + 1) [] rest)
  | '\'' :: rest => text (readLiteral rest)
  | _ => none

/-! ## Numbers -/

/-- Takes digits with single underscores between them, which are dropped. -/
def digitRun (isDigit : Char → Bool) : List Char → List Char × List Char
  | '_' :: c :: rest =>
    if isDigit c then
      let (digits, tail) := digitRun isDigit rest
      (c :: digits, tail)
    else ([], '_' :: c :: rest)
  | c :: rest =>
    if isDigit c then
      let (digits, tail) := digitRun isDigit rest
      (c :: digits, tail)
    else ([], c :: rest)
  | [] => ([], [])

def digits? (isDigit : Char → Bool) (cs : List Char) : Option (List Char × List Char) :=
  match cs with
  | c :: _ => if isDigit c then some (digitRun isDigit cs) else none
  | [] => none

def sign (cs : List Char) : List Char × List Char :=
  match cs with
  | '+' :: rest => (['+'], rest)
  | '-' :: rest => (['-'], rest)
  | _ => ([], cs)

/-- Takes a whole number in decimal digits; a leading zero stands alone. -/
def decimal? (cs : List Char) : Option (List Char × List Char) :=
  let (s, rest) := sign cs
  match rest with
  | '0' :: tail => some (s ++ ['0'], tail)
  | _ => (digits? Char.isDigit rest).map fun (digits, tail) => (s ++ digits, tail)

def exponent? : List Char → Option (List Char × List Char)
  | c :: rest =>
    if c = 'e' ∨ c = 'E' then
      let (s, rest) := sign rest
      (digits? Char.isDigit rest).map fun (digits, tail) => ('e' :: s ++ digits, tail)
    else none
  | [] => none

/-- Takes a number with a fraction or an exponent.  One that is too large is refused. -/
def float? (cs : List Char) : Option (Json × List Char) := do
  let (whole, rest) ← decimal? cs
  let (text, rest) ←
    match rest with
    | '.' :: tail => do
      let (fraction, tail) ← digits? Char.isDigit tail
      -- An exponent without digits is left to whatever reads on.
      let (power, tail) := (exponent? tail).getD ([], tail)
      some (whole ++ '.' :: fraction ++ power, tail)
    | _ => (exponent? rest).map fun (power, tail) => (whole ++ power, tail)
  let x ← Binary64.ofText? text
  if x = .infinite false then none else some (.number (.float x), rest)

def integer? (cs : List Char) : Option (Json × List Char) :=
  let based := fun (base : Nat) (rest : List Char) =>
    let isDigit := fun c => (Text.hexDigit? c).any fun d => d < base
    (digits? isDigit rest).bind fun (digits, tail) =>
      let n : Int := Int.ofNat (digits.foldl (fun n c => n * base + (Text.hexDigit? c).getD 0) 0)
      if Integer.fits64 n then some (Json.int n, tail) else none
  match cs with
  | '0' :: 'x' :: rest => based 16 rest
  | '0' :: 'o' :: rest => based 8 rest
  | '0' :: 'b' :: rest => based 2 rest
  | _ => (decimal? cs).bind fun (digits, tail) =>
    match Integer.read64 digits with
    | .ok n => some (Json.int n, tail)
    | .error _ => none

def specialFloat? (cs : List Char) : Option (Json × List Char) :=
  let (s, rest) := sign cs
  match rest with
  | 'i' :: 'n' :: 'f' :: tail => some (.number (.float (.infinite (s = ['-']))), tail)
  | 'n' :: 'a' :: 'n' :: tail => some (.number (.float .nan), tail)
  | _ => none

/-! ## Moments -/

/-- Takes exactly so many digits that denote a number in a range. -/
def field? (count low high : Nat) (cs : List Char) : Option (List Char × List Char) :=
  let digits := cs.take count
  match Integer.natural? digits with
  | some n => if digits.length = count ∧ low ≤ n ∧ n ≤ high then some (digits, cs.drop count) else none
  | none => none

def expect? (c : Char) : List Char → Option (List Char)
  | d :: rest => if c = d then some rest else none
  | [] => none

def date? (cs : List Char) : Option (List Char × List Char) := do
  let (year, rest) ← field? 4 0 9999 cs
  let (month, rest) ← field? 2 1 12 (← expect? '-' rest)
  let (day, rest) ← field? 2 1 31 (← expect? '-' rest)
  let number := fun digits => (Integer.natural? digits).getD 0
  let _ ← Date.of? (number year) (number month) (number day)
  return (year ++ '-' :: month ++ '-' :: day, rest)

/-- The fraction of a second to nine digits, without zeros at its end. -/
def fractionText (digits : List Char) : List Char :=
  match ((digits.take 9).reverse.dropWhile (· = '0')).reverse with
  | [] => []
  | kept => '.' :: kept

def time? (cs : List Char) : Option (List Char × List Char) := do
  let (hour, rest) ← field? 2 0 23 cs
  let (minute, rest) ← field? 2 0 59 (← expect? ':' rest)
  let (second, rest) ← field? 2 0 60 (← expect? ':' rest)
  let text := hour ++ ':' :: minute ++ ':' :: second
  match rest with
  | '.' :: tail =>
    let (digits, tail) := Binary64.spanDigits tail
    if digits.isEmpty then return (text, rest) else return (text ++ fractionText digits, tail)
  | _ => return (text, rest)

def offset? (cs : List Char) : Option (List Char × List Char) :=
  match cs with
  | 'Z' :: rest => some (['Z'], rest)
  | 'z' :: rest => some (['Z'], rest)
  | s :: rest =>
    if s = '+' ∨ s = '-' then do
      let (hours, rest) ← field? 2 0 23 rest
      let (minutes, rest) ← field? 2 0 59 (← expect? ':' rest)
      -- No distance is written with a plus sign, however it was given.
      let zero := hours = ['0', '0'] ∧ minutes = ['0', '0']
      return ((if zero then '+' else s) :: hours ++ ':' :: minutes, rest)
    else none
  | [] => none

/-- Takes a time after the mark that separates it from a day. -/
def timeAfterDate? (cs : List Char) : Option (List Char × List Char) :=
  match cs with
  | c :: rest => if c = 'T' ∨ c = 't' ∨ c = ' ' then time? rest else none
  | [] => none

/-- Takes a day, a time or both. -/
def momentText? (cs : List Char) : Option (List Char × List Char) :=
  match date? cs with
  | none => time? cs
  | some (day, rest) =>
    match timeAfterDate? rest with
    | none => some (day, rest)
    | some (time, rest) =>
      let (offset, rest) := (offset? rest).getD ([], rest)
      some (day ++ 'T' :: time ++ offset, rest)

/-- The member that holds the text of a moment. -/
def momentKey : String := "$moment"

def moment? (cs : List Char) : Option (Json × List Char) :=
  (momentText? cs).map fun (text, rest) =>
    (.object [(momentKey, .string (String.ofList text))], rest)

def scalar? (cs : List Char) : Option (Json × List Char) :=
  match cs with
  | '"' :: _ => (readText cs).map fun (s, rest) => (.string s, rest)
  | '\'' :: _ => (readText cs).map fun (s, rest) => (.string s, rest)
  | 't' :: 'r' :: 'u' :: 'e' :: rest => some (.bool true, rest)
  | 'f' :: 'a' :: 'l' :: 's' :: 'e' :: rest => some (.bool false, rest)
  -- Moments and floats begin like whole numbers, so they are tried first.
  | _ => (moment? cs).or ((float? cs).or ((specialFloat? cs).or (integer? cs)))

end Toml
end ErrorTriage
