import ErrorTriage.Calendar.DateTime
import ErrorTriage.Number.Integer
import ErrorTriage.Text.Blank

/-!
# Layout — reading dates and times by a layout

A layout is a list of items: numbers, literal characters, stretches of blanks and a fraction of a
second.  Blanks before a number are skipped; a number takes at most as many digits as its field
has, and a year may have a sign and then any number of digits.  A text fits a layout if the items
use it up.  The fixed-width form with a distance from universal time has a reader of its own.
-/

namespace ErrorTriage

inductive Field where
  | year
  | month
  | day
  | hour
  | minute
  | second
deriving DecidableEq, Repr

inductive LayoutItem where
  /-- A number, blanks before it allowed. -/
  | number (field : Field)
  /-- One character as it stands. -/
  | literal (c : Char)
  /-- Any number of blanks, also none. -/
  | blanks
  /-- Nothing, or a point and at least one digit. -/
  | fraction
deriving DecidableEq, Repr

/-- The numbers read so far. -/
structure DateParts where
  year : Int := 0
  month : Nat := 0
  day : Nat := 0
  hour : Nat := 0
  minute : Nat := 0
  /-- The second as written, up to sixty. -/
  second : Nat := 0
  nanosecond : Nat := 0
deriving DecidableEq, Repr

namespace DateParts

def date? (p : DateParts) : Option Date :=
  Date.of? p.year p.month p.day

def dateTime? (p : DateParts) : Option DateTime := do
  let date ← p.date?
  let clock ← Clock.ofWritten? p.hour p.minute p.second p.nanosecond
  return ⟨date, clock⟩

def set (p : DateParts) (field : Field) (n : Nat) : DateParts :=
  match field with
  | .year => { p with year := n }
  | .month => { p with month := n }
  | .day => { p with day := n }
  | .hour => { p with hour := n }
  | .minute => { p with minute := n }
  | .second => { p with second := n }

end DateParts

namespace Layout

/-- Takes up to `limit` digits; at least one must be there. -/
def takeDigits (limit : Nat) (cs : List Char) : Option (List Char × List Char) :=
  let digits := (cs.takeWhile Char.isDigit).take limit
  if digits.isEmpty then none else some (digits, cs.drop digits.length)

/-- Takes a number of up to `limit` digits. -/
def takeNatural (limit : Nat) (cs : List Char) : Option (Nat × List Char) := do
  let (digits, rest) ← takeDigits limit cs
  return (← Integer.digitsFrom 0 digits, rest)

/-- Takes a year: four digits at most, or a sign and any number of digits. -/
def takeYear : List Char → Option (Int × List Char)
  | '-' :: rest => (takeNatural rest.length rest).map fun (n, tail) => (-Int.ofNat n, tail)
  | '+' :: rest => (takeNatural rest.length rest).map fun (n, tail) => (Int.ofNat n, tail)
  | cs => (takeNatural 4 cs).map fun (n, tail) => (Int.ofNat n, tail)

/-- Takes the digits of a fraction: nine count, further ones are passed over. -/
def takeFraction (cs : List Char) : Option (Nat × List Char) := do
  let (digits, rest) ← takeDigits 9 cs
  let n ← Integer.digitsFrom 0 digits
  return (n * Nat.pow 10 (9 - digits.length), rest.dropWhile Char.isDigit)

def readItem (parts : DateParts) (cs : List Char) : LayoutItem → Option (DateParts × List Char)
  | .number .year =>
    (takeYear (Text.trimFront cs)).map fun (n, rest) => ({ parts with year := n }, rest)
  | .number field =>
    (takeNatural 2 (Text.trimFront cs)).map fun (n, rest) => (parts.set field n, rest)
  | .literal c =>
    match cs with
    | d :: rest => if c = d then some (parts, rest) else none
    | [] => none
  | .blanks => some (parts, Text.trimFront cs)
  | .fraction =>
    match cs with
    | '.' :: rest => (takeFraction rest).map fun (n, tail) => ({ parts with nanosecond := n }, tail)
    | _ => some (parts, cs)

def readFrom (parts : DateParts) (cs : List Char) : List LayoutItem → Option DateParts
  | [] => if cs.isEmpty then some parts else none
  | item :: items =>
    match readItem parts cs item with
    | some (parts, rest) => readFrom parts rest items
    | none => none

def read? (items : List LayoutItem) (cs : List Char) : Option DateParts :=
  readFrom {} cs items

/-! ## The layouts in use -/

def day : List LayoutItem :=
  [.number .year, .literal '-', .number .month, .literal '-', .number .day]

def time : List LayoutItem :=
  [.number .hour, .literal ':', .number .minute, .literal ':', .number .second]

def dayTTime : List LayoutItem := day ++ .literal 'T' :: time

def dayBlankTime : List LayoutItem := day ++ .blanks :: time

/-- The layout of stored records: like `dayTTime` with a fraction, with blanks allowed around
every part. -/
def stored : List LayoutItem :=
  [.number .year, .blanks, .literal '-', .number .month, .blanks, .literal '-',
    .number .day, .blanks, .literal 'T', .number .hour, .blanks, .literal ':',
    .number .minute, .blanks, .literal ':', .number .second, .fraction, .blanks]

/-! ## The fixed-width form with a distance from universal time -/

def takeExactly (count : Nat) (cs : List Char) : Option (Nat × List Char) := do
  let (digits, rest) ← takeDigits count cs
  if digits.length = count then return (← Integer.digitsFrom 0 digits, rest) else none

def takeOne (allowed : List Char) : List Char → Option (List Char)
  | c :: rest => if allowed.contains c then some rest else none
  | [] => none

/-- Takes the distance from universal time in minutes: `Z`, or a sign, hours and minutes. -/
def takeOffset : List Char → Option (Int × List Char)
  | [] => none
  | c :: rest =>
    if c = 'Z' ∨ c = 'z' then some (0, rest)
    -- The last of the three is the minus sign of typesetting.
    else if c = '+' ∨ c = '-' ∨ c.toNat = 0x2212 then do
      let (hours, rest) ← takeExactly 2 rest
      let rest ← takeOne [':'] rest
      let (minutes, rest) ← takeExactly 2 rest
      if 59 < minutes ∨ 23 < hours then none
      else
        let distance := Int.ofNat (hours * 60 + minutes)
        return (if c = '+' then distance else -distance, rest)
    else none

/-- Reads a moment given with its distance from universal time and moves it there. -/
def readUniversal? (cs : List Char) : Option DateTime := do
  let (year, rest) ← takeExactly 4 cs
  let rest ← takeOne ['-'] rest
  let (month, rest) ← takeExactly 2 rest
  let rest ← takeOne ['-'] rest
  let (day, rest) ← takeExactly 2 rest
  let rest ← takeOne ['T', 't', ' '] rest
  let (hour, rest) ← takeExactly 2 rest
  let rest ← takeOne [':'] rest
  let (minute, rest) ← takeExactly 2 rest
  let rest ← takeOne [':'] rest
  let (second, rest) ← takeExactly 2 rest
  let (nanosecond, rest) ←
    match rest with
    | '.' :: tail => takeFraction tail
    | _ => some (0, rest)
  let (offset, rest) ← takeOffset rest
  if rest.isEmpty then
    let written ← DateParts.dateTime? ⟨year, month, day, hour, minute, second, nanosecond⟩
    written.minusMinutes? offset
  else none

end Layout

namespace DateTime

def ofDate (d : Date) : DateTime := ⟨d, Clock.midnight⟩

/-- Reads a moment in any of the accepted forms, blanks around it allowed: day and time with `T`
or a blank between them, the same with a distance from universal time, or a day. -/
def ofText? (s : String) : Option DateTime :=
  let cs := Text.trimList s.toList
  ((Layout.read? (Layout.dayTTime ++ [.fraction]) cs).bind DateParts.dateTime?).or
    (((Layout.read? (Layout.dayBlankTime ++ [.fraction]) cs).bind DateParts.dateTime?).or
      ((Layout.readUniversal? cs).or
        (((Layout.read? Layout.day cs).bind DateParts.date?).map ofDate)))

def ofStored? (s : String) : Option DateTime :=
  (Layout.read? Layout.stored s.toList).bind DateParts.dateTime?

end DateTime
end ErrorTriage
