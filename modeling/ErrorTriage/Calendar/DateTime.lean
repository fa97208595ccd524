import ErrorTriage.Calendar.Date

/-!
# DateTime — a day and a time on its clock, and how the two are written

A clock holds a leap second as the second before it with a thousand million nanoseconds or more.
The leap seconds of the calendar end a minute and are written as its second sixty.  A clock can also
hold one after any other second, as clocks need that are not whole minutes apart; such a leap second
is written as the second that follows it, and its text alone does not tell the two apart.

Years outside of `0` to `9999` are written with a sign.
-/

namespace ErrorTriage
namespace Clock

/-- Whether the parts name a time: the nanoseconds may pass one second, for a leap second, but not
two. -/
def isTime (hour minute second nanosecond : Nat) : Bool :=
  hour < 24 && minute < 60 && second < 60 && nanosecond < 2000000000

end Clock

structure Clock where
  hour : Nat
  minute : Nat
  /-- The second; a leap second counts as the second before it. -/
  second : Nat
  /-- Nanoseconds since the second began; a leap second adds a thousand million. -/
  nanosecond : Nat
  /-- The parts name a time. -/
  valid : Clock.isTime hour minute second nanosecond = true
deriving DecidableEq, Repr

namespace Clock

def of? (hour minute second nanosecond : Nat) : Option Clock :=
  if h : isTime hour minute second nanosecond = true then
    some ⟨hour, minute, second, nanosecond, h⟩
  else none

/-- The time that is written with these parts.  Second sixty is a leap second, and there is no other
way to write one. -/
def ofWritten? (hour minute second nanosecond : Nat) : Option Clock :=
  if second = 60 then of? hour minute 59 (1000000000 + nanosecond)
  else if nanosecond < 1000000000 then of? hour minute second nanosecond
  else none

def midnight : Clock := ⟨0, 0, 0, 0, by decide⟩

/-- The second as it is written: a leap second counts as the one after its second. -/
def writtenSecond (t : Clock) : Nat :=
  if 1000000000 ≤ t.nanosecond then t.second + 1 else t.second

/-- The nanoseconds of the written second. -/
def fraction (t : Clock) : Nat :=
  t.nanosecond % 1000000000

/-- The same second without its fraction; a leap second becomes the second before it. -/
def wholeSecond (t : Clock) : Clock :=
  ⟨t.hour, t.minute, t.second, 0, by
    have := t.valid
    simp only [Clock.isTime, Bool.and_eq_true] at this ⊢
    exact ⟨this.1, rfl⟩⟩

def order (a b : Clock) : Ordering :=
  (compare a.hour b.hour).then ((compare a.minute b.minute).then
    ((compare a.second b.second).then (compare a.nanosecond b.nanosecond)))

end Clock

structure DateTime where
  date : Date
  clock : Clock
deriving DecidableEq, Repr

namespace DateTime

def epoch : DateTime := ⟨Date.epoch, Clock.midnight⟩

def order (a b : DateTime) : Ordering :=
  (a.date.order b.date).then (a.clock.order b.clock)

def wholeSecond (t : DateTime) : DateTime :=
  { t with clock := t.clock.wholeSecond }

/-- The moment so many minutes earlier, for less than a day in either direction. -/
def minusMinutes? (t : DateTime) (minutes : Int) : Option DateTime :=
  let total : Int := Int.ofNat (t.clock.hour * 60 + t.clock.minute) - minutes
  -- Less than a day is taken away, so the day changes by one at most.
  let day := if total < 0 then t.date.previous? else if 1440 ≤ total then t.date.next? else some t.date
  let inDay := (total % 1440).toNat
  match day, Clock.of? (inDay / 60) (inDay % 60) t.clock.second t.clock.nanosecond with
  | some date, some clock => some ⟨date, clock⟩
  | _, _ => none

/-! ## Writing -/

/-- A number with zeros before it up to a width. -/
def padded (digits n : Nat) : List Char :=
  let text := Nat.toDigits 10 n
  List.replicate (digits - text.length) '0' ++ text

/-- A year: four digits, and a sign outside of `0` to `9999`. -/
def yearText (year : Int) : List Char :=
  if 0 ≤ year ∧ year ≤ 9999 then padded 4 year.toNat
  else (if year < 0 then '-' else '+') :: padded 4 year.natAbs

def dateText (d : Date) : List Char :=
  yearText d.year ++ '-' :: padded 2 d.month ++ '-' :: padded 2 d.day

/-- A time as `10:20:30`, a leap second at the end of a minute with second sixty. -/
def clockText (t : Clock) : List Char :=
  padded 2 t.hour ++ ':' :: padded 2 t.minute ++ ':' :: padded 2 t.writtenSecond

/-- A fraction of a second with three, six or nine digits, or nothing. -/
def fractionText (nanosecond : Nat) : List Char :=
  if nanosecond = 0 then []
  else if nanosecond % 1000000 = 0 then '.' :: padded 3 (nanosecond / 1000000)
  else if nanosecond % 1000 = 0 then '.' :: padded 6 (nanosecond / 1000)
  else '.' :: padded 9 nanosecond

/-- A day and a time with a separator between them, to the second. -/
def textWith (separator : Char) (t : DateTime) : String :=
  String.ofList (dateText t.date ++ separator :: clockText t.clock)

/-- The form `2024-03-01T10:20:30`. -/
def isoText (t : DateTime) : String :=
  t.textWith 'T'

/-- The form `2024-03-01T10:20:30.250`, with the fraction if there is one. -/
def exactText (t : DateTime) : String :=
  t.isoText ++ String.ofList (fractionText t.clock.fraction)

end DateTime
end ErrorTriage
