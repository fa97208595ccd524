import ErrorTriage.Pattern.Meaning
import ErrorTriage.Pattern.Reader

/-!
# Pattern.Search — whether a pattern is found in a text

A set of places of a text is a number whose bit `i` stands for the place before character `i`.  A
pattern leads from the places where it may start to the places where it may end, so that it is
found in a text if it leads from all places to some.  No match is ever tried twice and the work is
bounded by the size of the pattern times the square of the length of the text.
-/

namespace ErrorTriage
namespace Pattern

/-! ## Places -/

/-- Whether a condition holds between two neighbouring characters, either of which is missing at
an end of the text. -/
def Look.holds (isWord : Char → Bool) (before after : Option Char) : Look → Bool
  | .start => before.isNone
  | .stop => after.isNone
  | .lineStart => before.isNone || before == some '\n'
  | .lineStop => after.isNone || after == some '\n'
  | .returnLineStart =>
    before.isNone || before == some '\n' || (before == some '\r' && after != some '\n')
  | .returnLineStop =>
    after.isNone || after == some '\r' || (after == some '\n' && before != some '\r')
  | .wordEdge => before.any isWord != after.any isWord
  | .noWordEdge => before.any isWord == after.any isWord
  | .wordStart => !before.any isWord && after.any isWord
  | .wordStop => before.any isWord && !after.any isWord
  | .wordStartHalf => !before.any isWord
  | .wordStopHalf => !after.any isWord

/-- The places of a text at which a test of both neighbours holds. -/
def placesWhere (test : Option Char → Option Char → Bool) (before : Option Char) :
    List Char → Nat
  | [] => (test before none).toNat
  | c :: rest => (test before (some c)).toNat + 2 * placesWhere test (some c) rest

/-- All places of a text with so many characters. -/
def allPlaces (length : Nat) : Nat := Nat.pow 2 (length + 1) - 1

/-! ## Plans -/

/-- A pattern over one text: sets and conditions are the places where they hold. -/
inductive Plan where
  | pass
  /-- One character is taken from one of the places. -/
  | step (places : Nat)
  /-- The place has to be one of these. -/
  | check (places : Nat)
  | sequence (first second : Plan)
  | choice (first second : Plan)
  | repetition (least : Nat) (most : Option Nat) (body : Plan)

def Meaning.plan (text : List Char) : Meaning → Plan
  | .empty => .pass
  | .chars set => .step (placesWhere (fun _ after => after.any set.contains) none text)
  | .look isWord l => .check (placesWhere (fun before after => l.holds isWord before after) none text)
  | .sequence first second => .sequence (first.plan text) (second.plan text)
  | .choice first second => .choice (first.plan text) (second.plan text)
  | .repetition least most body => .repetition least most (body.plan text)

/-- Applies a function again and again, at most so many times; once it changes nothing it never
will. -/
def iterate (f : Nat → Nat) : Nat → Nat → Nat
  | 0, places => places
  | count + 1, places =>
    let next := f places
    -- A fixed point stays fixed, so the remaining rounds are saved.
    if next = places then places else iterate f count next

/-- The places that a plan leads to from places of a text with so many characters.  A repetition
without upper bound adds at least one place each time until it adds none, so one more round than
there are characters is enough. -/
def Plan.reach (length : Nat) : Plan → Nat → Nat
  | .pass, start => start
  -- Taking a character moves every place to the one after it.
  | .step places, start => (start &&& places) <<< 1
  | .check places, start => start &&& places
  | .sequence first second, start => second.reach length (first.reach length start)
  | .choice first second, start => first.reach length start ||| second.reach length start
  | .repetition least most body, start =>
    let more := match most with
      | some most => most - least
      | none => length + 1
    iterate (fun places => places ||| body.reach length places) more
      (iterate (body.reach length) least start)

end Pattern

/-! ## Patterns with their source -/

structure Pattern where
  source : String
  /-- What it asks of a text. -/
  meaning : Pattern.Meaning

namespace Pattern

/-- Reads a pattern; `insensitive` is the switch that it starts with. -/
def read? (source : String) (insensitive : Bool) : Option Pattern := do
  let tree ← readTree source
  let (meaning, _) ← meaning? { insensitive } tree
  if meaning.cost ≤ Meaning.maxCost then return ⟨source, meaning⟩ else none

def isFoundIn (p : Pattern) (text : String) : Bool :=
  let cs := text.toList
  (p.meaning.plan cs).reach cs.length (allPlaces cs.length) != 0

end Pattern
end ErrorTriage
