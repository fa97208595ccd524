import ErrorTriage.Calendar.Layout
import ErrorTriage.Text.Lowercase

/-!
# Query.Condition — the four conditions on texts and on moments

Two conditions come with their opposites.  Texts are compared in lower case.  A moment is compared
at the precision that the literal was written with; containment asks for the day in either case.
-/

namespace ErrorTriage
namespace Query

/-- What a predicate asks of a property. -/
inductive Condition where
  | equals
  | notEquals
  | contains
  | doesNotContain
deriving DecidableEq, Repr

namespace Condition

def all : List Condition := [.equals, .notEquals, .contains, .doesNotContain]

def symbol : Condition → String
  | .equals => "="
  | .notEquals => "!="
  | .contains => "~"
  | .doesNotContain => "!~"

def ofSymbol? (text : String) : Option Condition :=
  all.find? fun c => c.symbol = text

end Condition

/-! ## Texts -/

/-- Whether a text meets a condition. -/
def compareText (condition : Condition) (actual expected : String) : Bool :=
  let actual := Text.lowercase actual
  let expected := Text.lowercase expected
  match condition with
  | .equals => actual == expected
  | .notEquals => actual != expected
  | .contains => Text.occursIn expected actual
  | .doesNotContain => !Text.occursIn expected actual

/-! ## Moments -/

/-- The precision of a literal. -/
inductive Granularity where
  | day
  | second
deriving DecidableEq, Repr

/-- A moment as it is written in a predicate. -/
structure DateLiteral where
  /-- The moment; of a day its beginning. -/
  value : DateTime
  granularity : Granularity
deriving DecidableEq, Repr

/-- Reads a moment: a day and a time with a blank or `T` between them, or a day. -/
def DateLiteral.ofText? (text : String) : Option DateLiteral :=
  let cs := text.toList
  let moment := fun layout => (Layout.read? layout cs).bind DateParts.dateTime?
  match (moment Layout.dayBlankTime).or (moment Layout.dayTTime) with
  | some t => some ⟨t, .second⟩
  | none =>
    ((Layout.read? Layout.day cs).bind DateParts.date?).map fun d => ⟨DateTime.ofDate d, .day⟩

def compareDate (condition : Condition) (actual : DateTime) (expected : DateLiteral) : Bool :=
  let sameDay := actual.date = expected.value.date
  let equal := match expected.granularity with
    | .day => sameDay
    | .second => actual.wholeSecond = expected.value
  match condition with
  | .equals => equal
  | .notEquals => !equal
  | .contains => sameDay
  | .doesNotContain => !sameDay

end Query
end ErrorTriage
