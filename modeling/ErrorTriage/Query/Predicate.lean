import ErrorTriage.Query.Properties
import ErrorTriage.Query.Condition
import ErrorTriage.Text.Blank

/-!
# Query.Predicate — predicates over log entries

A predicate is a property, a condition and a value with blanks between them.  One pair of equal
quotes around the value is taken off, so a value with blanks at its ends can be written in quotes.
A predicate on a moment has a value that is one.
-/

namespace ErrorTriage
namespace Query

inductive PredicateError where
  /-- There are fewer than two words. -/
  | tooShort (text : String)
  /-- The second word is no condition. -/
  | unknownOperator (text : String)
  /-- No property has the name; the names that properties have are given. -/
  | unknownProperty (name : String) (known : List String)
  | emptyValue (property : String)
  | invalidDate (value : String)
deriving DecidableEq, Repr

def PredicateError.message : PredicateError → String
  | .tooShort text =>
    "Invalid query predicate: Expected '<property> <operator> <value>' format, got: " ++ text
  | .unknownOperator text =>
    "Unknown operator: '" ++ text ++ "'. Valid operators are: = (equals), != (not equals), "
      ++ "~ (contains), !~ (does not contain)"
  | .unknownProperty name known =>
    "Unknown property: '" ++ name ++ "'. Valid properties are: " ++ ", ".intercalate known
  | .emptyValue property => "Empty value for property '" ++ property ++ "'"
  | .invalidDate value =>
    "Invalid date value: '" ++ value ++ "'. Expected YYYY-MM-DD or YYYY-MM-DD HH:MM:SS"

structure Predicate where
  property : String
  type : PropertyType
  condition : Condition
  value : String
  /-- The value as a moment, of predicates on moments. -/
  date : Option DateLiteral
deriving DecidableEq, Repr

/-! ## Reading -/

/-- What stands between two marks that begin and end a text. -/
def between? (mark : Char) : List Char → Option (List Char)
  | [] => none
  | c :: rest => if c = mark ∧ rest.getLast? = some mark then some rest.dropLast else none

/-- A value without one pair of equal quotes around it. -/
def unquote (cs : List Char) : List Char :=
  ((between? '"' cs).or (between? '\'' cs)).getD cs

/-- The words of a predicate: property, condition and the raw value without the blanks around
it. -/
def words? (cs : List Char) : Option (List Char × List Char × List Char) :=
  match Text.splitAtBlank (Text.trimList cs) with
  | none => none
  | some (property, rest) =>
    let rest := Text.trimFront rest
    let (operator, value) := (Text.splitAtBlank rest).getD (rest, [])
    some (property, operator, Text.trimList value)

namespace Predicate

/-- Reads a predicate.  Of several faults the first in this order is reported: too few words, the
condition, the property, an empty value, a value that is no moment. -/
def read (properties : PropertyTable) (text : String) : Except PredicateError Predicate :=
  match words? text.toList with
  | none => .error (.tooShort text)
  | some (property, operator, raw) =>
    let property := String.ofList property
    match Condition.ofSymbol? (String.ofList operator) with
    | none => .error (.unknownOperator (String.ofList operator))
    | some condition =>
      match properties.typeOf? property with
      | none => .error (.unknownProperty property properties.names)
      | some type =>
        let value := String.ofList (unquote raw)
        if value.isEmpty then .error (.emptyValue property)
        else
          match type with
          | .string => .ok ⟨property, .string, condition, value, none⟩
          | .dateTime =>
            match DateLiteral.ofText? value with
            | none => .error (.invalidDate value)
            | some date => .ok ⟨property, .dateTime, condition, value, some date⟩

/-- The predicate as text, its value in quotes. -/
def render (p : Predicate) : String :=
  p.property ++ " " ++ p.condition.symbol ++ " \"" ++ p.value ++ "\""

/-! ## Matching -/

/-- Whether an entry satisfies a predicate; properties that are not registered satisfy none. -/
def isSatisfiedBy (properties : PropertyTable) (p : Predicate) (entry : LogEntry) : Bool :=
  match p.type, p.date with
  | .dateTime, some literal =>
    (properties.dateTimes.get? p.property).any fun get =>
      compareDate p.condition (get entry) literal
  | .dateTime, none => false
  | .string, _ =>
    (properties.strings.get? p.property).any fun get =>
      compareText p.condition (get entry) p.value

end Predicate
end Query
end ErrorTriage
