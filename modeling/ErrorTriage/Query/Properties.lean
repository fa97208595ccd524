import ErrorTriage.Query.LogEntry

/-!
# Query.Properties — the properties that predicates can name

A table has one part for texts and one for moments.  A name stands at most once in each part;
adding it again moves it to the end.  A name that stands in both parts names a text.
-/

namespace ErrorTriage
namespace Query

inductive PropertyType where
  | string
  | dateTime
deriving DecidableEq, Repr

/-- A table of properties. -/
abbrev Getters (α : Type) := List (String × (LogEntry → α))

/-- The table with a property added at the end, where it was not before. -/
def Getters.put {α : Type} (t : Getters α) (name : String) (get : LogEntry → α) : Getters α :=
  t.filter (fun row => row.1 ≠ name) ++ [(name, get)]

def Getters.get? {α : Type} (t : Getters α) (name : String) : Option (LogEntry → α) :=
  (t.find? fun row => row.1 = name).map (·.2)

/-- The properties that predicates can name. -/
structure PropertyTable where
  strings : Getters String := []
  dateTimes : Getters DateTime := []

namespace PropertyTable

def withText (r : PropertyTable) (name : String) (get : LogEntry → String) :
    PropertyTable :=
  { r with strings := r.strings.put name get }

def withMoment (r : PropertyTable) (name : String) (get : LogEntry → DateTime) :
    PropertyTable :=
  { r with dateTimes := r.dateTimes.put name get }

/-- The properties that are always known. -/
def standard : PropertyTable :=
  (((((((((({} : PropertyTable).withText "application" (·.application)).withText
    "host" (·.hostName)).withText "type" (·.typeName)).withText
    "source" (·.source)).withText "message" (·.message)).withText
    "detail" (·.detail)).withText "user" (·.user)).withText
    "status-code" (fun e => toString e.statusCode)).withMoment "date-time" (·.time))

def typeOf? (r : PropertyTable) (name : String) : Option PropertyType :=
  if (r.strings.get? name).isSome then some .string
  else if (r.dateTimes.get? name).isSome then some .dateTime
  else none

def names (r : PropertyTable) : List String :=
  r.strings.map (·.1) ++ r.dateTimes.map (·.1)

end PropertyTable
end Query
end ErrorTriage
