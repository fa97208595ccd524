import ErrorTriage.Query.Predicate

/-!
# Query.LogQuery — which entries of a log are asked for

A query is a list of predicates, all of which must hold, and an optional text that must occur in
one of the text properties.  An empty text asks for nothing.
-/

namespace ErrorTriage
namespace Query

/-- Whether a text occurs, in whatever case, in one of the text properties of an entry. -/
def PropertyTable.search (r : PropertyTable) (entry : LogEntry) (text : String) : Bool :=
  text.isEmpty ||
    r.strings.any fun row =>
      Text.occursIn (Text.lowercase text) (Text.lowercase (row.2 entry))

/-- A query with the properties that its predicates were read with. -/
structure LogQuery where
  properties : PropertyTable := .standard
  predicates : List Predicate := []
  search : Option String := none

namespace LogQuery

/-- Reads predicates up to the first that is none. -/
def readAll (properties : PropertyTable) : List String → Except PredicateError (List Predicate)
  | [] => .ok []
  | text :: rest =>
    match Predicate.read properties text with
    | .error e => .error e
    | .ok p =>
      match readAll properties rest with
      | .error e => .error e
      | .ok more => .ok (p :: more)

/-- The query of predicates that are given as texts. -/
def read (properties : PropertyTable) (texts : List String) :
    Except PredicateError LogQuery :=
  (readAll properties texts).map fun predicates => ⟨properties, predicates, none⟩

def withPredicate (q : LogQuery) (p : Predicate) : LogQuery :=
  { q with predicates := q.predicates ++ [p] }

def withSearch (q : LogQuery) (text : Option String) : LogQuery := { q with search := text }

def isEmpty (q : LogQuery) : Bool :=
  q.predicates.isEmpty && q.search.all fun text => text.isEmpty

def isSatisfiedBy (q : LogQuery) (entry : LogEntry) : Bool :=
  (q.predicates.all fun p => p.isSatisfiedBy q.properties entry)
    && q.search.all fun text => q.properties.search entry text

/-- The entries that are asked for, in their order. -/
def apply (q : LogQuery) (entries : List LogEntry) : List LogEntry :=
  entries.filter q.isSatisfiedBy

end LogQuery
end Query
end ErrorTriage
