import ErrorTriage.SortedMap
import ErrorTriage.Text.Blank

/-!
# Assertion.NamedType — named types that a value is checked against

No value has an interface or an abstract type as its own type, so a check against one of these
always asks whether the value is assignable to it.
-/

namespace ErrorTriage

inductive TypeKind where
  /-- A type that values can have. -/
  | concrete
  /-- A class without values of its own. -/
  | abstract
  | interface
deriving DecidableEq, Repr

structure NamedType where
  name : String
  kind : TypeKind
deriving DecidableEq, Repr

/-- Whether a check against the type is always one of assignability. -/
def NamedType.isNeverExact (t : NamedType) : Bool :=
  t.kind != .concrete

/-- The types that were declared, by name. -/
structure TypeTable where
  /-- The kind of each declared name. -/
  known : SortedMap TypeKind

namespace TypeTable

/-- Declares a type; an earlier declaration of the name is forgotten. -/
def declare (r : TypeTable) (t : NamedType) : TypeTable :=
  ⟨r.known.insert t.name t.kind⟩

def standard : TypeTable :=
  [⟨"IDisposable", .interface⟩, ⟨"IComparable", .interface⟩, ⟨"IEnumerable", .interface⟩,
    ⟨"ISerializable", .interface⟩, ⟨"ValueType", .abstract⟩].foldl declare ⟨.empty⟩

/-- The type of a name, without the blanks around it; names never declared are concrete types. -/
def resolve (r : TypeTable) (name : String) : NamedType :=
  ⟨Text.trim name, (r.known.get? (Text.trim name)).getD .concrete⟩

end TypeTable
end ErrorTriage
