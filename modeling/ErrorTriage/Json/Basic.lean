import ErrorTriage.SortedMap
import ErrorTriage.Number.Binary64

/-!
# Json — structured data

A value is what a document says: the members of an object stand in the order of the document and
a key may stand there twice.  `settled` makes the choice that every reader of a document makes:
the last of several members with one key counts, and members are listed by key.

Numbers are whole, or doubles when they were written with a point or an exponent or do not fit
into 64 bits.
-/

namespace ErrorTriage

inductive JsonNumber where
  /-- A whole number that fits into 64 bits, with or without sign. -/
  | int (n : Int)
  | float (x : Binary64)
deriving DecidableEq, Repr

inductive Json where
  | null
  | bool (b : Bool)
  | number (n : JsonNumber)
  | string (s : String)
  | array (items : List Json)
  | object (members : List (String × Json))
deriving Repr, Inhabited

namespace Json

def int (n : Int) : Json := .number (.int n)

mutual

/-- The value with all objects settled: by key, the last of equal keys alone. -/
def settled : Json → Json
  | .array items => .array (settledItems items)
  | .object members => .object (SortedMap.ofList (settledMembers members)).entries
  | .null => .null
  | .bool b => .bool b
  | .number n => .number n
  | .string s => .string s

def settledItems : List Json → List Json
  | [] => []
  | item :: rest => settled item :: settledItems rest

def settledMembers : List (String × Json) → List (String × Json)
  | [] => []
  | (key, value) :: rest => (key, settled value) :: settledMembers rest

end

/-- Items are settled one by one. -/
theorem settledItems_eq_map (items : List Json) : settledItems items = items.map settled := by
  induction items with
  | nil => rfl
  | cons item rest ih => simp [settledItems, ih]

/-- The values of members are settled one by one, under their keys. -/
theorem settledMembers_eq_map (members : List (String × Json)) :
    settledMembers members = members.map fun member => (member.1, settled member.2) := by
  induction members with
  | nil => rfl
  | cons member rest ih => simp [settledMembers, ih]

/-! ## Reading records and scalars -/

def member? (name : String) : Json → Option Json
  | .object members => SortedMap.lookup name members
  | _ => none

/-- The values of the named fields of a record.  A record is an object, or an array of the fields
in their order, from whose end fields may be missing. -/
def fields? (names : List String) : Json → Option (List (Option Json))
  | .object members => some (names.map fun name => SortedMap.lookup name members)
  | .array items =>
    if items.length ≤ names.length then
      some (items.map some ++ List.replicate (names.length - items.length) none)
    else none
  | _ => none

def string? : Json → Option String
  | .string s => some s
  | _ => none

def bool? : Json → Option Bool
  | .bool b => some b
  | _ => none

/-- A whole number of 64 bits with a sign. -/
def int64? : Json → Option Int
  | .number (.int n) => if Integer.fits64 n then some n else none
  | _ => none

def list? {α : Type} (read : Json → Option α) : Json → Option (List α)
  | .array items => items.mapM read
  | _ => none

def nullable? {α : Type} (read : Json → Option α) : Json → Option (Option α)
  | .null => some none
  | j => (read j).map some

/-- A field that may be missing, in which case it has a fixed value. -/
def orElse {α : Type} (fallback : α) (read : Json → Option α) : Option Json → Option α
  | none => some fallback
  | some j => read j

end Json
end ErrorTriage
