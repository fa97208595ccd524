import ErrorTriage.Json.Basic
import ErrorTriage.Number.Shortest
import ErrorTriage.Calendar.DateTime

/-!
# Value — what a path reads and an assertion tests

A value is a scalar, a list or an object.  An object is open: it is known by its type name, the
names it is assignable to, its text, and two partial look-ups, by member name and by index.  A
look-up that answers `some .null` found an empty member; `none` means that there is no such member.
-/

namespace ErrorTriage

inductive Index where
  /-- A position or a numeric key. -/
  | int (i : Int)
  | str (s : String)
deriving DecidableEq, Repr

/-- How an index is shown. -/
def Index.text : Index → String
  | .int i => toString i
  | .str s => "'" ++ s ++ "'"

inductive Value where
  | null
  | bool (b : Bool)
  /-- A whole number of 64 bits. -/
  | int (n : Int)
  | float (x : Binary64)
  | str (s : String)
  | dateTime (t : DateTime)
  | list (items : List Value)
  /-- An object: type name, further names it is assignable to, its text, and its look-ups. -/
  | object (typeName : String) (ancestry : List String) (display : String)
      (member : String → Option Value) (item : Index → Option Value)

instance : Inhabited Value := ⟨.null⟩

namespace Value

def isNull : Value → Bool
  | .null => true
  | _ => false

/-- The type name that type assertions and binding errors see. -/
def typeName : Value → String
  | .null => "Null"
  | .bool _ => "Boolean"
  | .int _ => "Int64"
  | .float _ => "Double"
  | .str _ => "String"
  | .dateTime _ => "DateTime"
  | .list _ => "Array"
  | .object name _ _ _ _ => name

/-- The further names that the value is assignable to. -/
def ancestry : Value → List String
  | .object _ names _ _ _ => names
  | .list _ => ["IEnumerable", "Object"]
  | .str _ => ["IComparable", "IEnumerable", "Object"]
  | .null => []
  | _ => ["IComparable", "ValueType", "Object"]

mutual

def text : Value → String
  | .null => ""
  | .bool b => if b then "True" else "False"
  | .int n => toString n
  | .float x => x.plainText
  | .str s => s
  | .dateTime t => t.isoText
  | .list items => ", ".intercalate (texts items)
  | .object _ _ display _ _ => display

def texts : List Value → List String
  | [] => []
  | item :: rest => text item :: texts rest

end

/-- The value of a text that may be missing. -/
def ofOption (s : Option String) : Value :=
  match s with
  | some s => .str s
  | none => .null

@[simp] theorem isNull_null : isNull .null = true := rfl

/-- There is one null. -/
theorem isNull_eq_true_iff {v : Value} : v.isNull = true ↔ v = .null := by
  cases v <;> simp [isNull]

end Value

/-! ## Records -/

/-- An object with a fixed set of named members, which a textual index reaches as well. -/
structure Record where
  typeName : String
  /-- The further names it is assignable to, in the order of declaration. -/
  ancestry : List String := []
  members : SortedMap Value := .empty

namespace Record

def assignableTo (r : Record) (base : String) : Record :=
  { r with ancestry := r.ancestry ++ [base] }

def withMember (r : Record) (name : String) (value : Value) : Record :=
  { r with members := r.members.insert name value }

def member? (r : Record) (name : String) : Option Value :=
  r.members.get? name

/-- The member of a textual index; numbers index nothing. -/
def item? (r : Record) : Index → Option Value
  | .str key => r.member? key
  | .int _ => none

def toValue (r : Record) : Value :=
  .object r.typeName r.ancestry r.typeName r.member? r.item?

end Record

/-! ## Values of documents -/

namespace Value

/-- The value of a number: whole numbers beyond 64 bits with a sign become doubles. -/
def ofJsonNumber : JsonNumber → Value
  | .int n => if Integer.fits64 n then .int n else .float (Binary64.ofInt n)
  | .float x => .float x

mutual

/-- The value of a document; an object becomes a record of type `Object`. -/
def ofJson : Json → Value
  | .null => .null
  | .bool b => .bool b
  | .number n => ofJsonNumber n
  | .string s => .str s
  | .array items => .list (ofJsonItems items)
  | .object members =>
    Record.toValue ⟨"Object", [], SortedMap.ofList (ofJsonMembers members)⟩

def ofJsonItems : List Json → List Value
  | [] => []
  | item :: rest => ofJson item :: ofJsonItems rest

def ofJsonMembers : List (String × Json) → List (String × Value)
  | [] => []
  | (key, value) :: rest => (key, ofJson value) :: ofJsonMembers rest

end

end Value
end ErrorTriage
