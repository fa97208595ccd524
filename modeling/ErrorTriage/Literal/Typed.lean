import ErrorTriage.Literal.TypeCode
import ErrorTriage.Calendar.Layout
import ErrorTriage.Value

/-!
# Literal.Typed — literals of a declared type and their order against values

A literal is converted to its type once, a value each time it is compared.  Both go through
`Literal.convert?`, so the two sides of a comparison are always of one kind.  Whole numbers are
exact: a value outside of the range of the type does not convert.
-/

namespace ErrorTriage

/-- A value in the representation of a type code. -/
inductive Literal where
  | bool (b : Bool)
  | char (c : Char)
  | int (n : Int)
  | float (x : Binary64)
  | dateTime (t : DateTime)
  | str (s : String)
deriving DecidableEq

namespace Literal

/-- The order of two literals; literals of different kinds have none. -/
def order? : Literal → Literal → Option Ordering
  | .bool a, .bool b => some (compare a b)
  | .char a, .char b => some (compare a b)
  | .int a, .int b => some (compare a b)
  | .float a, .float b => a.compare? b
  | .dateTime a, .dateTime b => some (a.order b)
  | .str a, .str b => some (compare a b)
  | _, _ => none

/-! ## Conversion -/

/-- A value as a whole number: doubles are rounded to the nearest one, a tie to the even one, and
truth values count as one and zero. -/
def whole? : Value → Option Int
  | .int n => some n
  | .float x => x.round?
  | .bool b => some (if b then 1 else 0)
  | .str s => Integer.read? (Text.trimList s.toList)
  | _ => none

def float? : Value → Option Binary64
  | .int n => some (Binary64.ofInt n)
  | .float x => some x
  | .bool b => some (Binary64.ofInt (if b then 1 else 0))
  | .str s => Binary64.ofText? (Text.trimList s.toList)
  | _ => none

/-- A value as a truth value: numbers other than zero count as true. -/
def bool? : Value → Option Bool
  | .bool b => some b
  | .int n => some (n != 0)
  | .float x => some (!x.isZero)
  | .str s =>
    let word := String.ofList ((Text.trimList s.toList).map Char.toLower)
    if word = "true" then some true else if word = "false" then some false else none
  | _ => none

def charOfNumber? (n : Int) : Option Char :=
  match n with
  | .ofNat k => if h : k.isValidChar then some (Char.ofNatAux k h) else none
  | .negSucc _ => none

/-- A value as a character: a text of exactly one character, or a number of a character. -/
def char? : Value → Option Char
  | .str s =>
    match s.toList with
    | [c] => some c
    | _ => none
  | .int n => charOfNumber? n
  | _ => none

def dateTime? : Value → Option DateTime
  | .dateTime t => some t
  | .str s => DateTime.ofText? s
  | _ => none

def str? : Value → Option String
  | .null => none
  | .list _ => none
  | .object .. => none
  | scalar => some scalar.text

def within? (range : Int × Int) (n : Int) : Option Int :=
  if range.1 ≤ n ∧ n ≤ range.2 then some n else none

/-- A value in the representation of a type code. -/
def convert? (code : TypeCode) (v : Value) : Option Literal :=
  match code.range? with
  | some range => ((whole? v).bind (within? range)).map .int
  | none =>
    match code with
    | .single => (float? v).map .float
    | .double => (float? v).map .float
    | .decimal => (float? v).map .float
    | .boolean => (bool? v).map .bool
    | .char => (char? v).map .char
    | .dateTime => (dateTime? v).map .dateTime
    | .string => (str? v).map .str
    | _ => none

end Literal

/-! ## Typed literals -/

/-- Why a text is no literal of a type. -/
inductive LiteralError where
  /-- Values of the type have no order. -/
  | nonComparable (code : TypeCode)
  /-- The text does not convert to the type. -/
  | invalid (code : TypeCode) (text : String)
deriving DecidableEq, Repr

def LiteralError.message : LiteralError → String
  | .nonComparable code =>
    "Type code '" ++ code.name ++ "' cannot be used for ordered comparison"
  | .invalid code text => "Cannot convert '" ++ text ++ "' to " ++ code.name

/-- A literal with the type that it was declared with. -/
structure TypedLiteral where
  code : TypeCode
  /-- The literal in the representation of the type. -/
  value : Literal
deriving DecidableEq

namespace TypedLiteral

def read (code : TypeCode) (text : String) : Except LiteralError TypedLiteral :=
  if code.isComparable then
    match Literal.convert? code (.str text) with
    | some value => .ok ⟨code, value⟩
    | none => .error (.invalid code text)
  else .error (.nonComparable code)

/-- The order of a value against the literal, if the value converts to the type of the literal. -/
def order? (l : TypedLiteral) (actual : Value) : Option Ordering :=
  (Literal.convert? l.code actual).bind fun found => found.order? l.value

end TypedLiteral

/-! ## Comparisons -/

/-- What an ordered comparison asks for. -/
inductive Comparison where
  | equal
  | lesser
  | lesserOrEqual
  | greater
  | greaterOrEqual
deriving DecidableEq, Repr

/-- Whether an order of the value against the literal is what is asked for. -/
def Comparison.admits : Comparison → Ordering → Bool
  | .equal, order => order == .eq
  | .lesser, order => order == .lt
  | .lesserOrEqual, order => order != .gt
  | .greater, order => order == .gt
  | .greaterOrEqual, order => order != .lt

end ErrorTriage
