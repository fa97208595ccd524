import ErrorTriage.Text.Blank

/-!
# Literal.TypeCode — the types that a literal may be declared with

Three of the codes name no type whose values have an order.  Eight name whole numbers of a fixed
range.
-/

namespace ErrorTriage

inductive TypeCode where
  | empty
  | object
  | dbNull
  | boolean
  | char
  | sbyte
  | byte
  | int16
  | uint16
  | int32
  | uint32
  | int64
  | uint64
  | single
  | double
  | decimal
  | dateTime
  | string
deriving DecidableEq, Repr

namespace TypeCode

def all : List TypeCode :=
  [.empty, .object, .dbNull, .boolean, .char, .sbyte, .byte, .int16, .uint16, .int32, .uint32,
    .int64, .uint64, .single, .double, .decimal, .dateTime, .string]

def name : TypeCode → String
  | .empty => "Empty"
  | .object => "Object"
  | .dbNull => "DBNull"
  | .boolean => "Boolean"
  | .char => "Char"
  | .sbyte => "SByte"
  | .byte => "Byte"
  | .int16 => "Int16"
  | .uint16 => "UInt16"
  | .int32 => "Int32"
  | .uint32 => "UInt32"
  | .int64 => "Int64"
  | .uint64 => "UInt64"
  | .single => "Single"
  | .double => "Double"
  | .decimal => "Decimal"
  | .dateTime => "DateTime"
  | .string => "String"

def isComparable : TypeCode → Bool
  | .empty => false
  | .object => false
  | .dbNull => false
  | _ => true

/-- The least and the greatest number of a type of whole numbers. -/
def range? : TypeCode → Option (Int × Int)
  | .sbyte => some (-128, 127)
  | .byte => some (0, 255)
  | .int16 => some (-32768, 32767)
  | .uint16 => some (0, 65535)
  | .int32 => some (-2147483648, 2147483647)
  | .uint32 => some (0, 4294967295)
  | .int64 => some (-9223372036854775808, 9223372036854775807)
  | .uint64 => some (0, 18446744073709551615)
  | _ => none

/-- Reads a code; blanks around it and the case of its letters do not count. -/
def ofText? (text : String) : Option TypeCode :=
  all.find? fun code => Text.sameIgnoringAsciiCase code.name (Text.trim text)

/-- What is said about a text that is no code. -/
def unknownMessage (text : String) : String :=
  "Unknown type code '" ++ Text.trim text ++ "'"

end TypeCode
end ErrorTriage
