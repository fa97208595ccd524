import ErrorTriage.Json.Basic
import ErrorTriage.Number.Shortest

/-!
# Json.Writer — writing a document

Two layouts of one document: `compact` on one line and `pretty` with two blanks of indentation per
level.  In texts the quote, the backslash and the control characters are escaped and all else is
written as it is.
-/

namespace ErrorTriage

def JsonNumber.text : JsonNumber → String
  | .int n => toString n
  | .float x => x.scientificText

namespace Json

def lowHexDigit (n : Nat) : Char :=
  Nat.digitChar (n % 16)

def escapedChar (c : Char) : List Char :=
  if c = '"' then ['\\', '"']
  else if c = '\\' then ['\\', '\\']
  else if c = '\n' then ['\\', 'n']
  else if c = '\r' then ['\\', 'r']
  else if c = '\t' then ['\\', 't']
  else if c.toNat = 8 then ['\\', 'b']
  else if c.toNat = 12 then ['\\', 'f']
  else if c.toNat < 0x20 then ['\\', 'u', '0', '0', lowHexDigit (c.toNat / 16), lowHexDigit c.toNat]
  else [c]

def textLiteral (s : String) : String :=
  String.ofList ('"' :: s.toList.flatMap escapedChar ++ ['"'])

mutual

def compact : Json → String
  | .null => "null"
  | .bool b => if b then "true" else "false"
  | .number n => n.text
  | .string s => textLiteral s
  | .array items => "[" ++ compactItems items ++ "]"
  | .object members => "\x7b" ++ compactMembers members ++ "\x7d"

def compactItems : List Json → String
  | [] => ""
  | [item] => compact item
  | item :: rest => compact item ++ "," ++ compactItems rest

def compactMembers : List (String × Json) → String
  | [] => ""
  | [(key, value)] => textLiteral key ++ ":" ++ compact value
  | (key, value) :: rest => textLiteral key ++ ":" ++ compact value ++ "," ++ compactMembers rest

end

def newline (level : Nat) : String :=
  "\n" ++ String.ofList (List.replicate (2 * level) ' ')

mutual

/-- A value over several lines, its own line being at a level. -/
def prettyAt (level : Nat) : Json → String
  | .null => "null"
  | .bool b => if b then "true" else "false"
  | .number n => n.text
  | .string s => textLiteral s
  | .array [] => "[]"
  | .array items => "[" ++ prettyItems (level + 1) items ++ newline level ++ "]"
  | .object [] => "\x7b\x7d"
  | .object members => "\x7b" ++ prettyMembers (level + 1) members ++ newline level ++ "\x7d"

def prettyItems (level : Nat) : List Json → String
  | [] => ""
  | [item] => newline level ++ prettyAt level item
  | item :: rest => newline level ++ prettyAt level item ++ "," ++ prettyItems level rest

def prettyMembers (level : Nat) : List (String × Json) → String
  | [] => ""
  | [(key, value)] => newline level ++ textLiteral key ++ ": " ++ prettyAt level value
  | (key, value) :: rest =>
    newline level ++ textLiteral key ++ ": " ++ prettyAt level value ++ ","
      ++ prettyMembers level rest

end

def pretty (j : Json) : String := prettyAt 0 j

end Json
end ErrorTriage
