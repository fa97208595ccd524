import ErrorTriage.Text.Category
import ErrorTriage.Text.Property

/-!
# Quoted — a text in double quotes with all that is not plainly visible escaped

The quote and the backslash are escaped by a backslash, the usual control characters by a letter,
and by their code point in braces: marks that would merge with the character before them, and all
characters that are unassigned, private, invisible or a separator other than the blank.
-/

namespace ErrorTriage
namespace Text

def hexText (n : Nat) : String :=
  String.ofList (Nat.toDigits 16 n)

def isVisible (c : Char) : Bool :=
  if c.toNat < 128 then 0x20 ≤ c.toNat && c.toNat < 0x7F
  else
    !(["Cc", "Cf", "Cs", "Co", "Cn", "Zl", "Zp", "Zs"].contains (category c))
      && !Property.graphemeExtend.contains c.toNat

def quotedChar (c : Char) : String :=
  if c = '"' then "\\\""
  else if c = '\\' then "\\\\"
  else if c = '\n' then "\\n"
  else if c = '\r' then "\\r"
  else if c = '\t' then "\\t"
  else if c.toNat = 0 then "\\0"
  else if isVisible c then c.toString
  else "\\u\x7b" ++ hexText c.toNat ++ "\x7d"

def quoted (s : String) : String :=
  "\"" ++ String.join (s.toList.map quotedChar) ++ "\""

end Text
end ErrorTriage
