/-!
# Blank — white space, trimming and words

White space is the Unicode property of that name, not the ASCII blanks alone.  The functions work
on lists of characters; `trim` is their form for strings.
-/

namespace ErrorTriage
namespace Text

/-- The 25 code points with the property White_Space. -/
def isBlank (c : Char) : Bool :=
  let n := c.toNat
  (9 ≤ n && n ≤ 13) || n == 0x20 || n == 0x85 || n == 0xA0 || n == 0x1680
    || (0x2000 ≤ n && n ≤ 0x200A) || n == 0x2028 || n == 0x2029 || n == 0x202F
    || n == 0x205F || n == 0x3000

def trimFront (cs : List Char) : List Char :=
  cs.dropWhile isBlank

def trimBack (cs : List Char) : List Char :=
  (cs.reverse.dropWhile isBlank).reverse

def trimList (cs : List Char) : List Char :=
  trimBack (trimFront cs)

/-- Drops the blanks at both ends of a string. -/
def trim (s : String) : String :=
  String.ofList (trimList s.toList)

def isBlankText (s : String) : Bool :=
  s.toList.all isBlank

/-- What stands before and after the first blank, which belongs to neither part. -/
def splitAtBlank : List Char → Option (List Char × List Char)
  | [] => none
  | c :: rest =>
    if isBlank c then some ([], rest)
    else (splitAtBlank rest).map fun parts => (c :: parts.1, parts.2)

/-- The pieces between the occurrences of a separator: one more than there are separators. -/
def splitAt (separator : Char) : List Char → List (List Char)
  | [] => [[]]
  | c :: rest =>
    match splitAt separator rest with
    | [] => [[c]]
    | piece :: pieces =>
      if c = separator then [] :: piece :: pieces else (c :: piece) :: pieces

/-- Equality up to the case of ASCII letters. -/
def sameIgnoringAsciiCase (a b : String) : Bool :=
  a.toList.map Char.toLower == b.toList.map Char.toLower

/-- Whether the first list of characters stands somewhere in the second one. -/
def occursIn (needle : List Char) : List Char → Bool
  | [] => needle.isEmpty
  | c :: rest => needle.isPrefixOf (c :: rest) || occursIn needle rest

/-- The first line, without the line feed that ends it and a carriage return before that. -/
def firstLine (s : String) : String :=
  let line := s.toList.takeWhile (· ≠ '\n')
  if line.length < s.length ∧ line.getLast? = some '\r' then String.ofList line.dropLast
  else String.ofList line

/-! ## Small laws -/

/-- A text cannot be split exactly if it has no blank. -/
theorem splitAtBlank_eq_none {cs : List Char} :
    splitAtBlank cs = none ↔ cs.any isBlank = false := by
  induction cs with
  | nil => simp [splitAtBlank]
  | cons c rest ih =>
    by_cases h : isBlank c = true
    · simp [splitAtBlank, h]
    · simp [splitAtBlank, h, ih]

/-- There is always one piece, even of the empty text. -/
theorem splitAt_ne_nil (separator : Char) (cs : List Char) : splitAt separator cs ≠ [] := by
  cases cs with
  | nil => simp [splitAt]
  | cons c rest =>
    simp only [splitAt]
    split
    · simp
    · split <;> simp

end Text
end ErrorTriage
