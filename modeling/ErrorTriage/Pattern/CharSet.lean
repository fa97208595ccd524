import ErrorTriage.Text.Blank
import ErrorTriage.Text.Category
import ErrorTriage.Text.Property
import ErrorTriage.Text.Script
import ErrorTriage.Text.Folding
import ErrorTriage.Text.Letter

/-!
# Pattern.CharSet — sets of characters

A set is its membership test together with an estimate of the memory that an automaton for it
takes, by which over-large patterns are refused.  The sets are closed under the operations of the
bracket notation; `folded` adds all case variants of the members.
-/

namespace ErrorTriage

structure CharSet where
  contains : Char → Bool
  /-- An estimate of the bytes that an automaton for the set takes, not a count of them. -/
  cost : Nat

namespace CharSet

def nothing : CharSet := ⟨fun _ => false, 32⟩

/-- The characters from one to another, both included. -/
def range (low high : Char) : CharSet :=
  ⟨fun c => low ≤ c && c ≤ high, if high.toNat < 128 then 40 else 200⟩

def single (c : Char) : CharSet := range c c

def union (a b : CharSet) : CharSet :=
  ⟨fun c => a.contains c || b.contains c, a.cost + b.cost⟩

def inter (a b : CharSet) : CharSet :=
  ⟨fun c => a.contains c && b.contains c, min a.cost b.cost⟩

def compl (a : CharSet) : CharSet :=
  ⟨fun c => !a.contains c, a.cost + 900⟩

/-- The members of the first set alone. -/
def diff (a b : CharSet) : CharSet := a.inter b.compl

/-- The members of exactly one of the sets. -/
def symmDiff (a b : CharSet) : CharSet :=
  ⟨fun c => a.contains c != b.contains c, a.cost + b.cost⟩

/-- The members and all their case variants. -/
def folded (a : CharSet) : CharSet :=
  ⟨fun c => a.contains c || (Text.caseVariants c.toNat).any fun n => a.contains (Char.ofNat n),
    a.cost * 3 / 2⟩

/-- The members and the other case of the ASCII letters among them. -/
def asciiFolded (a : CharSet) : CharSet :=
  ⟨fun c => a.contains c || a.contains c.toLower || a.contains c.toUpper, a.cost⟩

def any : CharSet := ⟨fun _ => true, 900⟩

/-- A set given by a table. -/
def ofTable (table : Text.RangeTable) : CharSet :=
  ⟨fun c => table.contains c.toNat, 60 * table.ranges.size⟩

/-! ## Digits, blanks and word characters -/

/-- The classes that have a letter of their own. -/
inductive Shorthand where
  | digit
  | space
  | word
deriving DecidableEq, Repr

/-- Characters of words in every script: letters, marks, digits, connectors and joiners. -/
def isWord (c : Char) : Bool :=
  if c.toNat < 128 then c.isAlphanum || c == '_'
  else
    Text.isAlphabetic c || Text.inGroup "M" c || ["Nd", "Pc"].contains (Text.category c)
      || Text.Property.joinControl.contains c.toNat

/-- ASCII letters, digits and the underscore. -/
def isAsciiWord (c : Char) : Bool :=
  c.isAlphanum || c == '_'

def isAsciiSpace (c : Char) : Bool :=
  (9 ≤ c.toNat && c.toNat ≤ 13) || c == ' '

/-- The set of a shorthand, in every script or in ASCII alone. -/
def ofShorthand (unicode : Bool) : Shorthand → CharSet
  | .digit =>
    if unicode then
      ⟨fun c => if c.toNat < 128 then c.isDigit else Text.category c == "Nd", 4000⟩
    else ⟨Char.isDigit, 40⟩
  | .space => if unicode then ⟨Text.isBlank, 700⟩ else ⟨isAsciiSpace, 48⟩
  | .word => if unicode then ⟨isWord, 45000⟩ else ⟨isAsciiWord, 64⟩

/-! ## Named ASCII classes -/

/-- The sets that are named inside of brackets. -/
def asciiClass? (name : String) : Option CharSet :=
  let set := fun (test : Char → Bool) => some ⟨fun c => c.toNat < 128 && test c, 64⟩
  match name with
  | "alnum" => set Char.isAlphanum
  | "alpha" => set Char.isAlpha
  | "ascii" => set fun _ => true
  | "blank" => set fun c => c == ' ' || c == '\t'
  | "cntrl" => set fun c => c.toNat < 0x20 || c.toNat == 0x7F
  | "digit" => set Char.isDigit
  | "graph" => set fun c => 0x21 ≤ c.toNat && c.toNat ≤ 0x7E
  | "lower" => set Char.isLower
  | "print" => set fun c => 0x20 ≤ c.toNat && c.toNat ≤ 0x7E
  | "punct" => set fun c => 0x21 ≤ c.toNat && c.toNat ≤ 0x7E && !c.isAlphanum
  | "space" => set isAsciiSpace
  | "upper" => set Char.isUpper
  | "word" => set isAsciiWord
  | "xdigit" => set fun c => (Text.hexDigit? c).isSome
  | _ => none

/-! ## Properties by name -/

/-- A name in loose form: ASCII lower case, without blanks, hyphens, underscores and a leading
`is`. -/
def looseName (name : List Char) : String :=
  let lower := fun cs : List Char =>
    (cs.filter fun c => c.toNat < 128 && c != ' ' && c != '_' && c != '-').map Char.toLower
  match name with
  | a :: b :: rest =>
    if a.toLower = 'i' ∧ b.toLower = 's' then
      let kept := lower rest
      -- The leading `is` is dropped, but `isc` must not become the abbreviation `c`.
      if kept = ['c'] then "isc" else String.ofList kept
    else String.ofList (lower name)
  | _ => String.ofList (lower name)

def ofCategory? (loose : String) : Option CharSet :=
  match loose with
  | "any" => some any
  | "ascii" => some (range '\x00' '\x7f')
  | "assigned" => some ⟨fun c => Text.category c != "Cn", 40000⟩
  | _ =>
    (Text.categoryNames.find? fun row => row.2.contains loose).map fun row =>
      ⟨Text.isCategory row.1, 30000⟩

def ofScript? (loose : String) : Option CharSet :=
  (Text.Script.named? loose).map fun script => ⟨Text.Script.isScript script, 2000⟩

/-- The set of a property named alone: a property, a category or a script, in this order, save for
three abbreviations that always mean a category. -/
def named? (name : List Char) : Option CharSet :=
  let loose := looseName name
  let property :=
    if ["cf", "sc", "lc"].contains loose then none
    else (Text.Property.named? loose).map ofTable
  property.or ((ofCategory? loose).or (ofScript? loose))

/-- The set of the characters that have a value of a property. -/
def valued? (name value : List Char) : Option CharSet :=
  let value := looseName value
  match looseName name with
  | "generalcategory" => ofCategory? value
  | "gc" => ofCategory? value
  | "script" => ofScript? value
  | "sc" => ofScript? value
  | "scriptextensions" =>
    (Text.Script.named? value).map fun script => ⟨Text.Script.isUsedIn script, 2000⟩
  | "scx" => (Text.Script.named? value).map fun script => ⟨Text.Script.isUsedIn script, 2000⟩
  | _ => none

end CharSet
end ErrorTriage
