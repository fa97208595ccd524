import ErrorTriage.Pattern.CharSet

/-!
# Pattern.Tree — a pattern as it is written

The tree keeps what the notation says and decides nothing: switches stand where they were written,
a shorthand is not yet a set.  `depth` counts how deep groups, repetitions, sequences, alternatives
and brackets nest.
-/

namespace ErrorTriage
namespace Pattern

/-- Conditions on a place between two characters. -/
inductive Look where
  | start
  | stop
  | lineStart
  | lineStop
  /-- The start of a line that may end in a carriage return. -/
  | returnLineStart
  /-- The end of a line that may end in a carriage return. -/
  | returnLineStop
  | wordEdge
  | noWordEdge
  | wordStart
  | wordStop
  /-- No character of a word stands before. -/
  | wordStartHalf
  /-- No character of a word stands after. -/
  | wordStopHalf
deriving DecidableEq, Repr

inductive Switch where
  | insensitive
  /-- Lines have starts and ends. -/
  | multiLine
  /-- The point matches a line feed. -/
  | dotAll
  /-- Greediness is exchanged. -/
  | swapGreed
  /-- Classes are those of all scripts. -/
  | unicode
  /-- Lines may end in a carriage return. -/
  | returns
  /-- Blanks and comments in the pattern do not count. -/
  | verbose
deriving DecidableEq, Repr

/-- A switch that is turned on or off. -/
structure Setting where
  switch : Switch
  on : Bool
deriving DecidableEq, Repr

/-- A character as it is written; one given by two hexadecimal digits may stand for a byte. -/
structure Literal where
  char : Char
  /-- Whether it was given as two hexadecimal digits. -/
  byte : Bool := false
deriving DecidableEq, Repr

/-- The name of a property, with or without a value. -/
inductive Query where
  | name (name : List Char)
  | value (name value : List Char)
deriving DecidableEq, Repr

inductive SetOperator where
  | inter
  /-- Members of the first alone. -/
  | diff
  | symmDiff
deriving DecidableEq, Repr

/-- What stands in brackets. -/
inductive SetTree where
  /-- A range; a single character is a range from itself to itself. -/
  | range (low high : Literal)
  | ascii (negated : Bool) (name : String)
  | shorthand (negated : Bool) (kind : CharSet.Shorthand)
  | property (negated : Bool) (query : Query)
  | bracket (negated : Bool) (body : SetTree)
  | union (items : List SetTree)
  | binary (operator : SetOperator) (left right : SetTree)

inductive Tree where
  | empty
  /-- Switches for what follows in the same group. -/
  | settings (settings : List Setting)
  | literal (l : Literal)
  | dot
  | caret
  | dollar
  /-- A condition on the place. -/
  | look (l : Look)
  | shorthand (negated : Bool) (kind : CharSet.Shorthand)
  | property (negated : Bool) (query : Query)
  | bracket (negated : Bool) (body : SetTree)
  /-- A repetition; without an upper bound it has no end. -/
  | repetition (least : Nat) (most : Option Nat) (body : Tree)
  /-- A group with switches for what is inside. -/
  | group (settings : List Setting) (body : Tree)
  | alternatives (branches : List Tree)
  | sequence (items : List Tree)

mutual

def SetTree.depth : SetTree → Nat
  | .bracket _ body => body.depth + 1
  | .union items => SetTree.depthAll items + 1
  | .binary _ left right => max left.depth right.depth + 1
  | _ => 0

def SetTree.depthAll : List SetTree → Nat
  | [] => 0
  | item :: rest => max item.depth (SetTree.depthAll rest)

end

mutual

def Tree.depth : Tree → Nat
  | .bracket _ body => body.depth + 1
  | .repetition _ _ body => body.depth + 1
  | .group _ body => body.depth + 1
  | .alternatives branches => Tree.depthAll branches + 1
  | .sequence items => Tree.depthAll items + 1
  | _ => 0

def Tree.depthAll : List Tree → Nat
  | [] => 0
  | item :: rest => max item.depth (Tree.depthAll rest)

end

end Pattern
end ErrorTriage
