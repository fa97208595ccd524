import ErrorTriage.Pattern.Tree

/-!
# Pattern.Meaning — what a pattern asks of a text

The meaning of a pattern has no switches left: every character is a set, every shorthand one of
its two readings, every condition names the text it looks at.  Switches hold from where they stand
to the end of the enclosing group, over the alternatives in it.

Sets that would split a character into its bytes have no meaning; patterns with them are refused.
So are patterns whose automaton would be too large, by an estimate of its size (`Meaning.cost`).
-/

namespace ErrorTriage
namespace Pattern

/-- What a pattern asks of a text. -/
inductive Meaning where
  | empty
  | chars (set : CharSet)
  /-- A condition on the place, with the characters of words. -/
  | look (isWord : Char → Bool) (l : Look)
  | sequence (first second : Meaning)
  | choice (first second : Meaning)
  | repetition (least : Nat) (most : Option Nat) (body : Meaning)

namespace Meaning

/-- Whether no character is ever taken. -/
def takesNothing : Meaning → Bool
  | .empty => true
  | .chars _ => false
  | .look _ _ => true
  | .sequence first second => first.takesNothing && second.takesNothing
  | .choice first second => first.takesNothing && second.takesNothing
  | .repetition _ most body => most == some 0 || body.takesNothing

/-- A repetition; of what takes nothing, one is as good as many. -/
def repeated (least : Nat) (most : Option Nat) (body : Meaning) : Meaning :=
  let few := body.takesNothing
  let least := if few then min least 1 else least
  let most := if few then some (min (most.getD 1) 1) else most
  if most = some 0 then .empty
  else if least = 1 ∧ most = some 1 then body
  else .repetition least most body

/-- An estimate of the bytes that an automaton for the pattern takes.  The automaton itself is not
built, so nothing counts the bytes exactly. -/
def cost : Meaning → Nat
  | .empty => 24
  | .chars set => set.cost
  | .look _ _ => 32
  | .sequence first second => first.cost + second.cost
  | .choice first second => first.cost + second.cost + 40
  -- An endless repetition loops over its last copy.
  | .repetition least most body => (most.getD (max least 1)) * (body.cost + 40)

/-- The greatest cost of a pattern: a limit of ten mebibytes, held against the estimate.  A pattern
near the limit may be judged otherwise than by the exact size of its automaton. -/
def maxCost : Nat := 10 * Nat.pow 2 20

end Meaning

/-! ## Switches -/

/-- The switches that hold at a place and bear on the meaning. -/
structure Mode where
  insensitive : Bool
  /-- Lines have starts and ends. -/
  multiLine : Bool := false
  /-- The point matches a line feed. -/
  dotAll : Bool := false
  /-- Classes are those of all scripts. -/
  unicode : Bool := true
  /-- Lines may end in a carriage return. -/
  returns : Bool := false
deriving DecidableEq, Repr

def Mode.set (mode : Mode) (s : Setting) : Mode :=
  match s.switch with
  | .insensitive => { mode with insensitive := s.on }
  | .multiLine => { mode with multiLine := s.on }
  | .dotAll => { mode with dotAll := s.on }
  | .unicode => { mode with unicode := s.on }
  | .returns => { mode with returns := s.on }
  | .swapGreed => mode
  | .verbose => mode

def Mode.setAll (mode : Mode) (settings : List Setting) : Mode :=
  settings.foldl Mode.set mode

/-! ## Sets -/

namespace Mode

/-- A set with the other cases of its members, if case does not count. -/
def fold (mode : Mode) (set : CharSet) : CharSet :=
  if mode.insensitive then (if mode.unicode then set.folded else set.asciiFolded) else set

/-- A set or its complement; bytes have no complement among the characters. -/
def negate? (mode : Mode) (negated : Bool) (set : CharSet) : Option CharSet :=
  if negated then (if mode.unicode then some set.compl else none) else some set

/-- A character; outside of ASCII it may not be given as a byte. -/
def char? (mode : Mode) (l : Literal) : Option Char :=
  if l.byte ∧ ¬ mode.unicode ∧ 127 < l.char.toNat then none else some l.char

def shorthand? (mode : Mode) (negated : Bool) (kind : CharSet.Shorthand) : Option CharSet :=
  mode.negate? negated (CharSet.ofShorthand mode.unicode kind)

def property? (mode : Mode) (negated : Bool) (query : Query) : Option CharSet :=
  let set? := match query with
    | .name name => CharSet.named? name
    | .value name value => CharSet.valued? name value
  -- A property reaches beyond ASCII, so it needs the classes of all scripts.
  if mode.unicode then set?.bind fun set => mode.negate? negated (mode.fold set) else none

/-- The end of a range, which is an ASCII character where sets hold bytes. -/
def bound? (mode : Mode) (l : Literal) : Option Char :=
  (mode.char? l).bind fun c => if mode.unicode ∨ c.toNat < 128 then some c else none

/-- Applies an operation between sets; case is settled on both sides before it. -/
def combine (mode : Mode) (operator : SetOperator) (left right : CharSet) : CharSet :=
  let left := mode.fold left
  let right := mode.fold right
  match operator with
  | .inter => left.inter right
  | .diff => left.diff right
  | .symmDiff => left.symmDiff right

mutual

/-- The set that stands in brackets. -/
def set? (mode : Mode) : SetTree → Option CharSet
  | .range low high => do return .range (← mode.bound? low) (← mode.bound? high)
  | .ascii negated name => do mode.negate? negated (mode.fold (← CharSet.asciiClass? name))
  | .shorthand negated kind => mode.shorthand? negated kind
  | .property negated query => mode.property? negated query
  | .bracket negated body => do mode.negate? negated (mode.fold (← set? mode body))
  | .union items => unionOf? mode items
  | .binary operator left right => do
    return mode.combine operator (← set? mode left) (← set? mode right)

def unionOf? (mode : Mode) : List SetTree → Option CharSet
  | [] => some .nothing
  | item :: rest => do return (← set? mode item).union (← unionOf? mode rest)

end

/-- The set of the point. -/
def dot? (mode : Mode) : Option CharSet :=
  if mode.unicode then
    some (if mode.dotAll then .any
      else if mode.returns then (CharSet.single '\r' |>.union (.single '\n')).compl
      else (CharSet.single '\n').compl)
  else none

def caret (mode : Mode) : Look :=
  if mode.multiLine then (if mode.returns then .returnLineStart else .lineStart) else .start

def dollar (mode : Mode) : Look :=
  if mode.multiLine then (if mode.returns then .returnLineStop else .lineStop) else .stop

def isWord (mode : Mode) : Char → Bool :=
  if mode.unicode then CharSet.isWord else CharSet.isAsciiWord

end Mode

/-! ## Patterns -/

mutual

/-- The meaning of a pattern under switches, with the switches that hold after it. -/
def meaning? (mode : Mode) : Tree → Option (Meaning × Mode)
  | .empty => some (.empty, mode)
  | .settings settings => some (.empty, mode.setAll settings)
  | .literal l => (mode.char? l).map fun c => (.chars (mode.fold (.single c)), mode)
  | .dot => mode.dot?.map fun set => (.chars set, mode)
  | .caret => some (.look mode.isWord mode.caret, mode)
  | .dollar => some (.look mode.isWord mode.dollar, mode)
  | .look l => some (.look mode.isWord l, mode)
  | .shorthand negated kind => (mode.shorthand? negated kind).map fun set => (.chars set, mode)
  | .property negated query => (mode.property? negated query).map fun set => (.chars set, mode)
  | .bracket negated body =>
    (mode.set? (.bracket negated body)).map fun set => (.chars set, mode)
  | .repetition least most body =>
    (meaning? mode body).map fun (m, after) => (m.repeated least most, after)
  -- The switches of a group end with it; all others reach on.
  | .group settings body => (meaning? (mode.setAll settings) body).map fun (m, _) => (m, mode)
  | .alternatives branches => choiceOf? mode branches
  | .sequence items => sequenceOf? mode items

def sequenceOf? (mode : Mode) : List Tree → Option (Meaning × Mode)
  | [] => some (.empty, mode)
  | item :: rest => do
    let (first, mode) ← meaning? mode item
    let (second, mode) ← sequenceOf? mode rest
    return (.sequence first second, mode)

def choiceOf? (mode : Mode) : List Tree → Option (Meaning × Mode)
  | [] => some (.chars .nothing, mode)
  | branch :: rest => do
    let (first, mode) ← meaning? mode branch
    -- A switch in one branch holds in the branches after it.
    let (second, mode) ← choiceOf? mode rest
    return (.choice first second, mode)

end

end Pattern
end ErrorTriage
