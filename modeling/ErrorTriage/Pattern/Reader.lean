import ErrorTriage.Number.Integer
import ErrorTriage.Pattern.Tree

/-!
# Pattern.Reader — reading the notation of patterns

A reader takes a part from the front of the text and answers what it read with the rest.  With the
verbose switch on, blanks and comments between the parts are passed over.  There is one kind of
failure: a text either is a pattern or is not.
-/

namespace ErrorTriage
namespace Pattern

/-- Passes over blanks and comments, from inside a comment or not. -/
def skipVerbose : Bool → List Char → List Char
  | _, [] => []
  | true, c :: rest => skipVerbose (c != '\n') rest
  | false, c :: rest =>
    if Text.isBlank c then skipVerbose false rest
    else if c = '#' then skipVerbose true rest
    else c :: rest

/-- Passes over blanks and comments where they do not count. -/
def skip (verbose : Bool) (cs : List Char) : List Char :=
  if verbose then skipVerbose false cs else cs

/-- The characters that have a meaning of their own somewhere in a pattern. -/
def isMeta (c : Char) : Bool :=
  ['\\', '.', '+', '*', '?', '(', ')', '|', '[', ']', '\x7b', '\x7d', '^', '$', '#', '&', '-',
    '~'].contains c

/-- The characters that a backslash turns into themselves. -/
def isEscapable (c : Char) : Bool :=
  -- The two left out are the edges of a word, see `readEscape`.
  isMeta c || (c.toNat < 128 && !c.isAlphanum && c != '<' && c != '>')

/-! ## Escapes -/

def hexChar? (digits : List Char) : Option Char :=
  let n := Text.hexNat digits
  if digits.isEmpty then none
  else if h : n.isValidChar then some (Char.ofNatAux n h) else none

def takeHex (verbose : Bool) : Nat → List Char → List Char → Option (List Char × List Char)
  | 0, done, cs => some (done.reverse, cs)
  | _ + 1, _, [] => none
  | n + 1, done, c :: rest =>
    if (Text.hexDigit? c).isSome then takeHex verbose n (c :: done) (skip verbose rest) else none

def takeHexBraced (verbose : Bool) : Nat → List Char → List Char → Option (List Char × List Char)
  | 0, _, _ => none
  | _ + 1, _, [] => none
  | fuel + 1, done, c :: rest =>
    if c = '\x7d' then some (done.reverse, skip verbose rest)
    else if (Text.hexDigit? c).isSome then
      takeHexBraced verbose fuel (c :: done) (skip verbose rest)
    else none

/-- A character given by its number: after `x`, `u` or `U`. -/
def readHex (verbose : Bool) (kind : Char) (cs : List Char) : Option (Literal × List Char) :=
  match skip verbose cs with
  | '\x7b' :: rest => do
    let (digits, rest) ← takeHexBraced verbose (rest.length + 1) [] (skip verbose rest)
    return (⟨← hexChar? digits, false⟩, rest)
  | cs => do
    let count := if kind = 'x' then 2 else if kind = 'u' then 4 else 8
    let (digits, rest) ← takeHex verbose count [] cs
    return (⟨← hexChar? digits, kind = 'x'⟩, rest)

def takeBraced (verbose : Bool) : Nat → List Char → List Char → Option (List Char × List Char)
  | 0, _, _ => none
  | _ + 1, _, [] => none
  | fuel + 1, done, c :: rest =>
    if c = '\x7d' then some (done.reverse, rest)
    else takeBraced verbose fuel (c :: done) (skip verbose rest)

/-- What stands before and after the first occurrence of a text. -/
def splitAtText (text : List Char) : List Char → Option (List Char × List Char)
  | [] => none
  | c :: rest =>
    if text.isPrefixOf (c :: rest) then some ([], (c :: rest).drop text.length)
    else (splitAtText text rest).map fun parts => (c :: parts.1, parts.2)

/-- A property: one letter, or a name or a name with a value in braces.  `!=` negates once more. -/
def readProperty (verbose negated : Bool) (cs : List Char) :
    Option ((Bool × Query) × List Char) :=
  match skip verbose cs with
  | [] => none
  | '\\' :: _ => none
  | '\x7b' :: rest => do
    let (name, rest) ← takeBraced verbose (rest.length + 1) [] (skip verbose rest)
    match splitAtText ['!', '='] name with
    | some (name, value) => return ((!negated, .value name value), rest)
    | none =>
      match (splitAtText [':'] name).or (splitAtText ['='] name) with
      | some (name, value) => return ((negated, .value name value), rest)
      | none => return ((negated, .name name), rest)
  | c :: rest => some ((negated, .name [c]), skip verbose rest)

/-- Takes the letters and hyphens of a word edge, up to its closing brace. -/
def takeEdgeName (verbose : Bool) : Nat → List Char → List Char → Option (List Char × List Char)
  | 0, _, _ => none
  | _ + 1, _, [] => none
  | fuel + 1, done, c :: rest =>
    if c = '\x7d' then some (done.reverse, rest)
    else if c.isAlpha ∨ c = '-' then takeEdgeName verbose fuel (c :: done) (skip verbose rest)
    else none

/-- The edge of a word, which may be named in braces; braces that hold no name are left. -/
def readEdge (verbose : Bool) (cs : List Char) : Option (Look × List Char) :=
  match cs with
  | '\x7b' :: rest =>
    match skip verbose rest with
    | [] => none
    | c :: tail =>
      if c.isAlpha ∨ c = '-' then do
        let (name, rest) ← takeEdgeName verbose (tail.length + 2) [] (c :: tail)
        match String.ofList name with
        | "start" => return (.wordStart, rest)
        | "end" => return (.wordStop, rest)
        | "start-half" => return (.wordStartHalf, rest)
        | "end-half" => return (.wordStopHalf, rest)
        | _ => none
      else some (.wordEdge, cs)
  | _ => some (.wordEdge, cs)

/-- What an escape stands for, from the character after the backslash on. -/
def readEscape (verbose : Bool) : List Char → Option (Tree × List Char)
  | [] => none
  | c :: rest =>
    -- There are no references back to a group.
    if c.isDigit then none
    else if c = 'x' ∨ c = 'u' ∨ c = 'U' then
      (readHex verbose c rest).map fun (l, tail) => (.literal l, tail)
    else if c = 'p' ∨ c = 'P' then
      (readProperty verbose (c = 'P') rest).map fun (q, tail) => (.property q.1 q.2, tail)
    -- Marks stand for themselves; letters and the two word edges come after.
    else if isEscapable c then some (.literal ⟨c, false⟩, rest)
    else
      match c with
      | 'd' => some (.shorthand false .digit, rest)
      | 'D' => some (.shorthand true .digit, rest)
      | 's' => some (.shorthand false .space, rest)
      | 'S' => some (.shorthand true .space, rest)
      | 'w' => some (.shorthand false .word, rest)
      | 'W' => some (.shorthand true .word, rest)
      | 'a' => some (.literal ⟨'\x07', false⟩, rest)
      | 'f' => some (.literal ⟨'\x0c', false⟩, rest)
      | 't' => some (.literal ⟨'\t', false⟩, rest)
      | 'n' => some (.literal ⟨'\n', false⟩, rest)
      | 'r' => some (.literal ⟨'\r', false⟩, rest)
      | 'v' => some (.literal ⟨'\x0b', false⟩, rest)
      | 'A' => some (.look .start, rest)
      | 'z' => some (.look .stop, rest)
      | 'B' => some (.look .noWordEdge, rest)
      | '<' => some (.look .wordStart, rest)
      | '>' => some (.look .wordStop, rest)
      | 'b' => (readEdge verbose rest).map fun (l, tail) => (.look l, tail)
      | _ => none

/-! ## Brackets -/

/-- One item of a set as a tree: a character, a shorthand or a property. -/
def readSetItem (verbose : Bool) : List Char → Option (Tree × List Char)
  | [] => none
  | '\\' :: rest => readEscape verbose rest
  | c :: rest => some (.literal ⟨c, false⟩, rest)

/-- What an item means inside of brackets; conditions have no place there. -/
def setItem? : Tree → Option SetTree
  | .literal l => some (.range l l)
  | .shorthand negated kind => some (.shorthand negated kind)
  | .property negated query => some (.property negated query)
  | _ => none

/-- The character of an item that bounds a range. -/
def boundary? : Tree → Option Literal
  | .literal l => some l
  | _ => none

/-- A range, or one item if no range follows from it. -/
def readRange (verbose : Bool) (cs : List Char) : Option (SetTree × List Char) := do
  let (first, rest) ← readSetItem verbose cs
  let rest := skip verbose rest
  match rest with
  | [] => none
  -- A hyphen bounds no range if brackets end or another hyphen follows.
  | '-' :: tail =>
    match skip verbose tail with
    | ']' :: _ => return (← setItem? first, rest)
    | '-' :: _ => return (← setItem? first, rest)
    | [] => none
    | tail => do
      let (last, rest) ← readSetItem verbose tail
      let low ← boundary? first
      let high ← boundary? last
      if low.char ≤ high.char then return (.range low high, rest) else none
  | _ => return (← setItem? first, rest)

/-- A named class like `[:alpha:]`, if the text is one. -/
def readNamedClass : List Char → Option (SetTree × List Char)
  | '[' :: ':' :: rest =>
    let (negated, rest) :=
      match rest with
      | '^' :: tail => (true, tail)
      | _ => (false, rest)
    let name := String.ofList (rest.takeWhile (· ≠ ':'))
    match rest.dropWhile (· ≠ ':') with
    | ':' :: ']' :: tail =>
      if (CharSet.asciiClass? name).isSome then some (.ascii negated name, tail) else none
    | _ => none
  | _ => none

/-- The hyphens at the start of brackets, as items in reverse. -/
def takeHyphens (verbose : Bool) : Nat → List SetTree → List Char → List SetTree × List Char
  | 0, done, cs => (done, cs)
  | fuel + 1, done, cs =>
    match cs with
    | '-' :: rest => takeHyphens verbose fuel (.range ⟨'-', false⟩ ⟨'-', false⟩ :: done)
        (skip verbose rest)
    | _ => (done, cs)

/-- What follows an opening bracket: a negation, hyphens and a first closing bracket that stand for
themselves. -/
def readOpening (verbose : Bool) (cs : List Char) : Bool × List SetTree × List Char :=
  let cs := skip verbose cs
  let (negated, cs) :=
    match cs with
    | '^' :: rest => (true, skip verbose rest)
    | _ => (false, cs)
  let (done, cs) := takeHyphens verbose cs.length [] cs
  match done, cs with
  -- Only here does a closing bracket stand for itself.
  | [], ']' :: rest => (negated, [.range ⟨']', false⟩ ⟨']', false⟩], skip verbose rest)
  | _, _ => (negated, done, cs)

/-- The items of a set, last first, as one set. -/
def unionOf (done : List SetTree) : SetTree :=
  match done with
  | [item] => item
  | _ => .union done.reverse

/-- The set left of an operator and the items after it. -/
def combine (left : Option (SetTree × SetOperator)) (done : List SetTree) : SetTree :=
  match left with
  | some (set, operator) => .binary operator set (unionOf done)
  | none => unionOf done

/-- Takes the contents of brackets up to the closing one. -/
def readSet (verbose : Bool) : Nat → Option (SetTree × SetOperator) → List SetTree → List Char →
    Option (SetTree × List Char)
  | 0, _, _, _ => none
  | fuel + 1, left, done, cs =>
    match skip verbose cs with
    | [] => none
    | '[' :: rest =>
      -- What only looks like a named class opens brackets of its own.
      match readNamedClass ('[' :: rest) with
      | some (named, tail) => readSet verbose fuel left (named :: done) tail
      | none =>
        let (negated, first, tail) := readOpening verbose rest
        match readSet verbose fuel none first tail with
        | some (body, tail) => readSet verbose fuel left (.bracket negated body :: done) tail
        | none => none
    | ']' :: rest => some (combine left done, rest)
    | '&' :: '&' :: rest => readSet verbose fuel (some (combine left done, .inter)) [] rest
    | '-' :: '-' :: rest => readSet verbose fuel (some (combine left done, .diff)) [] rest
    | '~' :: '~' :: rest => readSet verbose fuel (some (combine left done, .symmDiff)) [] rest
    | cs =>
      match readRange verbose cs with
      | some (item, rest) => readSet verbose fuel left (item :: done) rest
      | none => none

/-! ## Repetitions -/

/-- A decimal number with blanks allowed around it. -/
def readCount (verbose : Bool) (cs : List Char) : Option (Nat × List Char) :=
  let rec digits : Nat → List Char → List Char → List Char × List Char
    | 0, done, cs => (done.reverse, cs)
    | fuel + 1, done, cs =>
      match cs with
      | c :: rest =>
        if c.isDigit then digits fuel (c :: done) (skip verbose rest) else (done.reverse, cs)
      | [] => (done.reverse, [])
  let (found, rest) := digits cs.length [] (Text.trimFront cs)
  match Integer.natural? found with
  | some n => if n < 4294967296 then some (n, skip verbose (Text.trimFront rest)) else none
  | none => none

/-- The bounds of a repetition, from after the opening brace to after the closing one. -/
def readBounds (verbose : Bool) (cs : List Char) : Option ((Nat × Option Nat) × List Char) := do
  let (least, rest) ← readCount verbose (skip verbose cs)
  match rest with
  | '\x7d' :: tail => return ((least, some least), tail)
  | ',' :: tail =>
    match skip verbose tail with
    | '\x7d' :: tail => return ((least, none), tail)
    | tail => do
      let (most, rest) ← readCount verbose tail
      match rest with
      | '\x7d' :: tail => if least ≤ most then return ((least, some most), tail) else none
      | _ => none
  | _ => none

def skipLazy : List Char → List Char
  | '?' :: rest => rest
  | cs => cs

/-- Repeats the last thing read, which is first in the list; switches cannot be repeated. -/
def repeatLast (least : Nat) (most : Option Nat) : List Tree → Option (List Tree)
  | [] => none
  | .settings _ :: _ => none
  | .empty :: _ => none
  | item :: rest => some (.repetition least most item :: rest)

/-! ## Groups -/

def switch? (c : Char) : Option Switch :=
  match c with
  | 'i' => some .insensitive
  | 'm' => some .multiLine
  | 's' => some .dotAll
  | 'U' => some .swapGreed
  | 'u' => some .unicode
  | 'R' => some .returns
  | 'x' => some .verbose
  | _ => none

/-- Switches up to a colon or a closing parenthesis, which is answered with the rest.  A switch
stands there once; a minus sign turns off those after it and cannot be the last. -/
def readSettings (on : Bool) (dangling : Bool) (done : List Setting) :
    List Char → Option (List Setting × Char × List Char)
  | [] => none
  | c :: rest =>
    if c = ':' ∨ c = ')' then
      -- A minus sign without a switch after it is a fault.
      if dangling then none else some (done.reverse, c, rest)
    else if c = '-' then
      if on then readSettings false true done rest else none
    else
      match switch? c with
      | some switch =>
        if done.any fun s => s.switch = switch then none
        else readSettings on false (⟨switch, on⟩ :: done) rest
      | none => none

def isGroupNameChar (first : Bool) (c : Char) : Bool :=
  if first then c == '_' || Text.isAlphabetic c
  else ['_', '.', '[', ']'].contains c || Text.isAlphanumeric c

/-- The name of a group up to its closing bracket. -/
def readGroupName (cs : List Char) : Option (List Char × List Char) :=
  let name := cs.takeWhile (· ≠ '>')
  match name, cs.dropWhile (· ≠ '>') with
  | c :: others, _ :: rest =>
    if isGroupNameChar true c ∧ others.all (isGroupNameChar false) then some (name, rest) else none
  | _, _ => none

/-- What an opening parenthesis starts. -/
inductive Opening where
  | group (settings : List Setting)
  /-- Switches for the rest of the enclosing group. -/
  | switches (settings : List Setting)

/-- Where the reader is: the rest of the text, whether blanks count, the names of groups so far. -/
structure Place where
  rest : List Char
  /-- Whether blanks and comments do not count. -/
  verbose : Bool
  /-- The names of groups so far. -/
  names : List (List Char)

/-- Reads what stands after an opening parenthesis.  Conditions on what stands before or after are
not part of the notation. -/
def readGroupStart (place : Place) : Option (Opening × Place) :=
  let named := fun (rest : List Char) => do
    let (name, rest) ← readGroupName rest
    if place.names.contains name then none
    else return (Opening.group [], { place with rest, names := name :: place.names })
  match skip place.verbose place.rest with
  -- What a place must be followed or preceded by cannot be asked for.
  | '?' :: '=' :: _ => none
  | '?' :: '!' :: _ => none
  | '?' :: '<' :: '=' :: _ => none
  | '?' :: '<' :: '!' :: _ => none
  | '?' :: 'P' :: '<' :: rest => named rest
  | '?' :: '<' :: rest => named rest
  | '?' :: rest => do
    let (settings, stop, rest) ← readSettings true false [] rest
    if stop = ')' then
      if settings.isEmpty then none else return (.switches settings, { place with rest })
    else return (.group settings, { place with rest })
  | rest => some (.group [], { place with rest })

def verboseAfter (verbose : Bool) (settings : List Setting) : Bool :=
  settings.foldl (fun v s => if s.switch = .verbose then s.on else v) verbose

/-! ## Patterns -/

/-- Things read, last first, as a sequence. -/
def sequenceOf (done : List Tree) : Tree :=
  match done with
  | [] => .empty
  | [item] => item
  | _ => .sequence done.reverse

/-- Branches read, last first, as alternatives. -/
def alternativesOf (done : List Tree) : Tree :=
  match done with
  | [branch] => branch
  | _ => .alternatives done.reverse

/-- Takes alternatives up to the end of the text or the closing parenthesis, which is left. -/
def readBranches : Nat → List Tree → List Tree → Place → Option (Tree × Place)
  | 0, _, _, _ => none
  | fuel + 1, branches, done, place =>
    let go := fun (done : List Tree) (rest : List Char) =>
      readBranches fuel branches done { place with rest }
    let again := fun (least : Nat) (most : Option Nat) (rest : List Char) =>
      match repeatLast least most done with
      | some done => go done (skipLazy rest)
      | none => none
    let rest := skip place.verbose place.rest
    match rest with
    | [] => some (alternativesOf (sequenceOf done :: branches), { place with rest := [] })
    | ')' :: _ => some (alternativesOf (sequenceOf done :: branches), { place with rest })
    | '|' :: tail =>
      readBranches fuel (sequenceOf done :: branches) [] { place with rest := tail }
    | '(' :: tail =>
      match readGroupStart { place with rest := tail } with
      | none => none
      | some (.switches settings, after) =>
        readBranches fuel branches (.settings settings :: done)
          { after with verbose := verboseAfter place.verbose settings }
      | some (.group settings, inside) =>
        match readBranches fuel [] []
            { inside with verbose := verboseAfter place.verbose settings } with
        | none => none
        | some (body, after) =>
          match after.rest with
          | ')' :: tail =>
            readBranches fuel branches (.group settings body :: done)
              -- Switches end with their group, so blanks count again as before it.
              { after with rest := tail, verbose := place.verbose }
          | _ => none
    | '[' :: tail =>
      let (negated, first, tail) := readOpening place.verbose tail
      match readSet place.verbose (tail.length + 1) none first tail with
      | some (body, tail) => go (.bracket negated body :: done) tail
      | none => none
    | '?' :: tail => again 0 (some 1) tail
    | '*' :: tail => again 0 none tail
    | '+' :: tail => again 1 none tail
    | '\x7b' :: tail =>
      match readBounds place.verbose tail with
      -- Blanks may stand between a repetition and its mark only after braces.
      | some (bounds, tail) => again bounds.1 bounds.2 (skip place.verbose tail)
      | none => none
    | '\\' :: tail =>
      match readEscape place.verbose tail with
      | some (item, tail) => go (item :: done) tail
      | none => none
    | '.' :: tail => go (.dot :: done) tail
    | '^' :: tail => go (.caret :: done) tail
    | '$' :: tail => go (.dollar :: done) tail
    | c :: tail => go (.literal ⟨c, false⟩ :: done) tail

def maxDepth : Nat := 250

def readTree (text : String) : Option Tree :=
  let cs := text.toList
  match readBranches (2 * cs.length + 2) [] [] ⟨cs, false, []⟩ with
  | some (tree, place) => if place.rest.isEmpty ∧ tree.depth ≤ maxDepth then some tree else none
  | none => none

end Pattern
end ErrorTriage
