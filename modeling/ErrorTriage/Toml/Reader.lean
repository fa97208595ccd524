import ErrorTriage.Toml.Scalar
import ErrorTriage.Toml.Table

/-!
# Toml.Reader — reading a profile file

A file is a list of lines: comments, headers of tables, and keys with values.  Arrays may go over
several lines and end in a comma, tables in braces may do neither.
-/

namespace ErrorTriage
namespace Toml

/-- How deep arrays and tables in braces nest, and how many parts a dotted key has. -/
def maxDepth : Nat := 79

/-- Takes a comment and the end of a line. -/
def endOfLine? (cs : List Char) : Option (List Char) :=
  match skipComment (skipSpace cs) with
  | [] => some []
  | rest => newline? rest

/-! ## Keys -/

def isBare (c : Char) : Bool := c.isAlphanum || c == '_' || c == '-'

def simpleKey? (cs : List Char) : Option (String × List Char) :=
  match cs with
  | '"' :: rest =>
    (readBasic (rest.length + 1) [] rest).map fun (inside, rest) => (String.ofList inside, rest)
  | '\'' :: rest => (readLiteral rest).map fun (inside, rest) => (String.ofList inside, rest)
  | _ =>
    let bare := cs.takeWhile isBare
    if bare.isEmpty then none else some (String.ofList bare, cs.dropWhile isBare)

def key? : Nat → List Char → Option (List String × List Char)
  | 0, _ => none
  | fuel + 1, cs =>
    match simpleKey? (skipSpace cs) with
    | none => none
    | some (part, rest) =>
      match skipSpace rest with
      | '.' :: tail => (key? fuel tail).map fun (parts, rest) => (part :: parts, rest)
      | rest => some ([part], rest)

/-! ## Values -/

/-- Drops blanks, line breaks and comments inside of an array. -/
def skipFree : Nat → List Char → List Char
  | 0, cs => cs
  | fuel + 1, cs =>
    match skipLines cs with
    | '#' :: rest => skipFree fuel (rest.dropWhile isPlain)
    | cs => cs

/-- Drops all of these. -/
def skipAll (cs : List Char) : List Char := skipFree (cs.length + 1) cs

mutual

def value? : Nat → Nat → List Char → Option (Json × List Char)
  | 0, _, _ => none
  | fuel + 1, depth, cs =>
    match cs with
    | '[' :: rest =>
      if depth = 0 then none
      else (items? fuel (depth - 1) [] (skipAll rest)).map fun (items, tail) => (.array items, tail)
    | '\x7b' :: rest =>
      if depth = 0 then none
      else
        match skipSpace rest with
        | '\x7d' :: tail => some (.object [], tail)
        | rest =>
          (pairs? fuel (depth - 1) [] rest).map fun (ms, tail) => (.object (membersJson ms), tail)
    | cs => scalar? cs

def items? : Nat → Nat → List Json → List Char → Option (List Json × List Char)
  | 0, _, _, _ => none
  | fuel + 1, depth, done, cs =>
    match cs with
    | ']' :: tail => some (done.reverse, tail)
    | cs =>
      match value? fuel depth cs with
      | none => none
      | some (item, rest) =>
        match skipAll rest with
        -- After a comma the array may end, and may go on with the next line.
        | ',' :: tail => items? fuel depth (item :: done) (skipAll tail)
        | ']' :: tail => some ((item :: done).reverse, tail)
        | _ => none

def pairs? : Nat → Nat → Members → List Char → Option (Members × List Char)
  | 0, _, _, _ => none
  | fuel + 1, depth, done, cs =>
    match key? maxDepth cs with
    | some (path, '=' :: rest) =>
      match value? fuel depth (skipSpace rest) with
      | none => none
      | some (j, rest) =>
        match done.addValue j path with
        | none => none
        | some done =>
          match skipSpace rest with
          -- After a comma a key must follow, on the same line.
          | ',' :: tail => pairs? fuel depth done tail
          | '\x7d' :: tail => some (done, tail)
          | _ => none
    | _ => none

end

/-! ## Files -/

/-- A line that says something. -/
inductive Line where
  /-- The header of a table. -/
  | table (path : List String)
  /-- The header of one more table of a list. -/
  | tables (path : List String)
  /-- A key with its value. -/
  | pair (path : List String) (j : Json)

def header? (close : List Char) (cs : List Char) : Option (List String × List Char) :=
  match key? maxDepth cs with
  | some (path, rest) =>
    if close.isPrefixOf rest then
      (endOfLine? (rest.drop close.length)).map fun tail => (path, tail)
    else none
  | none => none

def line? (cs : List Char) : Option (Line × List Char) :=
  match cs with
  | '[' :: '[' :: rest => (header? [']', ']'] rest).map fun (path, tail) => (.tables path, tail)
  | '[' :: rest => (header? [']'] rest).map fun (path, tail) => (.table path, tail)
  | _ =>
    match key? maxDepth cs with
    | some (path, '=' :: rest) =>
      match value? (rest.length + 1) maxDepth (skipSpace rest) with
      | some (j, rest) => (endOfLine? rest).map fun tail => (.pair path j, tail)
      | none => none
    | _ => none

/-- Takes all lines; empty ones and comments say nothing. -/
def lines? : Nat → List Char → Option (List Line)
  | 0, _ => none
  | fuel + 1, cs =>
    match skipSpace cs with
    | [] => some []
    | '#' :: rest =>
      match endOfLine? ('#' :: rest) with
      | some tail => lines? fuel tail
      | none => none
    | cs =>
      match newline? cs with
      | some tail => lines? fuel tail
      | none =>
        match line? cs with
        | some (l, tail) => (lines? fuel tail).map fun more => l :: more
        | none => none

/-- The members of a file, line by line; `path` is that of the header before. -/
def assemble (path : List String) (ms : Members) : List Line → Option Members
  | [] => some ms
  | .table next :: rest =>
    match next.getLast? with
    | none => none
    | some key =>
      match ms.changeAt (Members.openTable key) next.dropLast with
      | some ms => assemble next ms rest
      | none => none
  | .tables next :: rest =>
    match next.getLast? with
    | none => none
    | some key =>
      match ms.changeAt (Members.appendTable key) next.dropLast with
      | some ms => assemble next ms rest
      | none => none
  | .pair keys j :: rest =>
    match ms.changeAt (Members.addValue j keys) path with
    | some ms => assemble path ms rest
    | none => none

/-- The text without the mark that may stand at the start of a file. -/
def withoutMark : List Char → List Char
  | c :: rest => if c.toNat = 0xFEFF then rest else c :: rest
  | [] => []

def read? (text : String) : Option Json := do
  let cs := withoutMark text.toList
  let found ← lines? (cs.length + 1) cs
  let ms ← assemble [] [] found
  return .object (membersJson ms)

end Toml
end ErrorTriage
