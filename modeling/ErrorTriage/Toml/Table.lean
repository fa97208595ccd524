import ErrorTriage.Json.Basic

/-!
# Toml.Table — putting a profile file together from its lines

A table comes into being by its own header, by the header of a table below it, or by a dotted key.
It may have at most one header of its own and none if a dotted key made it; a dotted key adds only
to tables that dotted keys made.  A header in double brackets adds a table to a list, and all later
paths through the list go to the last table of it.
-/

namespace ErrorTriage
namespace Toml

/-- How a table came into being. -/
inductive Origin where
  /-- By its own header. -/
  | header
  /-- By the header of a table below it. -/
  | below
  /-- By a dotted key. -/
  | dotted
deriving DecidableEq, Repr

/-- What a key stands for while a file is read. -/
inductive Entry where
  /-- A value that nothing is added to. -/
  | value (j : Json)
  | table (origin : Origin) (members : List (String × Entry))
  /-- A list of tables, the last one first. -/
  | tables (last : List (String × Entry)) (before : List (List (String × Entry)))

abbrev Members := List (String × Entry)

namespace Members

def get? (ms : Members) (key : String) : Option Entry := SortedMap.lookup key ms

def put (ms : Members) (key : String) (e : Entry) : Members :=
  if ms.any fun m => m.1 = key then ms.map fun m => if m.1 = key then (key, e) else m
  else ms ++ [(key, e)]

/-- Changes the table at the end of a path; tables that are missing on the way are made. -/
def changeAt (change : Members → Option Members) : List String → Members → Option Members
  | [], ms => change ms
  | key :: path, ms =>
    match ms.get? key with
    | none => (changeAt change path []).map fun sub => ms.put key (.table .below sub)
    | some (.value _) => none
    | some (.table origin sub) =>
      (changeAt change path sub).map fun sub => ms.put key (.table origin sub)
    | some (.tables last before) =>
      (changeAt change path last).map fun last => ms.put key (.tables last before)

def addValue (j : Json) : List String → Members → Option Members
  | [], _ => none
  | [key], ms => if (ms.get? key).isSome then none else some (ms.put key (.value j))
  | key :: next :: path, ms =>
    match ms.get? key with
    | none => (addValue j (next :: path) []).map fun sub => ms.put key (.table .dotted sub)
    | some (.value _) => none
    | some (.table origin sub) =>
      -- A table with a header is closed; one that a header below it made may be passed through,
      -- but nothing is put into it.
      if origin = .header ∨ (origin = .below ∧ path.isEmpty) then none
      else (addValue j (next :: path) sub).map fun sub => ms.put key (.table origin sub)
    | some (.tables last before) =>
      -- The last table of a list may be passed through as well.
      if path.isEmpty then none
      else (addValue j (next :: path) last).map fun last => ms.put key (.tables last before)

def openTable (key : String) (ms : Members) : Option Members :=
  match ms.get? key with
  | none => some (ms.put key (.table .header []))
  | some (.table .below sub) => some (ms.put key (.table .header sub))
  | _ => none

def appendTable (key : String) (ms : Members) : Option Members :=
  match ms.get? key with
  | none => some (ms.put key (.tables [] []))
  | some (.tables last before) => some (ms.put key (.tables [] (last :: before)))
  | _ => none

end Members

mutual

def Entry.toJson : Entry → Json
  | .value j => j
  | .table _ members => .object (membersJson members)
  | .tables last before =>
    .array ((.object (membersJson last) :: tablesJson before).reverse)

def membersJson : List (String × Entry) → List (String × Json)
  | [] => []
  | (key, e) :: rest => (key, e.toJson) :: membersJson rest

def tablesJson : List (List (String × Entry)) → List Json
  | [] => []
  | ms :: rest => .object (membersJson ms) :: tablesJson rest

end

end Toml
end ErrorTriage
