import ErrorTriage.Value
import ErrorTriage.Text.Blank

/-!
# Capture.NameValues — an ordered collection of names and values

A name may occur several times, in any spelling of its ASCII letters; looking it up joins the
values of all its occurrences with commas, in the order in which they were added.
-/

namespace ErrorTriage

/-- Names and values in the order in which they were added. -/
structure NameValues where
  entries : List (String × String) := []
deriving DecidableEq, Repr, Inhabited

namespace NameValues

def empty : NameValues := ⟨[]⟩

def add (m : NameValues) (name value : String) : NameValues :=
  ⟨m.entries ++ [(name, value)]⟩

/-- The values of all names that equal a name up to the case of ASCII letters. -/
def valuesOf (m : NameValues) (name : String) : List String :=
  (m.entries.filter fun e => Text.sameIgnoringAsciiCase e.1 name).map (·.2)

/-- The values of a name, joined with commas. -/
def get? (m : NameValues) (name : String) : Option String :=
  match m.valuesOf name with
  | [] => none
  | values => some (",".intercalate values)

def size (m : NameValues) : Nat := m.entries.length

/-- The pairs as `a=1&b=2`. -/
def text (m : NameValues) : String :=
  "&".intercalate (m.entries.map fun e => e.1 ++ "=" ++ e.2)

def member? (m : NameValues) (name : String) : Option Value :=
  if name = "Count" then some (.int m.size)
  else if name = "AllKeys" then some (.list (m.entries.map fun e => .str e.1))
  else none

/-- A textual index looks a name up and always finds something; a number is a position. -/
def item? (m : NameValues) : Index → Option Value
  | .str key => some (Value.ofOption (m.get? key))
  | .int i => if 0 ≤ i then (m.entries[i.toNat]?).map fun e => .str e.2 else none

def toValue (m : NameValues) : Value :=
  .object "NameValueCollection" ["IEnumerable", "Object"] m.text m.member? m.item?

/-- The pairs of a JSON object of texts, by name. -/
def ofJson? : Json → Option NameValues
  | .object members =>
    (members.mapM fun (e : String × Json) => e.2.string?.map fun s => (e.1, s)).map fun pairs =>
      ⟨(SortedMap.ofList pairs).entries⟩
  | _ => none

end NameValues
end ErrorTriage
