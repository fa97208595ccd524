import ErrorTriage.Capture.Ancestry
import ErrorTriage.Capture.NameValues

/-!
# Capture.CapturedError — an error as it was caught, with the errors inside it

An error may hold another one, so errors form chains.  The innermost error of a chain and the
first status code on it are found by walking the chain.
-/

namespace ErrorTriage

structure CapturedError where
  typeName : String
  /-- The names it is assignable to, most derived first. -/
  ancestry : List String
  message : String := ""
  source : String := ""
  stackTrace : String := ""
  /-- The status code, of errors that have one. -/
  status : Option Int := none
  inner : Option CapturedError := none
  data : NameValues := {}
deriving Repr

namespace CapturedError

/-- An error of a type, with the ancestry that belongs to the type. -/
def ofType (typeName message : String) : CapturedError :=
  { typeName, ancestry := Ancestry.of typeName, message }

def ofStatus (status : Int) (message : String) : CapturedError :=
  { ofType "HttpException" message with status := some status }

def withInner (e inner : CapturedError) : CapturedError := { e with inner := some inner }

def withSource (e : CapturedError) (source : String) : CapturedError := { e with source }

/-- The innermost error of the chain. -/
def baseError : CapturedError → CapturedError
  | ⟨_, _, _, _, _, _, some inner, _⟩ => inner.baseError
  | e => e

/-- The first status code on the chain, or zero. -/
def statusCode : CapturedError → Int
  | ⟨_, _, _, _, _, some code, _, _⟩ => code
  | ⟨_, _, _, _, _, none, some inner, _⟩ => inner.statusCode
  | ⟨_, _, _, _, _, none, none, _⟩ => 0

/-- The type, and the message if there is one. -/
def text (e : CapturedError) : String :=
  if e.message = "" then e.typeName else e.typeName ++ ": " ++ e.message

/-- The members of an error, given the value of the error inside. -/
def memberWith? (e : CapturedError) (inner : Value) (name : String) : Option Value :=
  if name = "Message" then some (.str e.message)
  else if name = "Source" then some (.str e.source)
  else if name = "StackTrace" then some (.str e.stackTrace)
  else if name = "InnerException" then some inner
  else if name = "Data" then some e.data.toValue
  else if name = "HttpCode" then e.status.map .int
  else none

mutual

def toValue : CapturedError → Value
  | ⟨typeName, ancestry, message, source, stackTrace, status, inner, data⟩ =>
    let e : CapturedError :=
      ⟨typeName, ancestry, message, source, stackTrace, status, inner, data⟩
    .object typeName ancestry e.text (e.memberWith? (valueOf inner)) fun _ => none

def valueOf : Option CapturedError → Value
  | some e => toValue e
  | none => .null

end

/-! ## Reading -/

structure Draft where
  typeName : Option String := none
  ancestry : Option (List String) := none
  message : String := ""
  source : String := ""
  stackTrace : String := ""
  status : Option Int := none
  inner : Option CapturedError := none
  data : NameValues := {}

/-- The error of a complete draft: the type is needed, a missing ancestry follows from it. -/
def Draft.finish (d : Draft) : Option CapturedError :=
  d.typeName.map fun typeName =>
    ⟨typeName, d.ancestry.getD (Ancestry.of typeName), d.message, d.source, d.stackTrace,
      d.status, d.inner, d.data⟩

/-- The fields of a record, in the order in which an array lists them. -/
def fieldNames : List String :=
  ["type", "ancestry", "message", "source", "stackTrace", "httpStatusCode", "inner", "data"]

mutual

/-- Reads an error from an object or from an array of its fields. -/
def ofJson? : Json → Option CapturedError
  | .object members => (readMembers members {}).bind Draft.finish
  | .array items => (readItems fieldNames items {}).bind Draft.finish
  | _ => none

def readMembers : List (String × Json) → Draft → Option Draft
  | [], d => some d
  | (name, value) :: rest, d => (readField name value d).bind (readMembers rest)

def readItems : List String → List Json → Draft → Option Draft
  | _, [], d => some d
  | [], _ :: _, _ => none
  | name :: names, value :: rest, d => (readField name value d).bind (readItems names rest)

def readField (name : String) (value : Json) (d : Draft) : Option Draft :=
  if name = "type" then value.string?.map fun s => { d with typeName := some s }
  else if name = "ancestry" then
    (value.nullable? (Json.list? Json.string?)).map fun names => { d with ancestry := names }
  else if name = "message" then value.string?.map fun s => { d with message := s }
  else if name = "source" then value.string?.map fun s => { d with source := s }
  else if name = "stackTrace" then value.string?.map fun s => { d with stackTrace := s }
  else if name = "httpStatusCode" then
    (value.nullable? Json.int64?).map fun n => { d with status := n }
  else if name = "inner" then
    match value with
    | .null => some { d with inner := none }
    | .object members =>
      ((readMembers members {}).bind Draft.finish).map fun e => { d with inner := some e }
    | .array items =>
      ((readItems fieldNames items {}).bind Draft.finish).map fun e => { d with inner := some e }
    | _ => none
  else if name = "data" then (NameValues.ofJson? value).map fun m => { d with data := m }
  else some d

end

end CapturedError
end ErrorTriage
