import ErrorTriage.Calendar.Layout
import ErrorTriage.Json.Basic

/-!
# Query.LogEntry — an error as an error log keeps it

All fields may be missing from an entry.  In the text of a log a field that is known must not stand
twice in one entry.
-/

namespace ErrorTriage

structure LogEntry where
  id : String := ""
  application : String := ""
  hostName : String := ""
  typeName : String := ""
  source : String := ""
  message : String := ""
  detail : String := ""
  user : String := ""
  statusCode : Int := 0
  time : DateTime := DateTime.epoch
deriving DecidableEq

namespace LogEntry

def fieldNames : List String :=
  ["id", "application", "hostName", "type", "source", "message", "detail", "user", "statusCode",
    "time"]

def time? (j : Json) : Option DateTime := j.string?.bind DateTime.ofStored?

def ofJson? (j : Json) : Option LogEntry := do
  match ← j.fields? fieldNames with
  | [id, application, hostName, typeName, source, message, detail, user, statusCode, time] =>
    return {
      id := ← Json.orElse "" Json.string? id
      application := ← Json.orElse "" Json.string? application
      hostName := ← Json.orElse "" Json.string? hostName
      typeName := ← Json.orElse "" Json.string? typeName
      source := ← Json.orElse "" Json.string? source
      message := ← Json.orElse "" Json.string? message
      detail := ← Json.orElse "" Json.string? detail
      user := ← Json.orElse "" Json.string? user
      statusCode := ← Json.orElse 0 Json.int64? statusCode
      time := ← Json.orElse DateTime.epoch time? time }
  | _ => none

/-- Whether no field that is known stands twice in an entry. -/
def hasFieldsOnce : Json → Bool
  | .object members => fieldNames.all fun name => (members.filter fun m => m.1 = name).length ≤ 1
  | _ => true

def ofLog? (j : Json) : Option (List LogEntry) :=
  j.list? fun entry => if hasFieldsOnce entry then ofJson? entry else none

def toJson (e : LogEntry) : Json :=
  .object [("id", .string e.id), ("application", .string e.application),
    ("hostName", .string e.hostName), ("type", .string e.typeName), ("source", .string e.source),
    ("message", .string e.message), ("detail", .string e.detail), ("user", .string e.user),
    ("statusCode", Json.int e.statusCode), ("time", .string e.time.exactText)]

end LogEntry
end ErrorTriage
