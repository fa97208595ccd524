import ErrorTriage.Query.LogQuery
import ErrorTriage.Report.Table
import ErrorTriage.Rule.Vocabulary
import ErrorTriage.Settings

/-!
# Report.Listing — log entries and rules as tables and documents

The query of a profile has the profile's predicates first.  A search that is given replaces the
profile's, also if it is empty.
-/

namespace ErrorTriage

/-! ## Queries -/

/-- The query of a profile with further predicates and a search. -/
def Settings.logQuery (s : Settings) (predicates : List String) (search : Option String) :
    Except Query.PredicateError Query.LogQuery :=
  (Query.LogQuery.read .standard (s.query.predicates ++ predicates)).map fun q =>
    q.withSearch (search.or s.query.search)

namespace Report

def entryRow (e : LogEntry) : List String :=
  [e.time.textWith ' ', e.hostName, e.typeName, toString e.statusCode, truncate 60 e.message,
    e.user]

/-- Matching entries as a table with their number and that of all entries. -/
def queryText (colors : Bool) (found : List LogEntry) (total : Nat) : String :=
  let table : Table :=
    ⟨["Time", "Host", "Type", "Status", "Message", "User"], found.map entryRow⟩
  table.render ++ "\n" ++ bold colors .green (toString found.length) ++ " of " ++ toString total
    ++ " error(s) matched\n"

def queryJson (found : List LogEntry) : Json :=
  .array (found.map LogEntry.toJson)

/-! ## Rules -/

def kindLabel : ParameterKind → String
  | .expression => "path"
  | .namedType => "type"
  | .flag => "bool"
  | .typeCode => "type-code"
  | .integer => "integer"
  | .text => "text"

/-- A parameter in a listing; a question mark stands after a name that may be missing. -/
def paramLabel (p : Parameter) : String :=
  p.name ++ (if p.required then ": " else "?: ") ++ kindLabel p.kind

def builderLabels : Builder → List String
  | .bound params _ => params.map paramLabel
  | .leaf _ => ["<node>"]
  | .composite _ => ["<node>"]

/-- The builders of a vocabulary as a table. -/
def rulesText (r : Vocabulary) : String :=
  let table : Table := ⟨["Builder", "Parameters"],
    r.builders.entries.map fun e => [e.1, ", ".intercalate (builderLabels e.2)]⟩
  table.render ++ "\n" ++ toString r.size ++ " builder(s)\n"

def rulesJson (r : Vocabulary) : Json :=
  .array (r.builders.entries.map fun e =>
    .object [("builder", .string e.1), ("parameters", Json.ofStrings (builderLabels e.2))])

end Report
end ErrorTriage
