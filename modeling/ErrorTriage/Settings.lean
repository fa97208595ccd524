import ErrorTriage.Rule.Node

/-!
# Settings — what a profile configures

A profile has a label, at most one filter of captured errors and the defaults of queries.  Each
part is read from a record or from an array of its fields; members that are not known are passed
over.
-/

namespace ErrorTriage

structure FilterSettings where
  /-- The notifiers that matching errors go to. -/
  notifiers : List String := []
  test : RuleNode

structure QuerySettings where
  predicates : List String := []
  search : Option String := none
deriving DecidableEq, Repr

structure Settings where
  profileName : String := "base"
  errorFilter : Option FilterSettings := none
  query : QuerySettings := {}

def Json.strings? : Json → Option (List String) := Json.list? Json.string?

def Json.ofStrings (texts : List String) : Json := .array (texts.map .string)

def Json.ofText? (text : Option String) : Json :=
  match text with
  | some s => .string s
  | none => .null

namespace FilterSettings

/-- Reads the configuration of a filter; it needs a rule. -/
def ofJson? (j : Json) : Option FilterSettings := do
  match ← j.fields? ["notifiers", "test"] with
  | [notifiers, some test] =>
    return ⟨← Json.orElse [] Json.strings? notifiers, ← RuleNode.ofJson? test⟩
  | _ => none

def toJson (s : FilterSettings) : Json :=
  .object [("notifiers", Json.ofStrings s.notifiers), ("test", s.test.toJson)]

end FilterSettings

namespace QuerySettings

/-- Reads the defaults of queries. -/
def ofJson? (j : Json) : Option QuerySettings := do
  match ← j.fields? ["filters", "search"] with
  | [predicates, search] =>
    return ⟨← Json.orElse [] Json.strings? predicates,
      ← Json.orElse none (Json.nullable? Json.string?) search⟩
  | _ => none

def toJson (s : QuerySettings) : Json :=
  .object [("filters", Json.ofStrings s.predicates), ("search", Json.ofText? s.search)]

end QuerySettings

namespace Settings

/-- Reads a profile; what is missing is as in the profile `base`. -/
def ofJson? (j : Json) : Option Settings := do
  match ← j.fields? ["profile_name", "error_filter", "query"] with
  | [name, filter, query] =>
    return ⟨← Json.orElse "base" Json.string? name,
      ← Json.orElse none (Json.nullable? FilterSettings.ofJson?) filter,
      ← Json.orElse {} QuerySettings.ofJson? query⟩
  | _ => none

def toJson (s : Settings) : Json :=
  .object [("profile_name", .string s.profileName),
    ("error_filter", match s.errorFilter with
      | some filter => filter.toJson
      | none => .null),
    ("query", s.query.toJson)]

end Settings
end ErrorTriage
