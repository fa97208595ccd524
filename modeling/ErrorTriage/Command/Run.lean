import ErrorTriage.Command.Arguments
import ErrorTriage.Report.Check
import ErrorTriage.Report.Listing
import ErrorTriage.Toml.Reader

/-!
# Command.Run — what the program does

The profile is read first, whatever the task is.  Files are given by a function from their names to
their texts; a file that cannot be read has none.
-/

namespace ErrorTriage

inductive SettingsError where
  | unreadable (path : String)
  | unparsable (path : String)
deriving DecidableEq, Repr

def SettingsError.message : SettingsError → String
  | .unreadable path => "Failed to read config file '" ++ path ++ "'"
  | .unparsable path => "Failed to parse config file '" ++ path ++ "'"

/-- A record that is given as an array, without the items beyond its fields. -/
def Json.cut (fields : Nat) : Json → Json
  | .array items => .array (items.take fields)
  | j => j

/-- An object with the members of a name changed. -/
def Json.changeMember (name : String) (change : Json → Json) : Json → Json
  | .object members => .object (members.map fun m => if m.1 = name then (name, change m.2) else m)
  | j => j

/-- The configuration of a filter without items beyond the fields of its records. -/
def FilterSettings.cut (j : Json) : Json :=
  match j.cut 2 with
  | .array [notifiers, test] => .array [notifiers, test.cut 4]
  | j => j.changeMember "test" (Json.cut 4)

/-- Reads a profile from the text of a file.  In a file, unlike in a document, a record may be given
as an array with more items than it has fields. -/
def Settings.ofText? (text : String) : Option Settings :=
  (Toml.read? text).bind fun j =>
    ofJson? ((j.changeMember "query" (Json.cut 2)).changeMember "error_filter" FilterSettings.cut)

/-- Loads a profile; without a file it is the profile `base`. -/
def Settings.load (files : String → Option String) :
    Option String → Except SettingsError Settings
  | none => .ok {}
  | some path =>
    match files path with
    | none => .error (.unreadable path)
    | some text =>
      match Settings.ofText? text with
      | none => .error (.unparsable path)
      | some settings => .ok settings

namespace Command

inductive Failure where
  | settings (e : SettingsError)
  | check (e : CheckFailure)
  | predicate (e : Query.PredicateError)
  | unreadableLog (path : String)
  | unparsableLog (path : String)
  | unwritable (path : String)
deriving DecidableEq, Repr

def Failure.message : Failure → String
  | .settings _ => "Failed to load config"
  | .check e => e.message
  | .predicate _ => "Invalid query predicate"
  | .unreadableLog path => "Failed to read '" ++ path ++ "'"
  | .unparsableLog path => "Failed to parse '" ++ path ++ "'"
  | .unwritable path => "Failed to write output file '" ++ path ++ "'"

/-- The line that the program ends with when a task fails. -/
def Failure.line (f : Failure) : String := "Error: " ++ f.message

def versionText : String := "error-sieve 0.1.0\n"

def ColorMode.isOn (terminal : Bool) : ColorMode → Bool
  | .auto => terminal
  | .always => true
  | .never => false

def checkContent (format : Format) (colors : Bool) (outcomes : List EventOutcome) : String :=
  match format with
  | .json => (Report.checkJson outcomes).pretty ++ "\n"
  | .text => Report.checkText colors outcomes

def queryContent (format : Format) (colors : Bool) (found : List LogEntry) (total : Nat) :
    String :=
  match format with
  | .json => (Report.queryJson found).pretty ++ "\n"
  | .text => Report.queryText colors found total

def rulesContent (format : Format) (r : Vocabulary) : String :=
  match format with
  | .json => (Report.rulesJson r).pretty ++ "\n"
  | .text => Report.rulesText r

def readLog (path : String) (text : Option String) : Except Failure (List LogEntry) :=
  match text with
  | none => .error (.unreadableLog path)
  | some text =>
    match (Json.read? text).bind LogEntry.ofLog? with
    | none => .error (.unparsableLog path)
    | some entries => .ok entries

/-- The results of a task under a profile.  The predicates of a query are read before its log. -/
def perform (files : String → Option String) (colors : Bool) (format : Format)
    (settings : Settings) : Task → Except Failure String
  | .check events =>
    match checkFile settings events (files events) with
    | .error e => .error (.check e)
    | .ok outcomes => .ok (checkContent format colors outcomes)
  | .query log predicates search =>
    match settings.logQuery predicates search with
    | .error e => .error (.predicate e)
    | .ok q =>
      match readLog log (files log) with
      | .error e => .error e
      | .ok entries => .ok (queryContent format colors (q.apply entries) entries.length)
  | .rules => .ok (rulesContent format .standard)

def Invocation.run (i : Invocation) (files : String → Option String) (terminal : Bool) :
    Except Failure String :=
  match Settings.load files i.config with
  | .error e => .error (.settings e)
  | .ok settings => perform files (i.color.isOn terminal) i.format settings i.task

end Command
end ErrorTriage
