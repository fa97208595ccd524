import ErrorTriage.Command.Run

/-!
# Main — the program

Reads the files that an invocation names, runs it, and writes the results.
-/

open ErrorTriage

def usageText : String :=
  "Usage: error-sieve [OPTIONS] <COMMAND>\n\n"
    ++ "Commands:\n"
    ++ "  check <EVENT>   Run the configured error filter over captured error events\n"
    ++ "  query <FILE>    List logged errors matching the given predicates\n"
    ++ "  rules           List the rule builders available to filter configurations\n\n"
    ++ "Options:\n"
    ++ "  -c, --config <CONFIG>  Settings file [env: ERROR_SIEVE_CONFIG]\n"
    ++ "  -F, --format <FORMAT>  Output format: text, json\n"
    ++ "      --color <COLOR>    When to colorize output: auto, always, never\n"
    ++ "  -v, --verbose          Increase log verbosity\n"
    ++ "  -q, --quiet            Only report errors\n"
    ++ "  -o, --output <OUTPUT>  Write results to this file\n"
    ++ "  -w, --where <WHERE>    Predicate of a query, repeatable\n"
    ++ "  -s, --search <SEARCH>  Free-text search of a query\n"
    ++ "  -h, --help             Print help\n"
    ++ "  -V, --version          Print version\n"

/-- The text of a file, if it can be read. -/
def fileText (path : String) : IO (Option String) := do
  try
    return some (← IO.FS.readFile path)
  catch _ =>
    return none

def filesOf (i : Command.Invocation) : List String :=
  i.config.toList ++ match i.task with
    | .check events => [events]
    | .query log _ _ => [log]
    | .rules => []

def deliver (target : Option String) (content : String) : IO (Option Command.Failure) := do
  match target with
  | none =>
    IO.print content
    return none
  | some path =>
    try
      IO.FS.writeFile path content
      return none
    catch _ =>
      return some (.unwritable path)

def main (args : List String) : IO UInt32 := do
  match Command.read args (← IO.getEnv "ERROR_SIEVE_CONFIG") with
  | .wrong =>
    IO.eprint usageText
    return 2
  | .help =>
    IO.print usageText
    return 0
  | .version =>
    IO.print Command.versionText
    return 0
  | .run i =>
    let files ← (filesOf i).mapM fun path => return (path, ← fileText path)
    let terminal ← (← IO.getStdout).isTty
    let lookUp := fun path => ((files.find? fun f => f.1 == path).map (·.2)).getD none
    let failure ← match i.run lookUp terminal with
      | .error e => pure (some e)
      | .ok content => deliver i.output content
    match failure with
    | none => return 0
    | some e =>
      IO.eprintln e.line
      return 1
