/-!
# Command.Arguments — reading the arguments of the program

Arguments are read from the left.  General options may stand before and after the name of the
command; what is given after it counts.  An option is given at most once on either side, save for
those that add up.  The first fault, or the first request for help or the version, ends the
reading.
-/

namespace ErrorTriage
namespace Command

inductive Flag where
  /-- The file with the profile. -/
  | config
  | format
  | color
  | verbose
  | quiet
  /-- The file that results go to. -/
  | output
  | predicate
  | search
  | help
  | version
deriving DecidableEq, Repr

namespace Flag

def longName : Flag → String
  | .config => "config"
  | .format => "format"
  | .color => "color"
  | .verbose => "verbose"
  | .quiet => "quiet"
  | .output => "output"
  | .predicate => "where"
  | .search => "search"
  | .help => "help"
  | .version => "version"

def letter? : Flag → Option Char
  | .config => some 'c'
  | .format => some 'F'
  | .color => none
  | .verbose => some 'v'
  | .quiet => some 'q'
  | .output => some 'o'
  | .predicate => some 'w'
  | .search => some 's'
  | .help => some 'h'
  | .version => some 'V'

def takesValue : Flag → Bool
  | .config => true
  | .format => true
  | .color => true
  | .output => true
  | .predicate => true
  | .search => true
  | _ => false

def mayRepeat : Flag → Bool
  | .verbose => true
  | .predicate => true
  | _ => false

def admits (f : Flag) (value : String) : Bool :=
  match f with
  | .config => !value.isEmpty
  | .output => !value.isEmpty
  | .format => ["text", "json"].contains value
  | .color => ["auto", "always", "never"].contains value
  | _ => true

/-- The options that stand before and after the name of a command. -/
def general : List Flag := [.config, .format, .color, .verbose, .quiet, .output, .help]

end Flag

def commandNames : List String := ["check", "query", "rules"]

/-- The part of the arguments that is read. -/
inductive Level where
  /-- Before the name of a command. -/
  | top
  /-- After the name of the command. -/
  | command (name : String)
deriving DecidableEq, Repr

namespace Level

def flags : Level → List Flag
  | .top => .version :: Flag.general
  | .command name =>
    if name = "query" then .predicate :: .search :: Flag.general else Flag.general

/-- How many file names belong to a command. -/
def operands : Level → Nat
  | .top => 0
  | .command name => if name = "rules" then 0 else 1

end Level

/-- What was given in one part. -/
structure Given where
  /-- Options and their values, in order. -/
  options : List (Flag × String) := []
  operands : List String := []
deriving DecidableEq, Repr

namespace Given

def has (g : Given) (f : Flag) : Bool := g.options.any fun o => o.1 = f

def values (g : Given) (f : Flag) : List String :=
  (g.options.filter fun o => o.1 = f).map (·.2)

/-- Adds an option; not twice, and only with a value of its own. -/
def add? (g : Given) (f : Flag) (value : String) : Option Given :=
  if (g.has f && !f.mayRepeat) || !f.admits value then none
  else some { g with options := g.options ++ [(f, value)] }

/-- Adds a file name; not more than the command has, and none without a name. -/
def addOperand? (g : Given) (level : Level) (name : String) : Option Given :=
  if g.operands.length < level.operands ∧ ¬ name.isEmpty then
    some { g with operands := g.operands ++ [name] }
  else none

def addOperands? (g : Given) (level : Level) : List String → Option Given
  | [] => some g
  | name :: rest => (g.addOperand? level name).bind fun g => g.addOperands? level rest

end Given

/-- What reading one part comes to. -/
inductive Scan where
  | done (g : Given)
  /-- The name of a command, with the arguments after it. -/
  | command (g : Given) (name : String) (rest : List String)
  /-- The same after a wrong value: only a request for help is still heard. -/
  | faulty (name : String) (rest : List String)
  | help
  | version
  | wrong
deriving DecidableEq, Repr

inductive Letters where
  | done (g : Given)
  /-- The last option has no value yet. -/
  | pending (g : Given) (f : Flag)
  | help
  | version
  | wrong
deriving DecidableEq, Repr

/-- Reads letters; the letters after an option with a value are its value. -/
def readLetters (level : Level) (g : Given) : List Char → Letters
  | [] => .done g
  | c :: rest =>
    match level.flags.find? fun f => f.letter? = some c with
    | none => .wrong
    | some .help => .help
    | some .version => .version
    | some f =>
      if f.takesValue then
        match rest with
        | [] => .pending g f
        | d :: tail =>
          -- An equals sign may stand between a letter and its value.
          match g.add? f (String.ofList (if d = '=' then tail else d :: tail)) with
          | some g => .done g
          | none => .wrong
      else
        match g.add? f "" with
        | some g => readLetters level g rest
        | none => .wrong

/-- Reads a long name, with a value if an equals sign stands in it. -/
def readLong (level : Level) (g : Given) (cs : List Char) : Letters :=
  let name := String.ofList (cs.takeWhile (· ≠ '='))
  let value? := match cs.dropWhile (· ≠ '=') with
    | _ :: value => some (String.ofList value)
    | [] => none
  match level.flags.find? fun f => f.longName = name with
  | none => .wrong
  | some f =>
    match f.takesValue, value? with
    | false, some _ => .wrong
    | true, none => .pending g f
    | true, some value =>
      match g.add? f value with
      | some g => .done g
      | none => .wrong
    | false, none =>
      match f with
      | .help => .help
      | .version => .version
      | _ =>
        match g.add? f "" with
        | some g => .done g
        | none => .wrong

/-- Help on a command: at most one name, and a known one. -/
def helpOn : List String → Scan
  | [] => .help
  | [name] => if name = "help" ∨ commandNames.contains name then .help else .wrong
  | _ => .wrong

/-- What follows a wrong value that is an argument of its own.  The next option or file name brings
the fault to light, but the name of a command goes first. -/
def afterFault (level : Level) : List String → Scan
  | [] => .wrong
  | name :: rest =>
    if level ≠ .top then .wrong
    else if name = "help" then helpOn rest
    else if commandNames.contains name then .faulty name rest
    else .wrong

/-- Reads one part of the arguments; `pending` is an option that waits for its value, which does
not begin with a hyphen unless it is one alone. -/
def scan (level : Level) (g : Given) (pending : Option Flag) : List String → Scan
  | [] => if pending.isSome then .wrong else .done g
  | arg :: rest =>
    let next := fun (l : Letters) =>
      match l with
      | .done g => scan level g none rest
      | .pending g f => scan level g (some f) rest
      | .help => .help
      | .version => .version
      | .wrong => .wrong
    match pending, arg.toList with
    -- Everything after two hyphens is a file name.
    | none, ['-', '-'] =>
      match g.addOperands? level rest with
      | some g => .done g
      | none => .wrong
    | none, '-' :: '-' :: cs => next (readLong level g cs)
    | none, '-' :: c :: cs => next (readLetters level g (c :: cs))
    -- A value may be a hyphen alone, which is why this needs two characters.
    | some _, '-' :: _ :: _ => .wrong
    | some f, _ =>
      match g.add? f arg with
      | some g => scan level g none rest
      | none => afterFault level rest
    | none, _ =>
      if level = .top then
        if arg = "help" then helpOn rest
        else if commandNames.contains arg then .command g arg rest
        else .wrong
      else
        match g.addOperand? level arg with
        | some g => scan level g none rest
        | none => .wrong

/-! ## Commands -/

inductive Format where
  | text
  | json
deriving DecidableEq, Repr

inductive ColorMode where
  | auto
  | always
  | never
deriving DecidableEq, Repr

inductive Task where
  /-- To check the events of a file. -/
  | check (events : String)
  /-- To list the entries of a log. -/
  | query (log : String) (predicates : List String) (search : Option String)
  | rules
deriving DecidableEq, Repr

/-- What the program is asked for. -/
structure Invocation where
  task : Task
  /-- The file with the profile. -/
  config : Option String
  format : Format
  color : ColorMode
  /-- The file that results go to. -/
  output : Option String
deriving DecidableEq, Repr

inductive Intent where
  | run (i : Invocation)
  | help
  | version
  | wrong
deriving DecidableEq, Repr

/-- Whether one part is in order: not both more and fewer messages, and a usable profile in the
environment if none is given. -/
def Given.isSound (g : Given) (environment : Option String) : Bool :=
  !(g.has .quiet && g.has .verbose) && (g.has .config || environment != some "")

/-- The value of an option, that after the name of the command first. -/
def value? (before after : Given) (f : Flag) : Option String :=
  (after.values f).head?.or (before.values f).head?

def task? (name : String) (after : Given) : Option Task :=
  match name, after.operands with
  | "check", [events] => some (.check events)
  | "query", [log] => some (.query log (after.values .predicate) (after.values .search).head?)
  | "rules", [] => some .rules
  | _, _ => none

/-- What is to be done, from both parts of the arguments. -/
def invocation? (name : String) (before after : Given) (environment : Option String) :
    Option Invocation :=
  if before.isSound environment && after.isSound environment then
    (task? name after).map fun task =>
      { task
        config := (value? before after .config).or environment
        format := if value? before after .format = some "json" then .json else .text
        color :=
          if value? before after .color = some "always" then .always
          else if value? before after .color = some "never" then .never
          else .auto
        output := value? before after .output }
  else none

/-- Reads the arguments; `environment` is the profile that the environment names. -/
def read (args : List String) (environment : Option String) : Intent :=
  match scan .top {} none args with
  | .help => .help
  | .version => .version
  | .wrong => .wrong
  | .done _ => .wrong
  | .faulty name rest =>
    match scan (.command name) {} none rest with
    | .help => .help
    | _ => .wrong
  | .command before name rest =>
    match scan (.command name) {} none rest with
    | .help => .help
    | .done after =>
      match invocation? name before after environment with
      | some i => .run i
      | none => .wrong
    | _ => .wrong

end Command
end ErrorTriage
