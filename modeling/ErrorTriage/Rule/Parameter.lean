import ErrorTriage.Assertion.Basic
import ErrorTriage.Rule.Error
import ErrorTriage.Rule.Node

/-!
# Rule.Parameter — parameters of rules, bound by name and handed out once

Binding converts every declared parameter that a node has.  A builder then asks for the values by
name: an answer is taken out of what is bound, so a second request for the name finds nothing.  A
request for another kind than the declared one takes the value out as well.
-/

namespace ErrorTriage

structure Parameter where
  name : String
  kind : ParameterKind
  required : Bool := true
deriving DecidableEq, Repr

inductive Argument where
  | expression (e : Expression)
  | namedType (t : NamedType)
  | flag (b : Bool)
  | typeCode (code : TypeCode)
  | integer (n : Int)
  | text (s : String)

/-! ## Binding -/

/-- The words for true. -/
def wordsForTrue : List String := ["true", "yes", "on", "1"]

/-- Whether a text is one of the words for true; blanks and case do not count. -/
def readsTrue (text : String) : Bool :=
  wordsForTrue.any fun token => Text.sameIgnoringAsciiCase token (Text.trim text)

namespace Parameter

/-- The value of a parameter from its text. -/
def convert (types : TypeTable) (rule : String) (p : Parameter) (text : String) :
    Except RuleError Argument :=
  match p.kind with
  | .expression =>
    match Expression.read text with
    | .ok e => .ok (.expression e)
    | .error e => .error (.path e)
  | .namedType =>
    if Text.isBlankText text then .error (.invalidParameter rule p.name text .emptyTypeName)
    else .ok (.namedType (types.resolve text))
  | .flag => .ok (.flag (readsTrue text))
  | .typeCode =>
    match TypeCode.ofText? text with
    | some code => .ok (.typeCode code)
    | none => .error (.invalidParameter rule p.name text (.unknownTypeCode text))
  | .integer =>
    match Integer.read64 (Text.trimList text.toList) with
    | .ok n => .ok (.integer n)
    | .error fault => .error (.invalidParameter rule p.name text (.notInteger fault))
  | .text => .ok (.text text)

end Parameter

/-- What is bound for one rule. -/
structure Bindings where
  rule : String
  /-- The values that were not yet handed out. -/
  values : SortedMap Argument

namespace Bindings

/-- Binds parameters one after another; of two with one name the later counts. -/
def bindFrom (types : TypeTable) (node : RuleNode) (values : SortedMap Argument) :
    List Parameter → Except RuleError (SortedMap Argument)
  | [] => .ok values
  | p :: rest =>
    match node.parameter? p.name with
    | none =>
      -- A parameter that may be missing is simply not bound.
      if p.required then .error (.missingParameter node.name p.name)
      else bindFrom types node values rest
    | some text =>
      match p.convert types node.name text with
      | .ok arg => bindFrom types node (values.insert p.name arg) rest
      | .error e => .error e

/-- Binds the declared parameters of a node. -/
def bind (types : TypeTable) (node : RuleNode) (params : List Parameter) :
    Except RuleError Bindings :=
  (bindFrom types node .empty params).map fun values => ⟨node.name, values⟩

end Bindings

/-! ## Handing out -/

/-- A builder that asks for bound values. -/
abbrev Taking (α : Type) := ExceptT RuleError (StateM Bindings) α

namespace Taking

/-- Takes the value of a name out of what is bound. -/
def take (name : String) : Taking (Option Argument) := do
  let args ← get
  -- Taken out before its kind is looked at, so a wrong request loses the value.
  set { args with values := args.values.erase name }
  return args.values.get? name

def failMissing {α : Type} (name : String) : Taking α := do
  throw (.missingParameter (← get).rule name)

/-- Fails because a value is not of the kind that was asked for. -/
def failKind {α : Type} (name : String) (kind : ParameterKind) : Taking α := do
  throw (.invalidParameter (← get).rule name "" (.notDeclaredAs kind))

def rule : Taking String := return (← get).rule

def expression (name : String) : Taking Expression := do
  match ← take name with
  | some (.expression e) => return e
  | some _ => failKind name .expression
  | none => failMissing name

/-- An expression that may be missing. -/
def optionalExpression (name : String) : Taking (Option Expression) := do
  match ← take name with
  | some (.expression e) => return some e
  | some _ => failKind name .expression
  | none => return none

def namedType (name : String) : Taking NamedType := do
  match ← take name with
  | some (.namedType t) => return t
  | some _ => failKind name .namedType
  | none => failMissing name

def typeCode (name : String) : Taking TypeCode := do
  match ← take name with
  | some (.typeCode code) => return code
  | some _ => failKind name .typeCode
  | none => failMissing name

def integer (name : String) : Taking Int := do
  match ← take name with
  | some (.integer n) => return n
  | some _ => failKind name .integer
  | none => failMissing name

/-- A text; a missing one is empty. -/
def text (name : String) : Taking String := do
  match ← take name with
  | some (.text s) => return s
  | some _ => failKind name .text
  | none => return ""

/-- A truth value; a missing one is false. -/
def flag (name : String) : Taking Bool := do
  match ← take name with
  | some (.flag b) => return b
  | some _ => failKind name .flag
  | none => return false

def ofLiteral {α : Type} (result : Except LiteralError α) : Taking α :=
  match result with
  | .ok a => return a
  | .error e => throw (.evaluation (.literal e))

def ofPattern {α : Type} (result : Option α) : Taking α :=
  match result with
  | some a => return a
  | none => throw .pattern

def runOn {α : Type} (t : Taking α) (args : Bindings) : Except RuleError α :=
  (t.run.run args).1

end Taking
end ErrorTriage
