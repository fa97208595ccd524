import ErrorTriage.Assertion.Expression
import ErrorTriage.Rule.Locator
import ErrorTriage.Text.Quoted

/-!
# Rule.Error — why no assertion can be built from a rule

An error that occurs while a rule is being built is wrapped once for the rule and once for every
rule around it, so the trail from the root is part of the error.  Only the errors of looking up the
builder of a rule are not wrapped for the rule itself.
-/

namespace ErrorTriage

/-- What the value of a parameter becomes. -/
inductive ParameterKind where
  | expression
  | namedType
  | flag
  | typeCode
  | integer
  | text
deriving DecidableEq, Repr

/-- A kind in the words of a message. -/
def ParameterKind.phrase : ParameterKind → String
  | .expression => "a context expression"
  | .namedType => "a type reference"
  | .flag => "a boolean"
  | .typeCode => "a type code"
  | .integer => "an integer"
  | .text => "text"

/-- What is wrong with the value of a parameter. -/
inductive ParameterFault where
  | emptyTypeName
  | unknownTypeCode (text : String)
  | notInteger (fault : Integer.Fault)
  /-- A parameter that was declared with another kind. -/
  | notDeclaredAs (kind : ParameterKind)
deriving DecidableEq, Repr

def ParameterFault.reason : ParameterFault → String
  | .emptyTypeName => "type name is empty"
  | .unknownTypeCode text => TypeCode.unknownMessage text
  | .notInteger fault => fault.message
  | .notDeclaredAs kind => "parameter is not declared as " ++ kind.phrase

/-- Why no assertion can be built from a rule. -/
inductive RuleError where
  /-- A text under a rule that only has rules under it. -/
  | unexpectedContent (parent content : String)
  | missingBuilder (rule builder : String)
  | invalidLocator (text : String)
  | unresolvedModule (locator : Locator)
  /-- A parameter that has to be given, or was not bound. -/
  | missingParameter (rule parameter : String)
  | invalidParameter (rule parameter value : String) (fault : ParameterFault)
  | path (e : PathSyntaxError)
  /-- An assertion that cannot be built. -/
  | evaluation (e : EvaluationError)
  | pattern
  /-- An error while a rule is being built, with the wording that it was reported in. -/
  | build (rule : String) {message : String} (source : RuleError)
deriving DecidableEq, Repr

namespace RuleError

/-- The wording of an error.  What a pattern engine says of a malformed pattern is not modelled:
`pattern` carries none of it and is worded by a placeholder. -/
def message : RuleError → String
  | .unexpectedContent parent content =>
    "Unexpected content under '" ++ parent ++ "': " ++ Text.quoted content
      ++ ". Only rule elements are allowed"
  | .missingBuilder rule builder =>
    "No builder named '" ++ builder ++ "' is registered for rule '" ++ rule
      ++ "'. Expected a public builder registered as \x60" ++ builder
      ++ "\x60, either \x60fn(&AssertionFactory, &ConfigNode) -> "
      ++ "Result<Assertion, ConfigurationError>\x60 or a parameter-bound builder"
  | .invalidLocator text =>
    "Invalid rule module locator '" ++ text ++ "'. Expected '.../ns/<namespace>', "
      ++ "'.../module/<module>' or '.../nsmodule/<namespace>/<module>'"
  | .unresolvedModule l =>
    "Rule module '" ++ l.moduleName ++ "' (namespace '" ++ l.namespaceName
      ++ "') is not registered"
  | .missingParameter rule parameter =>
    "Rule '" ++ rule ++ "' requires the '" ++ parameter ++ "' parameter"
  | .invalidParameter rule parameter value fault =>
    "Invalid value " ++ Text.quoted value ++ " for parameter '" ++ parameter ++ "' of rule '"
      ++ rule ++ "': " ++ fault.reason
  | .path e => e.message
  | .evaluation e => e.message
  | .pattern => "<regex error>"
  | @build rule message _ => "Failed to build rule '" ++ rule ++ "': " ++ message

/-- Wraps an error for the rule that was being built, in the error's own wording. -/
def whileBuilding (rule : String) (source : RuleError) : RuleError :=
  @build rule source.message source

/-- The error and the errors inside it, outermost first. -/
def chain : RuleError → List RuleError
  | @build rule message source => @build rule message source :: source.chain
  | e => [e]

/-- The error inside all wrappings. -/
def root : RuleError → RuleError
  | .build _ source => source.root
  | e => e

/-- The rules named by the wrappings, outermost first. -/
def trail : RuleError → List String
  | .build rule source => rule :: source.trail
  | _ => []

end RuleError
end ErrorTriage
