import ErrorTriage.Rule.Parameter

/-!
# Rule.Vocabulary — which builder handles a rule

A rule is handled by the builder whose name derives from the rule's name.  A builder makes its
assertion from the node alone, from bound parameters, or from the assertions of the rules under the
node.  Registering a name again replaces its builder.
-/

namespace ErrorTriage

/-- How an assertion is made for a rule. -/
inductive Builder where
  | leaf (make : RuleNode → Except RuleError Assertion)
  /-- From the assertions of the rules under the node. -/
  | composite (combine : List Assertion → Assertion)
  | bound (params : List Parameter) (make : Taking Assertion)

/-- The name of the builder that handles a rule: blanks around the rule's name do not count, and
hyphens are underscores. -/
def builderName (rule : String) : String :=
  "assert_" ++ String.ofList
    ((Text.trimList rule.toList).map fun c => if c = '-' then '_' else c)

structure Vocabulary where
  builders : SortedMap Builder

namespace Vocabulary

def empty : Vocabulary := ⟨.empty⟩

def register (r : Vocabulary) (name : String) (b : Builder) : Vocabulary :=
  ⟨r.builders.insert name b⟩

def install (r : Vocabulary) (builders : List (String × Builder)) : Vocabulary :=
  builders.foldl (fun r b => r.register b.1 b.2) r

def get? (r : Vocabulary) (name : String) : Option Builder := r.builders.get? name

def size (r : Vocabulary) : Nat := r.builders.size

def names (r : Vocabulary) : List String := r.builders.keys

/-- The vocabulary with its names in quotes. -/
def description (r : Vocabulary) : String :=
  "BuilderRegistry \x7b builders: [" ++ ", ".intercalate (r.names.map Text.quoted) ++ "] \x7d"

end Vocabulary

/-- The vocabularies of modules, the one registered last first. -/
structure ModuleTable where
  modules : List (Locator × Vocabulary) := []

namespace ModuleTable

/-- Registers a module; an earlier vocabulary of the locator is hidden. -/
def register (r : ModuleTable) (locator : Locator) (builders : Vocabulary) :
    ModuleTable :=
  ⟨(locator, builders) :: r.modules⟩

def resolve? (r : ModuleTable) (locator : Locator) : Option Vocabulary :=
  (r.modules.find? fun m => m.1 = locator).map (·.2)

end ModuleTable
end ErrorTriage
