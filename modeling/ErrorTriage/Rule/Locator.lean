import ErrorTriage.Text.Blank

/-!
# Rule.Locator — which module knows a rule

A locator is read from the last segments of a path.  Three forms are known: a namespace in the
host's module, a module that is its own namespace, and both.  The form with both comes first where
two would fit.
-/

namespace ErrorTriage

structure Locator where
  namespaceName : String
  moduleName : String
deriving DecidableEq, Repr

namespace Locator

/-- The module of a locator that names a namespace alone. -/
def hostModule : String := "host"

def withoutSlashes (cs : List Char) : List Char :=
  (cs.reverse.dropWhile (· = '/')).reverse

def segments (text : String) : List String :=
  (Text.splitAt '/' (withoutSlashes (Text.trimList text.toList))).map String.ofList

/-- The locator in segments, which are given from the last one on. -/
def ofReversed? : List String → Option Locator
  | last :: before :: "nsmodule" :: _ => some ⟨before, last⟩
  | last :: "ns" :: _ => some ⟨last, hostModule⟩
  | last :: "module" :: _ => some ⟨last, last⟩
  | _ => none

def ofText? (text : String) : Option Locator :=
  match ofReversed? (segments text).reverse with
  | some l => if l.namespaceName.isEmpty ∨ l.moduleName.isEmpty then none else some l
  | none => none

end Locator
end ErrorTriage
