import ErrorTriage.Rule.Standard

/-!
# Rule.Dialect — from rules to assertions

A dialect knows the rules, the modules and the types that a document may name; `build` makes the
assertion of a node.  Rules under a node are built only by a composite builder, in the order of the
document, and always by the dialect's own vocabulary unless they are qualified themselves.

The second half of the module says where building fails without building anything: `reached` lists
the nodes that building comes to, `defect?` says what is wrong with one of them by itself, and
`visited` ends the list at the first that is wrong.  `Proofs.Rule.Visited` proves that `build`
agrees: no listed node is wrong if it succeeds, and its error ends in the defect of the last one if
it fails.
-/

namespace ErrorTriage

/-- What a document of rules may name. -/
structure Dialect where
  /-- The rules that are not qualified. -/
  vocabulary : Vocabulary := .standard
  modules : ModuleTable := {}
  types : TypeTable := .standard

namespace Dialect

/-- The vocabulary that a node's builder is looked up in. -/
def vocabularyOf (d : Dialect) (node : RuleNode) : Except RuleError Vocabulary :=
  match node.locator with
  | none => .ok d.vocabulary
  | some text =>
    match Locator.ofText? text with
    | none => .error (.invalidLocator text)
    | some locator =>
      match d.modules.resolve? locator with
      | none => .error (.unresolvedModule locator)
      | some vocabulary => .ok vocabulary

def builderOf (d : Dialect) (node : RuleNode) : Except RuleError Builder :=
  match d.vocabularyOf node with
  | .error e => .error e
  | .ok vocabulary =>
    match vocabulary.get? (builderName node.name) with
    | some b => .ok b
    | none => .error (.missingBuilder node.name (builderName node.name))

/-- The error of the first text under a node that is not blank. -/
def unexpected? (node : RuleNode) : Option RuleError :=
  node.strayText?.map (.unexpectedContent node.name)

def makeBound (d : Dialect) (node : RuleNode) (params : List Parameter) (make : Taking Assertion) :
    Except RuleError Assertion :=
  match Bindings.bind d.types node params with
  | .error e => .error e
  | .ok args => make.runOn args

mutual

def build (d : Dialect) : RuleNode → Except RuleError Assertion
  | ⟨name, locator, attributes, children⟩ =>
    let node : RuleNode := ⟨name, locator, attributes, children⟩
    match d.builderOf node with
    | .error e => .error e
    | .ok (.leaf make) => (make node).mapError (.whileBuilding name)
    | .ok (.bound params make) => (d.makeBound node params make).mapError (.whileBuilding name)
    | .ok (.composite combine) =>
      match unexpected? node with
      | some e => .error (.whileBuilding name e)
      | none =>
        match d.buildAll children with
        | .ok assertions => .ok (combine assertions)
        | .error e => .error (.whileBuilding name e)

/-- Builds the assertions of the rules among contents, up to the first error. -/
def buildAll (d : Dialect) : List (RuleContent RuleNode) →
    Except RuleError (List Assertion)
  | [] => .ok []
  | .comment _ :: rest => d.buildAll rest
  | .text _ :: rest => d.buildAll rest
  | .element n :: rest =>
    match d.build n with
    | .error e => .error e
    | .ok a =>
      match d.buildAll rest with
      | .error e => .error e
      | .ok more => .ok (a :: more)

end

/-- Builds the assertions of the rules under a node, which may have blank texts besides them. -/
def buildUnder (d : Dialect) (node : RuleNode) : Except RuleError (List Assertion) :=
  match unexpected? node with
  | some e => .error e
  | none => d.buildAll node.children

/-! ## Where building fails -/

/-- Whether the rules under a node are built. -/
def descends (d : Dialect) (node : RuleNode) : Bool :=
  match d.builderOf node with
  | .ok (.composite _) => true
  | _ => false

/-- What is wrong with a node by itself, whatever the rules under it are. -/
def defect? (d : Dialect) (node : RuleNode) : Option RuleError :=
  let failed := fun (r : Except RuleError Assertion) =>
    match r with
    | .ok _ => none
    | .error e => some e
  match d.builderOf node with
  | .error e => some e
  | .ok (.leaf make) => failed (make node)
  | .ok (.bound params make) => failed (d.makeBound node params make)
  | .ok (.composite _) => unexpected? node

mutual

/-- The nodes that building comes to if none of them is wrong: a node before those under it. -/
def reached (d : Dialect) : RuleNode → List RuleNode
  | ⟨name, locator, attributes, children⟩ =>
    let node : RuleNode := ⟨name, locator, attributes, children⟩
    node :: if d.descends node then d.reachedAmong children else []

def reachedAmong (d : Dialect) : List (RuleContent RuleNode) → List RuleNode
  | [] => []
  | .element n :: rest => d.reached n ++ d.reachedAmong rest
  | .comment _ :: rest => d.reachedAmong rest
  | .text _ :: rest => d.reachedAmong rest

end

/-- A list up to its first item with a property, that item included. -/
def upTo {α : Type} (p : α → Bool) : List α → List α
  | [] => []
  | a :: rest => if p a then [a] else a :: upTo p rest

/-- The nodes that building comes to, ending at the first that is wrong. -/
def visited (d : Dialect) (node : RuleNode) : List RuleNode :=
  upTo (fun n => (d.defect? n).isSome) (d.reached node)

end Dialect
end ErrorTriage
