import ErrorTriage.Json.Writer
import ErrorTriage.Text.Blank

/-!
# Rule.Node — rules as they are configured

A rule is a named node with attributes and with children: rules, comments and texts.  The name may
be qualified by the locator of the module that knows the rule.  A node is read from a record that
has no fields but its own, or from an array of its fields; values of attributes may be written as
texts, numbers or truth values and are kept as text.

A child is the first of these that it can be: a node, a comment, a text.
-/

namespace ErrorTriage

inductive RuleContent (α : Type) where
  | element (node : α)
  | comment (text : String)
  | text (text : String)
deriving DecidableEq, Repr

structure RuleNode where
  name : String
  /-- The locator of the module that knows the rule. -/
  locator : Option String := none
  attributes : SortedMap String := .empty
  /-- The contents, in the order of the document. -/
  children : List (RuleContent RuleNode) := []

namespace RuleNode

/-! ## Building -/

def withAttribute (n : RuleNode) (name value : String) : RuleNode :=
  { n with attributes := n.attributes.insert name value }

def withChild (n : RuleNode) (child : RuleContent RuleNode) : RuleNode :=
  { n with children := n.children ++ [child] }

def inModule (n : RuleNode) (locator : String) : RuleNode :=
  { n with locator := some locator }

/-! ## Contents -/

def elementsOf : List (RuleContent RuleNode) → List RuleNode
  | [] => []
  | .element n :: rest => n :: elementsOf rest
  | .comment _ :: rest => elementsOf rest
  | .text _ :: rest => elementsOf rest

def elements (n : RuleNode) : List RuleNode := elementsOf n.children

def textsOf : List (RuleContent RuleNode) → List String
  | [] => []
  | .element _ :: rest => textsOf rest
  | .comment _ :: rest => textsOf rest
  | .text s :: rest => s :: textsOf rest

/-- The texts under a node as one, without the blanks around it. -/
def innerText (n : RuleNode) : String :=
  Text.trim ("".intercalate (textsOf n.children))

/-- The value of a parameter: that of the attribute of the name, or else the text of the first
rule of the name under the node. -/
def parameter? (n : RuleNode) (name : String) : Option String :=
  match n.attributes.get? name with
  | some value => some value
  | none => (n.elements.find? fun child => child.name = name).map innerText

/-- The first text among contents that is not blank. -/
def strayTextOf? : List (RuleContent RuleNode) → Option String
  | [] => none
  | .element _ :: rest => strayTextOf? rest
  | .comment _ :: rest => strayTextOf? rest
  | .text s :: rest => if Text.isBlankText s then strayTextOf? rest else some s

/-- The first text under a node that is not blank. -/
def strayText? (n : RuleNode) : Option String := strayTextOf? n.children

/-! ## Reading -/

/-- The text of an attribute's value; infinities and NaN have none. -/
def attributeText? : Json → Option String
  | .string s => some s
  | .number (.int n) => some (JsonNumber.int n).text
  | .number (.float x) => if x.isFinite then some (JsonNumber.float x).text else none
  | .bool b => some (if b then "true" else "false")
  | _ => none

def attributesOf? : Json → Option (SortedMap String)
  | .object members =>
    (members.mapM fun (m : String × Json) => (attributeText? m.2).map fun s => (m.1, s)).map
      SortedMap.ofList
  | _ => none

/-- The comment that an object holds; other members are passed over. -/
def commentOf? (members : List (String × Json)) : Option String :=
  (SortedMap.lookup "comment" members).bind Json.string?

structure Draft where
  name : Option String := none
  locator : Option String := none
  attributes : SortedMap String := .empty
  children : List (RuleContent RuleNode) := []

/-- The node of a complete draft; the name is needed. -/
def Draft.finish (d : Draft) : Option RuleNode :=
  d.name.map fun name => ⟨name, d.locator, d.attributes, d.children⟩

/-- The fields of a node, in the order in which an array lists them. -/
def fieldNames : List String := ["name", "namespace", "attributes", "children"]

mutual

/-- Reads a node from an object or from an array of its fields. -/
def ofJson? : Json → Option RuleNode
  | .object members => (readMembers members {}).bind Draft.finish
  | .array items => (readItems fieldNames items {}).bind Draft.finish
  | _ => none

def readMembers : List (String × Json) → Draft → Option Draft
  | [], d => some d
  | (name, value) :: rest, d => (readField name value d).bind (readMembers rest)

def readItems : List String → List Json → Draft → Option Draft
  | _, [], d => some d
  | [], _ :: _, _ => none
  | name :: names, value :: rest, d => (readField name value d).bind (readItems names rest)

/-- Reads one field; there are no others. -/
def readField (name : String) (value : Json) (d : Draft) : Option Draft :=
  if name = "name" then value.string?.map fun s => { d with name := some s }
  else if name = "namespace" then
    (value.nullable? Json.string?).map fun s => { d with locator := s }
  else if name = "attributes" then (attributesOf? value).map fun a => { d with attributes := a }
  else if name = "children" then
    match value with
    | .array items => (readContents items).map fun c => { d with children := c }
    | _ => none
  else none

def readContents : List Json → Option (List (RuleContent RuleNode))
  | [] => some []
  | item :: rest => (readContent item).bind fun c => (readContents rest).map fun cs => c :: cs

def readContent : Json → Option (RuleContent RuleNode)
  | .object members =>
    match (readMembers members {}).bind Draft.finish with
    | some n => some (.element n)
    -- What is no node may still be a comment, whatever else it holds.
    | none => (commentOf? members).map .comment
  | .array items => ((readItems fieldNames items {}).bind Draft.finish).map .element
  | .string s => some (.text s)
  | _ => none

end

/-! ## Writing -/

mutual

def toJson : RuleNode → Json
  | ⟨name, locator, attributes, children⟩ =>
    .object ([("name", .string name)]
      ++ (match locator with
        | some text => [("namespace", .string text)]
        | none => [])
      ++ [("attributes", .object (attributes.entries.map fun e => (e.1, .string e.2))),
        ("children", .array (contentsJson children))])

def contentsJson : List (RuleContent RuleNode) → List Json
  | [] => []
  | .element n :: rest => toJson n :: contentsJson rest
  | .comment s :: rest => .object [("comment", .string s)] :: contentsJson rest
  | .text s :: rest => .string s :: contentsJson rest

end

end RuleNode
end ErrorTriage
