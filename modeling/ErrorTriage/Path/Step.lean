import ErrorTriage.Value

/-!
# Path.Step — the steps of a path and the two modes of walking them

A step looks a value up by member name or by index.  In the strict mode a step that finds nothing
is a binding error that names the step; in the lenient mode it yields null.  A step from null is an
error in itself, so the lenient walk guards every step by a test for null.
-/

namespace ErrorTriage

inductive Step where
  | member (name : String)
  | index (i : Index)
deriving DecidableEq, Repr

def Step.text : Step → String
  | .member name => "." ++ name
  | .index i => "[" ++ i.text ++ "]"

/-- A strict look-up that found nothing. -/
inductive LookupError where
  | nullReference (step : Step)
  | missingMember (typeName member : String)
  | missingIndexer (typeName : String) (index : Index)
deriving DecidableEq, Repr

/-- The wording of a binding error; a member step is named without its point. -/
def LookupError.message : LookupError → String
  | .nullReference step =>
    let name := match step with
      | .member name => name
      | .index _ => step.text
    "Cannot evaluate '" ++ name ++ "' because the value it is applied to is null"
  | .missingMember typeName member =>
    "Type '" ++ typeName ++ "' does not have a member named '" ++ member ++ "'"
  | .missingIndexer typeName index =>
    "Type '" ++ typeName ++ "' has no indexer accepting " ++ index.text

namespace Value

/-- The item of a list at a position, counted from zero. -/
def itemAt {α : Type} (items : List α) (i : Int) : Option α :=
  if 0 ≤ i then items[i.toNat]? else none

/-- The member of a value.  Texts know their length in characters, lists their length. -/
def member? : Value → String → Option Value
  | .object _ _ _ member _, name => member name
  | .str s, name => if name = "Length" then some (.int s.length) else none
  | .list items, name =>
    if name = "Length" ∨ name = "Count" then some (.int items.length) else none
  | _, _ => none

/-- The item of a value.  Lists and texts have items at their positions. -/
def item? : Value → Index → Option Value
  | .object _ _ _ _ item, i => item i
  | .list items, .int i => itemAt items i
  | .str s, .int i => (itemAt s.toList i).map fun c => .str c.toString
  | _, _ => none

def lookup? (v : Value) : Step → Option Value
  | .member name => v.member? name
  | .index i => v.item? i

/-- The error of a step that finds nothing on a value that is not null. -/
def missing (v : Value) : Step → LookupError
  | .member name => .missingMember v.typeName name
  | .index i => .missingIndexer v.typeName i

/-- One step.  From null it fails in either mode; from any other value a miss is an error in the
strict mode and null in the lenient one. -/
def follow (strict : Bool) (v : Value) (step : Step) : Except LookupError Value :=
  if v.isNull then .error (.nullReference step)
  else
    match v.lookup? step with
    | some found => .ok found
    | none => if strict then .error (v.missing step) else .ok .null

/-- Walks the steps.  The lenient walk stays at null once it is there, so it takes no step from
null. -/
def walk (strict : Bool) (v : Value) (steps : List Step) : Except LookupError Value :=
  steps.foldlM
    (fun current step =>
      if current.isNull && !strict then .ok .null else current.follow strict step) v

/-- Only numbers that are positions of the list have items. -/
theorem itemAt_eq_some_iff {α : Type} {items : List α} {i : Int} {a : α} :
    itemAt items i = some a ↔ ∃ position : Nat, i = position ∧ items[position]? = some a := by
  by_cases hi : 0 ≤ i
  · rcases Int.eq_ofNat_of_zero_le hi with ⟨position, rfl⟩
    simp only [itemAt, if_pos hi, Int.toNat_natCast, Int.natCast_inj, exists_eq_left']
  · simp only [itemAt, if_neg hi, reduceCtorEq, false_iff]
    rintro ⟨position, rfl, _⟩
    exact hi (Int.natCast_nonneg position)

/-- There is nothing before the first position and from the length on. -/
theorem itemAt_eq_none_iff {α : Type} {items : List α} {i : Int} :
    itemAt items i = none ↔ ¬(0 ≤ i ∧ i < items.length) := by
  by_cases hi : 0 ≤ i <;> simp [itemAt, hi]

/-- The items of a mapped list are those of the list, mapped. -/
theorem itemAt_map {α β : Type} (f : α → β) (items : List α) (i : Int) :
    itemAt (items.map f) i = (itemAt items i).map f := by
  by_cases hi : 0 ≤ i <;> simp [itemAt, hi]

theorem lookup?_list_position (items : List Value) (i : Int) :
    (Value.list items).lookup? (.index (.int i)) = itemAt items i := rfl

theorem lookup?_text_position (s : String) (i : Int) :
    (Value.str s).lookup? (.index (.int i)) =
      (itemAt s.toList i).map fun c => .str c.toString := rfl

/-- No step finds anything on null. -/
@[simp] theorem lookup?_null (step : Step) : lookup? .null step = none := by
  cases step <;> rfl

@[simp] theorem walk_nil (strict : Bool) (v : Value) : v.walk strict [] = .ok v := rfl

/-- The strict walk takes its first step and goes on from there. -/
theorem walk_strict_cons (v : Value) (step : Step) (steps : List Step) :
    v.walk true (step :: steps) = (v.follow true step).bind fun next => next.walk true steps := by
  simp [walk, bind]

/-- The lenient walk stays at null, and takes its first step from anything else. -/
theorem walk_lenient_cons (v : Value) (step : Step) (steps : List Step) :
    v.walk false (step :: steps) =
      if v.isNull then Value.null.walk false steps
      else (v.follow false step).bind fun next => next.walk false steps := by
  cases h : v.isNull <;> simp [walk, bind, h, Except.bind]

end Value
end ErrorTriage
