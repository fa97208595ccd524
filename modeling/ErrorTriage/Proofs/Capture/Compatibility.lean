import ErrorTriage.Capture.Event
import ErrorTriage.Proofs.Rule.Meaning

/-!
# Capture.Compatibility — the types that a captured error is compatible with

The base types of the listed types are written out in full, row by row.  Nothing in a row refers to
another one, so what is said of a base type in its own row has to be said again in every row that
names it.  The table keeps to that, which makes compatibility transitive: every name that an error
is assignable to brings its own names along, the unlisted ones only the common roots.

The names are compared as they stand, with their name spaces and blanks.  Only the row of a type is
looked up without them.
-/

namespace ErrorTriage
namespace Ancestry

/-! ## Rows of the table -/

variable {a b name : String} {row : String × List String}

/-- The bases of a type are those of its row, or none. -/
theorem basesOf_cases (short : String) :
    basesOf short = [] ∨ ∃ row ∈ knownBases, basesOf short = row.2 := by
  rw [basesOf]
  cases hrow : knownBases.find? fun row => row.1 == short with
  | none => exact .inl rfl
  | some row => exact .inr ⟨row, List.mem_of_find?_eq_some hrow, rfl⟩

/-- A row names the bases of each base that it names. -/
theorem basesOf_subset_of_mem_row (hrow : row ∈ knownBases) (hname : name ∈ row.2) :
    basesOf (shortName name) ⊆ row.2 := by
  have htable : ∀ row ∈ knownBases, ∀ name ∈ row.2,
      ∀ base ∈ basesOf (shortName name), base ∈ row.2 := by
    decide +kernel
  exact htable row hrow name hname

/-- The common roots have no further bases. -/
theorem basesOf_root (hname : name ∈ commonRoots) : basesOf (shortName name) = [] := by
  have hroots : ∀ name ∈ commonRoots, basesOf (shortName name) = [] := by decide +kernel
  exact hroots name hname

/-- In a row of the table no name stands twice, nor does a common root. -/
theorem nodup_row (hrow : row ∈ knownBases) : (row.2 ++ commonRoots).Nodup := by
  have htable : ∀ row ∈ knownBases, (row.2 ++ commonRoots).Nodup := by decide +kernel
  exact htable row hrow

/-! ## Names that an error is assignable to -/

/-- Every type is assignable to the common roots. -/
theorem root_mem_of (hname : name ∈ commonRoots) (typeName : String) : name ∈ of typeName :=
  List.mem_append_right _ hname

/-- A name brings the names that it is assignable to along. -/
theorem of_subset_of_mem (h : b ∈ of a) : of b ⊆ of a := by
  have hbases : basesOf (shortName b) ⊆ basesOf (shortName a) := by
    rcases List.mem_append.1 h with hbase | hroot
    · -- A base is named in the row of the type, which has to name its bases as well.
      rcases basesOf_cases (shortName a) with hnone | ⟨row, hrow, hbases⟩
      · rw [hnone] at hbase
        cases hbase
      · rw [hbases] at hbase ⊢
        exact basesOf_subset_of_mem_row hrow hbase
    · -- The roots have no rows, so they bring nothing but the roots along.
      rw [basesOf_root hroot]
      exact List.nil_subset _
  exact List.append_subset.2
    ⟨List.Subset.trans hbases (List.subset_append_left _ _), List.subset_append_right _ _⟩

/-- No name stands twice among the names that a type is assignable to. -/
theorem nodup_of (typeName : String) : (of typeName).Nodup := by
  rw [of]
  rcases basesOf_cases (shortName typeName) with hnone | ⟨row, hrow, hbases⟩
  · rw [hnone]
    decide +kernel
  · rw [hbases]
    exact nodup_row hrow

/-! ## Name spaces -/

/-- Points further in front do not matter. -/
theorem afterLastPoint_behind (front back : List Char) :
    afterLastPoint (front ++ '.' :: back) = afterLastPoint back := by
  have hpoint : ('.' :: front.reverse).takeWhile (· ≠ '.') = [] := by simp
  rw [afterLastPoint, List.reverse_append, List.reverse_cons, List.append_assoc,
    List.singleton_append, List.takeWhile_append, hpoint, List.append_nil]
  -- The text is read from its end: up to a point in the back, or through all of it to the point.
  split
  · next hall =>
      have hwhole := (List.takeWhile_prefix (· ≠ '.') (l := back.reverse)).eq_of_length hall
      rw [afterLastPoint, hwhole]
  · rfl

/-- A name space before the name of a type does not change its ancestry. -/
theorem of_qualified (space typeName : String) : of (space ++ "." ++ typeName) = of typeName := by
  have hlast :
      afterLastPoint (space ++ "." ++ typeName).toList = afterLastPoint typeName.toList := by
    simpa using afterLastPoint_behind space.toList typeName.toList
  rw [of, shortName, hlast]
  rfl

end Ancestry

namespace CapturedError

/-! ## Checks of compatibility -/

/-- An expression has an error of a type as its value, of whatever message, in a context that is not
null. -/
structure Captures (context : Value) (e : Expression) (typeName : String) : Prop where
  present : context.isNull = false
  captured : ∃ message, e.evaluate context = .ok (ofType typeName message).toValue

/-- The value of an expression passes the check for being compatible with the class of a name. -/
def Passes (context : Value) (e : Expression) (className : String) : Prop :=
  (Assertion.ofType (some e) ⟨className, .concrete⟩ true).test context = .ok true

variable {a b c : String} {context : Value} {e : Expression}

/-- The root of evaluation captures the error that it was made for. -/
theorem captures_root (typeName message : String) (ambient : Value) :
    Captures (evaluationRoot (ofType typeName message) ambient) .exception typeName :=
  ⟨rfl, message, rfl⟩

/-- An error passes a check for a class if it is of this class or descends from it. -/
theorem hasType_iff (a b message : String) :
    Assertion.hasType ⟨b, .concrete⟩ true (ofType a message).toValue = true ↔
      a = b ∨ b ∈ Ancestry.of a := by
  -- `Object` is tested on its own by a check, but it is among the roots of every type anyway.
  have hobject : b = "Object" → b ∈ Ancestry.of a := by
    rintro rfl
    exact Ancestry.root_mem_of (by decide) a
  simp only [Assertion.hasType, ofType, toValue, Value.isNull, Value.typeName, Value.ancestry,
    Bool.not_false, Bool.true_and, Bool.or_eq_true, beq_iff_eq, List.contains_iff_mem]
  exact or_congr_right (or_iff_right_of_imp hobject)

/-- Whether a check is passed depends on the two types alone. -/
theorem passes_iff (h : Captures context e a) : Passes context e b ↔ a = b ∨ b ∈ Ancestry.of a := by
  rcases h.captured with ⟨message, hvalue⟩
  have hsettles : Standard.Settles context (Assertion.ofType (some e) ⟨b, .concrete⟩ true)
      (Assertion.hasType ⟨b, .concrete⟩ true (ofType a message).toValue) := by
    rw [Standard.Settles, Assertion.ofType, Assertion.run]
    exact Standard.settles_evaluating hvalue _
  rw [Passes, Standard.test_of_settles hsettles h.present, Except.ok.injEq, hasType_iff]

/-- What passes for a class passes for all that errors of this class pass for. -/
theorem passes_trans {x y z : Value} {f g h : Expression} (hx : Captures x f a)
    (hy : Captures y g b) (hz : Captures z h a) (hab : Passes x f b) (hbc : Passes y g c) :
    Passes z h c := by
  rw [passes_iff hx] at hab
  rw [passes_iff hy] at hbc
  rw [passes_iff hz]
  -- Only where both names are other ones the table is needed.
  rcases hab with rfl | hab
  · exact hbc
  · rcases hbc with rfl | hbc
    · exact .inr hab
    · exact .inr (Ancestry.of_subset_of_mem hab hbc)

/-- Every error is compatible with its own type.  An error is compatible with whatever errors of a
type are compatible with that it is compatible with itself, wherever the errors are found: the root
has its own error for one, of any type and message and with anything around it.  The names that an
error is assignable to do not depend on its name space, end with the common roots, and are different
from each other. -/
theorem compatibility_is_reflexive_and_transitive :
    (∀ a message ambient, Captures (evaluationRoot (ofType a message) ambient) .exception a) ∧
    (∀ a context e, Captures context e a → Passes context e a) ∧
    (∀ a b c x y z f g h, Captures x f a → Captures y g b → Captures z h a →
      Passes x f b → Passes y g c → Passes z h c) ∧
    (∀ space typeName, Ancestry.of (space ++ "." ++ typeName) = Ancestry.of typeName) ∧
    ∀ typeName, (∃ bases, Ancestry.of typeName =
      bases ++ ["Exception", "ISerializable", "Object"]) ∧ (Ancestry.of typeName).Nodup := by
  refine ⟨captures_root, ?_, ?_, Ancestry.of_qualified, ?_⟩
  · intro a context e h
    exact (passes_iff h).2 (.inl rfl)
  · intro a b c x y z f g h
    exact passes_trans
  · intro typeName
    exact ⟨⟨_, rfl⟩, Ancestry.nodup_of typeName⟩

/-- The root for an error of a type, with nothing around it. -/
def rootOf (typeName : String) : Value := evaluationRoot (ofType typeName "") .null

/-- An unhandled error, named with its name space, is compatible with what a listed base type of it
is compatible with. -/
theorem compatibility_is_reflexive_and_transitive_unhandled :
    Captures (rootOf "System.Web.HttpUnhandledException") .exception
        "System.Web.HttpUnhandledException" ∧
      Captures (rootOf "HttpException") .exception "HttpException" ∧
      Passes (rootOf "System.Web.HttpUnhandledException") .exception "HttpException" ∧
      Passes (rootOf "HttpException") .exception "SystemException" ∧
      Passes (rootOf "System.Web.HttpUnhandledException") .exception "SystemException" := by
  rcases compatibility_is_reflexive_and_transitive with ⟨hroot, _, htrans, _⟩
  have hunhandled := hroot "System.Web.HttpUnhandledException" "" .null
  have hrequest := hroot "HttpException" "" .null
  have hfirst : Passes (rootOf "System.Web.HttpUnhandledException") .exception "HttpException" :=
    (passes_iff hunhandled).2 (.inr (by decide +kernel))
  have hsecond : Passes (rootOf "HttpException") .exception "SystemException" :=
    (passes_iff hrequest).2 (.inr (by decide +kernel))
  exact ⟨hunhandled, hrequest, hfirst, hsecond,
    htrans _ _ _ _ _ _ _ _ _ hunhandled hrequest hunhandled hfirst hsecond⟩

end CapturedError
end ErrorTriage
