import ErrorTriage.Path.Basic
import ErrorTriage.Proofs.Outcome

/-!
# Path.Modes — the lenient walk is the strict walk with its failures read as null

The two modes are compared over every root and every list of steps.  The strict walk fails at one
step only: the steps before it lead to a value on which that step finds nothing, and the error is
the one that `blame` reads off that value and that step.  The same is said of the three ways to
walk a path that is given as a text.
-/

namespace ErrorTriage
namespace Value

/-! ## One step -/

/-- The error that a step without a result stands for. -/
def blame : Value → Step → LookupError
  | .null, step => .nullReference step
  | v, .member name => .missingMember v.typeName name
  | v, .index i => .missingIndexer v.typeName i

theorem blame_of_not_null {v : Value} (h : v.isNull = false) (step : Step) :
    v.blame step = v.missing step := by
  cases v with
  | null => simp at h
  | _ => cases step <;> rfl

theorem follow_of_lookup?_eq_some {v found : Value} {step : Step}
    (h : v.lookup? step = some found) (strict : Bool) :
    v.follow strict step = .ok found := by
  cases hnull : v.isNull with
  | true =>
      simp only [isNull_eq_true_iff.1 hnull] at h
      simp at h
  | false => simp [follow, hnull, h]

theorem follow_strict_of_lookup?_eq_none {v : Value} {step : Step}
    (h : v.lookup? step = none) : v.follow true step = .error (v.blame step) := by
  cases hnull : v.isNull with
  | true =>
      simp only [isNull_eq_true_iff.1 hnull]
      rfl
  | false => simp [follow, hnull, h, blame_of_not_null hnull]

/-- A lenient step that finds nothing gives null. -/
theorem follow_lenient_of_lookup?_eq_none {v : Value} {step : Step} (hnull : v.isNull = false)
    (h : v.lookup? step = none) : v.follow false step = .ok .null := by
  simp [follow, hnull, h]

/-! ## Many steps -/

/-- From null the lenient walk does not get away. -/
theorem walk_lenient_null (steps : List Step) : Value.null.walk false steps = .ok .null := by
  induction steps with
  | nil => rfl
  | cons step rest ih => simpa [walk_lenient_cons] using ih

/-- A step that finds something is taken alike in both modes. -/
theorem walk_cons_of_lookup?_eq_some {v found : Value} {step : Step}
    (h : v.lookup? step = some found) (strict : Bool) (rest : List Step) :
    v.walk strict (step :: rest) = found.walk strict rest := by
  cases strict with
  | true => simp [walk_strict_cons, follow_of_lookup?_eq_some h, Except.bind]
  | false =>
      have hnull : v.isNull = false := by
        cases v with
        | null => simp at h
        | _ => rfl
      simp [walk_lenient_cons, hnull, follow_of_lookup?_eq_some h, Except.bind]

/-- The strict walk fails at its first step that finds nothing. -/
theorem walk_strict_cons_of_lookup?_eq_none {v : Value} {step : Step}
    (h : v.lookup? step = none) (rest : List Step) :
    v.walk true (step :: rest) = .error (v.blame step) := by
  simp [walk_strict_cons, follow_strict_of_lookup?_eq_none h, Except.bind]

/-- Once a step finds nothing, no later one recovers from it. -/
theorem walk_lenient_cons_of_lookup?_eq_none {v : Value} {step : Step}
    (h : v.lookup? step = none) (rest : List Step) :
    v.walk false (step :: rest) = .ok .null := by
  simp only [walk_lenient_cons]
  cases hnull : v.isNull with
  | true => simpa using walk_lenient_null rest
  | false =>
      simpa [follow_lenient_of_lookup?_eq_none hnull h, Except.bind] using walk_lenient_null rest

/-- What is left of a strict outcome when its failures count as null. -/
def collapsed {ε : Type} : Except ε Value → Value
  | .ok v => v
  | .error _ => .null

/-- The lenient walk is the strict one with its failures read as null. -/
theorem walk_lenient_eq_collapsed (root : Value) (steps : List Step) :
    root.walk false steps = .ok (collapsed (root.walk true steps)) := by
  induction steps generalizing root with
  | nil => rfl
  | cons step rest ih =>
      cases h : root.lookup? step with
      | none =>
          simp only [walk_lenient_cons_of_lookup?_eq_none h, walk_strict_cons_of_lookup?_eq_none h]
          rfl
      | some found =>
          simp only [walk_cons_of_lookup?_eq_some h]
          exact ih found

/-! ## Where a strict walk fails -/

/-- The strict walk gets stuck at the step at a position: the steps before it lead to a value on
which it finds nothing. -/
structure StuckAt (root : Value) (steps : List Step) (position : Nat) (step : Step)
    (applied : Value) : Prop where
  step_at : steps[position]? = some step
  reaches : root.walk true (steps.take position) = .ok applied
  misses : applied.lookup? step = none

theorem not_stuckAt_nil {root applied : Value} {position : Nat} {step : Step} :
    ¬ StuckAt root [] position step applied := by
  intro h
  simpa using h.step_at

/-- A walk is stuck at its start exactly if its first step finds nothing there. -/
theorem stuckAt_cons_zero {root applied : Value} {head step : Step} {rest : List Step} :
    StuckAt root (head :: rest) 0 step applied ↔
      step = head ∧ applied = root ∧ root.lookup? head = none := by
  constructor
  · intro h
    have hstep : head = step := by simpa using h.step_at
    have hroot : root = applied := by simpa using h.reaches
    subst hstep hroot
    exact ⟨rfl, rfl, h.misses⟩
  · rintro ⟨rfl, rfl, h⟩
    exact ⟨rfl, rfl, h⟩

/-- A walk that gets stuck behind its first step took that step. -/
theorem stuckAt_cons_succ {root applied : Value} {head step : Step} {rest : List Step}
    {position : Nat} :
    StuckAt root (head :: rest) (position + 1) step applied ↔
      ∃ found, root.lookup? head = some found ∧ StuckAt found rest position step applied := by
  constructor
  · intro h
    have hreach : root.walk true (head :: rest.take position) = .ok applied := h.reaches
    cases hfound : root.lookup? head with
    | none =>
        simp only [walk_strict_cons_of_lookup?_eq_none hfound] at hreach
        cases hreach
    | some found =>
        simp only [walk_cons_of_lookup?_eq_some hfound] at hreach
        exact ⟨found, rfl, by simpa using h.step_at, hreach, h.misses⟩
  · rintro ⟨found, hfound, h⟩
    refine ⟨by simpa using h.step_at, ?_, h.misses⟩
    have hreach := walk_cons_of_lookup?_eq_some hfound true (rest.take position)
    exact hreach.trans h.reaches

/-- A walk gets stuck at one position at most. -/
theorem StuckAt.position_unique {root v w : Value} {steps : List Step} {j k : Nat} {s t : Step}
    (hj : StuckAt root steps j s v) (hk : StuckAt root steps k t w) : j = k := by
  induction steps generalizing root j k with
  | nil => exact absurd hj not_stuckAt_nil
  | cons head rest ih =>
      cases j with
      | zero =>
          have hnone := (stuckAt_cons_zero.1 hj).2.2
          cases k with
          | zero => rfl
          | succ k =>
              rcases stuckAt_cons_succ.1 hk with ⟨found, hfound, _⟩
              have hsame := hnone.symm.trans hfound
              cases hsame
      | succ j =>
          rcases stuckAt_cons_succ.1 hj with ⟨found, hfound, hj'⟩
          cases k with
          | zero =>
              have hnone := (stuckAt_cons_zero.1 hk).2.2
              have hsame := hnone.symm.trans hfound
              cases hsame
          | succ k =>
              rcases stuckAt_cons_succ.1 hk with ⟨found', hfound', hk'⟩
              simp only [hfound] at hfound'
              cases hfound'
              simp only [ih hj' hk']

/-- The strict walk fails exactly where it is stuck, and blames what it was applied to. -/
theorem walk_strict_eq_error_iff (root : Value) (steps : List Step) (e : LookupError) :
    root.walk true steps = .error e ↔
      ∃ position step applied,
        StuckAt root steps position step applied ∧ e = applied.blame step := by
  induction steps generalizing root with
  | nil =>
      constructor
      · intro h
        cases h
      · rintro ⟨position, step, applied, h, _⟩
        exact absurd h not_stuckAt_nil
  | cons head rest ih =>
      cases hfound : root.lookup? head with
      | none =>
          simp only [walk_strict_cons_of_lookup?_eq_none hfound]
          constructor
          · intro h
            cases h
            exact ⟨0, head, root, stuckAt_cons_zero.2 ⟨rfl, rfl, hfound⟩, rfl⟩
          · rintro ⟨position, step, applied, h, rfl⟩
            cases position with
            | zero =>
                rcases stuckAt_cons_zero.1 h with ⟨rfl, rfl, _⟩
                rfl
            | succ position =>
                rcases stuckAt_cons_succ.1 h with ⟨found, hsome, _⟩
                have hsame := hfound.symm.trans hsome
                cases hsame
      | some found =>
          simp only [walk_cons_of_lookup?_eq_some hfound, ih]
          constructor
          · rintro ⟨position, step, applied, h, he⟩
            exact ⟨position + 1, step, applied, stuckAt_cons_succ.2 ⟨found, hfound, h⟩, he⟩
          · rintro ⟨position, step, applied, h, he⟩
            cases position with
            | zero =>
                have hnone := (stuckAt_cons_zero.1 h).2.2
                have hsame := hfound.symm.trans hnone
                cases hsame
            | succ position =>
                rcases stuckAt_cons_succ.1 h with ⟨found', hsome, h'⟩
                have hsame := hfound.symm.trans hsome
                cases hsame
                exact ⟨position, step, applied, h', he⟩

/-! ## The two modes side by side -/

/-- A lenient and a strict outcome of one walk, the errors of which are written by `wrap`: the
lenient one is the strict one with every failure collapsed to null, and the strict one fails
where the walk gets stuck. -/
structure Collapses {ε : Type} (wrap : LookupError → ε) (root : Value) (steps : List Step)
    (lenient strict : Except ε Value) : Prop where
  total : ∃ v, lenient = .ok v
  agrees : ∀ v, strict = .ok v → lenient = .ok v
  collapses : ∀ e, strict = .error e → lenient = .ok .null
  fails_iff : ∀ e, strict = .error e ↔
    ∃ position step applied,
      StuckAt root steps position step applied ∧ e = wrap (applied.blame step)
  once : ∀ j k s t v w, StuckAt root steps j s v → StuckAt root steps k t w → j = k

theorem collapses_walk (root : Value) (steps : List Step) :
    Collapses id root steps (root.walk false steps) (root.walk true steps) := by
  refine ⟨⟨_, walk_lenient_eq_collapsed root steps⟩, ?_, ?_, ?_, ?_⟩
  · intro v h
    simp only [walk_lenient_eq_collapsed, h]
    rfl
  · intro e h
    simp only [walk_lenient_eq_collapsed, h]
    rfl
  · exact walk_strict_eq_error_iff root steps
  · intro j k s t v w hj hk
    exact hj.position_unique hk

/-- Writing the errors of a walk in another way keeps the relation of its modes. -/
theorem Collapses.mapError {ε : Type} {root : Value} {steps : List Step}
    {lenient strict : Except LookupError Value} (h : Collapses id root steps lenient strict)
    (wrap : LookupError → ε) :
    Collapses wrap root steps (lenient.mapError wrap) (strict.mapError wrap) := by
  rcases h.total with ⟨value, hvalue⟩
  refine ⟨⟨value, mapError_eq_ok_iff.2 hvalue⟩, ?_, ?_, ?_, h.once⟩
  · intro v hv
    exact mapError_eq_ok_iff.2 (h.agrees v (mapError_eq_ok_iff.1 hv))
  · intro e he
    rcases mapError_eq_error_iff.1 he with ⟨found, hfound, _⟩
    exact mapError_eq_ok_iff.2 (h.collapses found hfound)
  · intro e
    simp only [mapError_eq_error_iff]
    constructor
    · rintro ⟨found, hfound, rfl⟩
      rcases (h.fails_iff found).1 hfound with ⟨position, step, applied, hstuck, hblame⟩
      exact ⟨position, step, applied, hstuck, congrArg wrap hblame⟩
    · rintro ⟨position, step, applied, hstuck, rfl⟩
      exact ⟨_, (h.fails_iff _).2 ⟨position, step, applied, hstuck, rfl⟩, rfl⟩

/-! ## Paths given as texts -/

/-- A text that is a path is looked up by walking along its steps. -/
theorem atPath_of_readSteps_eq_ok {text : String} {steps : List Step}
    (h : Path.readSteps text = .ok steps) (root : Value) (strict : Bool) :
    root.atPath text strict = (root.walk strict steps).mapError .lookup := by
  simp only [atPath, h]
  cases root.walk strict steps <;> rfl

/-- Lenient evaluation is strict evaluation with every failure collapsed to null, for any steps and
for each way to walk the steps of a text.  A text that is no path is refused in both modes. -/
theorem lenient_walk_collapses_strict (root : Value) :
    (∀ steps, Collapses id root steps (root.walk false steps) (root.walk true steps)) ∧
    ∀ text, match Path.readSteps text with
      | .ok steps =>
        (∃ lenient strict, Path.read text false = .ok lenient ∧ Path.read text true = .ok strict ∧
          Collapses id root steps (lenient.evaluate root) (strict.evaluate root)) ∧
        (∃ lenient strict, Path.walker text false = .ok lenient ∧
          Path.walker text true = .ok strict ∧
          Collapses id root steps (lenient root) (strict root)) ∧
        Collapses PathError.lookup root steps (root.atPath text false) (root.atPath text true)
      | .error e =>
        ∀ strict, Path.read text strict = .error e ∧
          (∃ refused, Path.walker text strict = .error refused ∧ refused = e) ∧
          root.atPath text strict = .error (.format e) := by
  refine ⟨collapses_walk root, ?_⟩
  intro text
  cases h : Path.readSteps text with
  | error e =>
      intro strict
      refine ⟨?_, ⟨e, ?_, rfl⟩, ?_⟩
      · simp [Path.read, h, Except.map]
      · simp [Path.walker, h, Except.map]
      · simp [atPath, h]
  | ok steps =>
      have hwalk := collapses_walk root steps
      refine ⟨⟨⟨Text.trim text, steps, false⟩, ⟨Text.trim text, steps, true⟩, ?_, ?_, hwalk⟩,
        ⟨fun v => v.walk false steps, fun v => v.walk true steps, ?_, ?_, hwalk⟩, ?_⟩
      · simp [Path.read, h, Except.map]
      · simp [Path.read, h, Except.map]
      · simp [Path.walker, h, Except.map]
      · simp [Path.walker, h, Except.map]
      · simp only [atPath_of_readSteps_eq_ok h]
        exact hwalk.mapError PathError.lookup

end Value
end ErrorTriage
