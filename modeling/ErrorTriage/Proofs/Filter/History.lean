import ErrorTriage.Filter
import ErrorTriage.Proofs.Outcome

/-!
# Filter.History — what a captured error goes through, operation by operation

An error that was captured can be shown to filters and hooks, dismissed, and routed, in any order
and any number of times.  What an operation answers and what it decides hang on the error and on the
ambient value, which nothing changes, and never on what was decided before.  So the decision at the
end is the last one that was written.

What an operation writes is read off the assertion of its filter (`Operation.written?`), without
applying the filter to a state.
-/

namespace ErrorTriage

/-! ## What a filter decides -/

/-- The decision that is due to names of notifiers: to dismiss if all of them are blank, and
otherwise to route to those that are not, without the blanks around them. -/
inductive IsDueTo (names : List String) : Decision → Prop where
  | dismiss (hblank : ∀ name ∈ names, Text.trim name = "") : IsDueTo names .dismiss
  | route {notifiers : NameSet} (hsome : ∃ name ∈ names, Text.trim name ≠ "")
      (hnotifiers : ∀ n, notifiers.contains n = true ↔
        n ≠ "" ∧ ∃ name ∈ names, Text.trim name = n) :
      IsDueTo names (.route notifiers)

namespace EventFilter

/-- The notifiers of a filter are the trimmed names, without those that were blank. -/
theorem contains_notifierSet {names : List String} {n : String} :
    (notifierSet names).contains n = true ↔ n ≠ "" ∧ ∃ name ∈ names, Text.trim name = n := by
  simp [notifierSet, NameSet.contains_ofList, and_comm]

/-- The decision of a filter is due to its own notifiers. -/
theorem isDueTo_decision_of (a : Assertion) (names : List String) :
    IsDueTo names (of a names).decision := by
  by_cases hblank : ∀ name ∈ names, Text.trim name = ""
  · have hempty : (notifierSet names).isEmpty = true := by
      refine NameSet.isEmpty_eq_true_iff.2 ?_
      intro n
      refine Bool.eq_false_iff.2 fun hn => ?_
      rcases contains_notifierSet.1 hn with ⟨hne, name, hname, rfl⟩
      exact hne (hblank name hname)
    rw [decision, of, if_pos hempty]
    exact .dismiss hblank
  · have hsome : ∃ name ∈ names, Text.trim name ≠ "" := by simpa using hblank
    have hnonempty : ¬ (notifierSet names).isEmpty = true := by
      rcases hsome with ⟨name, hname, hne⟩
      intro hempty
      have hfound := contains_notifierSet.2 ⟨hne, name, hname, rfl⟩
      simp [NameSet.isEmpty_eq_true_iff.1 hempty] at hfound
    rw [decision, of, if_neg hnonempty]
    exact .route hsome fun n => contains_notifierSet

/-- The decision on what is evaluated against a root, if the filter matches. -/
def decisionFor? (f : EventFilter) (root : Value) : Option Decision :=
  match f.assertion.test root with
  | .ok true => some f.decision
  | _ => none

/-- A filter that decides on an error keeps it out of the log. -/
theorem isDismissed_of_decisionFor? {f : EventFilter} {root : Value} {d : Decision}
    (h : f.decisionFor? root = some d) : d.isDismissed = true := by
  simp only [decisionFor?, decision] at h
  split at h
  · cases h
    split <;> rfl
  · cases h

end EventFilter

namespace Filtering

/-- A captured error that nothing was decided about. -/
def fresh (error : CapturedError) (ambient : Value) : Filtering := ⟨error, ambient, .log⟩

/-- The state after a decision, if there is one. -/
def decideIfAny (s : Filtering) (d : Option Decision) : Filtering := d.elim s s.decide

theorem root_decideIfAny (s : Filtering) (d : Option Decision) :
    (s.decideIfAny d).root = s.root := by
  cases d <;> rfl

/-- Of two decisions the later one counts. -/
theorem decideIfAny_decideIfAny (s : Filtering) (first second : Option Decision) :
    (s.decideIfAny first).decideIfAny second = s.decideIfAny (second.or first) := by
  cases first <;> cases second <;> rfl

theorem captured_decideIfAny (s : Filtering) (d : Option Decision) :
    (s.decideIfAny d).error = s.error ∧ (s.decideIfAny d).ambient = s.ambient := by
  cases d <;> exact ⟨rfl, rfl⟩

theorem decision_decideIfAny (s : Filtering) (d : Option Decision) :
    (s.decideIfAny d).decision = d.getD s.decision := by
  cases d <;> rfl

end Filtering

/-! ## One operation -/

/-- A filter answers what its assertion comes to, and decides only if it matches. -/
theorem EventFilter.apply_eq (f : EventFilter) (s : Filtering) :
    f.apply s = (f.assertion.test s.root, s.decideIfAny (f.decisionFor? s.root)) := by
  simp only [apply, outcome, decisionFor?]
  cases f.assertion.test s.root with
  | error e => rfl
  | ok b => cases b <;> rfl

/-- A hook changes what its filter changes. -/
theorem applyIfAny_eq (f : Option EventFilter) (s : Filtering) :
    applyIfAny f s =
      (match f with
        | some f => (f.assertion.test s.root).map fun _ => ()
        | none => .ok (),
        s.decideIfAny (f.bind fun f => f.decisionFor? s.root)) := by
  cases f with
  | none => rfl
  | some f =>
      simp only [applyIfAny, EventFilter.apply_eq]
      rfl

namespace Filtering

/-- What can be done with an error. -/
inductive Operation where
  | test (f : EventFilter)
  /-- A hook is called; one without a filter is disabled. -/
  | hook (f : Option EventFilter)
  | dismiss
  | route (notifiers : NameSet)

inductive Answer where
  | matched (result : Except EvaluationError Bool)
  /-- Whether the filter of a hook could be evaluated. -/
  | evaluated (result : Except EvaluationError Unit)
  | silent

namespace Operation

def perform : Operation → Filtering → Answer × Filtering
  | .test f, s => (.matched (f.apply s).1, (f.apply s).2)
  | .hook f, s => (.evaluated (applyIfAny f s).1, (applyIfAny f s).2)
  | .dismiss, s => (.silent, s.decide .dismiss)
  | .route notifiers, s => (.silent, s.decide (.route notifiers))

/-- What an operation answers for a root of evaluation. -/
def answer (root : Value) : Operation → Answer
  | .test f => .matched (f.assertion.test root)
  | .hook (some f) => .evaluated ((f.assertion.test root).map fun _ => ())
  | .hook none => .evaluated (.ok ())
  | .dismiss => .silent
  | .route _ => .silent

/-- The decision that an operation writes for a root of evaluation, if it writes one. -/
def written? (root : Value) : Operation → Option Decision
  | .test f => f.decisionFor? root
  | .hook f => f.bind fun f => f.decisionFor? root
  | .dismiss => some .dismiss
  | .route notifiers => some (.route notifiers)

/-- An operation answers by the error alone, and at most writes a decision. -/
theorem perform_eq (op : Operation) (s : Filtering) :
    op.perform s = (op.answer s.root, s.decideIfAny (op.written? s.root)) := by
  cases op with
  | test f => simp only [perform, EventFilter.apply_eq, answer, written?]
  | hook f =>
      simp only [perform, applyIfAny_eq, written?]
      cases f <;> rfl
  | dismiss => rfl
  | route notifiers => rfl

/-- No operation writes that an error is to be logged. -/
theorem isDismissed_of_written? {op : Operation} {root : Value} {d : Decision}
    (h : op.written? root = some d) : d.isDismissed = true := by
  cases op with
  | test f => exact EventFilter.isDismissed_of_decisionFor? h
  | hook f =>
      rcases Option.bind_eq_some_iff.1 h with ⟨_, _, hfilter⟩
      exact EventFilter.isDismissed_of_decisionFor? hfilter
  | dismiss =>
      cases h
      rfl
  | route notifiers =>
      cases h
      rfl

end Operation

/-! ## Many operations -/

/-- Does operations one after another; their answers are in order. -/
def performAll : List Operation → Filtering → List Answer × Filtering
  | [], s => ([], s)
  | op :: rest, s =>
    let (answer, s) := op.perform s
    let (answers, s) := performAll rest s
    (answer :: answers, s)

/-- The last decision that operations write for a root of evaluation. -/
def lastWritten? (root : Value) (ops : List Operation) : Option Decision :=
  (ops.filterMap (Operation.written? root)).getLast?

/-- A later operation that decides takes the place of an earlier one. -/
theorem lastWritten?_cons (root : Value) (op : Operation) (rest : List Operation) :
    lastWritten? root (op :: rest) = (lastWritten? root rest).or (op.written? root) := by
  cases h : op.written? root with
  | none => simp [lastWritten?, h]
  | some d => simp [lastWritten?, h, List.getLast?_cons, Option.or_some]

/-- The step lemma carried through a list: the root of evaluation is that of the first state all
along, so answers and decisions can be read off it. -/
theorem performAll_eq (ops : List Operation) (s : Filtering) :
    performAll ops s =
      (ops.map (Operation.answer s.root), s.decideIfAny (lastWritten? s.root ops)) := by
  induction ops generalizing s with
  | nil => rfl
  | cons op rest ih =>
      simp only [performAll, Operation.perform_eq, ih, root_decideIfAny, decideIfAny_decideIfAny,
        lastWritten?_cons, List.map_cons]

/-- Whatever was decided last keeps the error out of the log. -/
theorem isDismissed_of_lastWritten? {root : Value} {ops : List Operation} {d : Decision}
    (h : lastWritten? root ops = some d) : d.isDismissed = true := by
  have hmem : d ∈ ops.filterMap (Operation.written? root) := List.mem_of_getLast? h
  rcases List.mem_filterMap.1 hmem with ⟨op, _, hop⟩
  exact Operation.isDismissed_of_written? hop

/-- Once an error is dismissed, no operation brings it back. -/
theorem isDismissed_performAll {s : Filtering} (h : s.decision.isDismissed = true)
    (ops : List Operation) : (performAll ops s).2.decision.isDismissed = true := by
  simp only [performAll_eq, decision_decideIfAny]
  cases hlast : lastWritten? s.root ops with
  | none => exact h
  | some d => exact isDismissed_of_lastWritten? hlast

/-- Nothing is decided exactly if no operation decides. -/
theorem lastWritten?_eq_none_iff {root : Value} {ops : List Operation} :
    lastWritten? root ops = none ↔ ∀ op ∈ ops, op.written? root = none := by
  simp [lastWritten?]

/-- Nobody hears of an error that is dismissed, everybody of one that nothing was written about. -/
theorem notifies_getD_lastWritten? {root : Value} {ops : List Operation} {name : String} :
    ((lastWritten? root ops).getD .log).notifies name = true ↔
      (∀ op ∈ ops, op.written? root = none) ∨
        ∃ notifiers, lastWritten? root ops = some (.route notifiers) ∧
          notifiers.contains name = true := by
  rw [← lastWritten?_eq_none_iff]
  -- What was written is never that everybody hears of the error.
  cases hlast : lastWritten? root ops with
  | none => simp [Decision.notifies]
  | some d =>
      have hdismissed := isDismissed_of_lastWritten? hlast
      cases d with
      | log => cases hdismissed
      | dismiss => simp [Decision.notifies]
      | route notifiers => simp [Decision.notifies]

/-- Of a history of operations on a fresh error: what was captured stays as it is; each operation
answers, and each filter would answer at its end, what the assertion comes to on the captured error;
the decision is the last that was written.  A filter that does not match or fails changes nothing,
and its error is handed on as it is; one that matches writes what is due to its notifiers.  An error
that was dismissed stays dismissed. -/
theorem history_of_operations {error : CapturedError} {ambient : Value} {ops : List Operation}
    {answers : List Answer} {reached : Filtering}
    (h : performAll ops (fresh error ambient) = (answers, reached)) :
    (reached.error = error ∧ reached.ambient = ambient) ∧
    answers = ops.map (Operation.answer (evaluationRoot error ambient)) ∧
    (∀ f : EventFilter, (f.apply reached).1 = f.assertion.test (evaluationRoot error ambient)) ∧
    reached.decision = (lastWritten? (evaluationRoot error ambient) ops).getD .log ∧
    (∀ f : EventFilter,
      match f.assertion.test (evaluationRoot error ambient) with
      | .ok true =>
        f.apply reached = (.ok true, reached.decide f.decision) ∧
          applyIfAny (some f) reached = (.ok (), reached.decide f.decision)
      | .ok false =>
        f.apply reached = (.ok false, reached) ∧ applyIfAny (some f) reached = (.ok (), reached)
      | .error e =>
        f.apply reached = (.error e, reached) ∧ applyIfAny (some f) reached = (.error e, reached)) ∧
    applyIfAny none reached = (.ok (), reached) ∧
    (∀ a names, IsDueTo names (EventFilter.of a names).decision) ∧
    (reached.decision.isDismissed = true →
      ∀ more, (performAll more reached).2.decision.isDismissed = true) ∧
    ∀ name, reached.decision.notifies name = true ↔
      (∀ op ∈ ops, op.written? (evaluationRoot error ambient) = none) ∨
        ∃ notifiers, lastWritten? (evaluationRoot error ambient) ops = some (.route notifiers) ∧
          notifiers.contains name = true := by
  have hperformed := (performAll_eq ops (fresh error ambient)).symm.trans h
  have hanswers : ops.map (Operation.answer (evaluationRoot error ambient)) = answers :=
    congrArg Prod.fst hperformed
  have hreached : (fresh error ambient).decideIfAny
      (lastWritten? (evaluationRoot error ambient) ops) = reached := congrArg Prod.snd hperformed
  have hroot : reached.root = evaluationRoot error ambient := by
    rw [← hreached, root_decideIfAny]
    rfl
  have hdecision : reached.decision =
      (lastWritten? (evaluationRoot error ambient) ops).getD .log := by
    rw [← hreached, decision_decideIfAny]
    rfl
  refine ⟨?_, hanswers.symm, ?_, hdecision, ?_, rfl, EventFilter.isDueTo_decision_of,
    isDismissed_performAll, ?_⟩
  · rw [← hreached]
    exact captured_decideIfAny _ _
  · intro f
    rw [EventFilter.apply_eq, hroot]
  · intro f
    have happly := f.apply_eq reached
    have hhook := applyIfAny_eq (some f) reached
    simp only [EventFilter.decisionFor?, Option.bind_some, hroot] at happly hhook
    cases htest : f.assertion.test (evaluationRoot error ambient) with
    | error e =>
        simp only [htest] at happly hhook
        exact ⟨happly, hhook⟩
    | ok b =>
        simp only [htest] at happly hhook
        cases b <;> exact ⟨happly, hhook⟩
  · intro name
    rw [hdecision]
    exact notifies_getD_lastWritten?

/-- A filter of errors that have a status. -/
def statusFilter : EventFilter :=
  .of (.not (.isNull
    (.path ⟨"Exception.HttpCode", [.member "Exception", .member "HttpCode"], false⟩))) ["mail ", " "]

/-- A filter that cannot be evaluated. -/
def brokenFilter : EventFilter :=
  .of (.isNull (.computed "down" fun _ => .error (.expression "down"))) ["pager"]

/-- An error is dismissed, met by a filter that fails and by a disabled hook, and then routed by a
hook whose filter matches; a filter that fails again leaves it routed. -/
theorem history_of_missing_page :
    ∃ answers reached,
      performAll [.dismiss, .test brokenFilter, .hook none, .hook (some statusFilter),
        .hook (some brokenFilter)] (fresh (.ofStatus 404 "no page") .null) = (answers, reached) ∧
      reached.error = .ofStatus 404 "no page" ∧
      reached.decision = .route (.ofList ["mail"]) ∧
      reached.decision.isDismissed = true ∧
      ∀ more, (performAll more reached).2.decision.isDismissed = true := by
  rcases hperformed : performAll [.dismiss, .test brokenFilter, .hook none,
    .hook (some statusFilter), .hook (some brokenFilter)] (fresh (.ofStatus 404 "no page") .null)
    with ⟨answers, reached⟩
  rcases history_of_operations hperformed with ⟨hcaptured, _, _, hdecision, _, _, _, hstays, _⟩
  have hrouted : reached.decision = .route (.ofList ["mail"]) := by
    rw [hdecision]
    decide +kernel
  have hdismissed : reached.decision.isDismissed = true := by
    rw [hrouted]
    rfl
  exact ⟨answers, reached, rfl, hcaptured.1, hrouted, hdismissed, hstays hdismissed⟩

end Filtering
end ErrorTriage
