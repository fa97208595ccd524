import ErrorTriage.Assertion.Basic

/-!
# Assertion.Connective — the boolean laws of lists of assertions, with failures and order

Lists of assertions are combined from the left, and a member that fails ends the test.  So the
connectives are compared as runs: the result, an error or a truth value, together with the
expressions that were evaluated for it.  The laws of De Morgan and the regrouping of a list hold in
this strong sense.  Reordering a list does not: it keeps the truth value of lists without a failing
member, but neither the errors nor the expressions that are evaluated.

A list that is empty never holds, which is why some laws speak of lists with a member.
-/

namespace ErrorTriage

/-! ## The connectives as one loop -/

namespace Connective

/-- The truth value of a member after which the next one is tested. -/
def passing : Connective → Bool
  | .all => true
  | .any => false
  | .none => false

/-- What a list comes to, given the truth value of the member that is tested last. -/
def verdict : Connective → Bool → Bool
  | .all, b => b
  | .any, b => b
  | .none, b => !b

/-- What does not let the next member be tested is the other truth value. -/
theorem eq_not_passing {mode : Connective} {b : Bool} (h : b ≠ mode.passing) :
    b = !mode.passing := by
  cases mode <;> cases b <;> simp_all [passing]

end Connective

namespace Run

variable {α : Type}

/-- What follows a truth value is compared for the two truth values. -/
theorem andThen_congr {r : Run Bool} {next next' : Bool → Run α} (htrue : next true = next' true)
    (hfalse : next false = next' false) : r.andThen next = r.andThen next' := by
  congr 1
  funext b
  cases b
  · exact hfalse
  · exact htrue

/-- Negating the result of a run twice changes nothing. -/
theorem andThen_not_not (r : Run Bool) :
    (r.andThen fun b => .done (!b)).andThen (fun b => .done (!b)) = r := by
  simp [andThen_assoc]

/-- After a run with a result, the trace of the next run is put behind its own. -/
theorem andThen_of_result_eq_ok {β : Type} {r : Run α} {a : α} (h : r.result = .ok a)
    (next : α → Run β) :
    r.andThen next = ⟨r.evaluated ++ (next a).evaluated, (next a).result⟩ := by
  simp [andThen, h]

end Run

namespace Assertion

variable {context : Value}

/-- Tests the members of a list from the left, up to the first after which the result is known. -/
def runEach (mode : Connective) (context : Value) : List Assertion → Run Bool
  | [] => .done (mode.verdict mode.passing)
  | a :: rest => (run context a).andThen fun b =>
      if b = mode.passing then runEach mode context rest else .done (mode.verdict b)

/-- Testing whether all hold goes on while members hold. -/
theorem runAll_eq_runEach (context : Value) (cs : List Assertion) :
    runAll context cs = runEach .all context cs := by
  induction cs with
  | nil => rfl
  | cons a rest ih =>
      simp only [runAll, runEach, ih]
      exact Run.andThen_congr rfl rfl

/-- Testing whether one holds goes on while members do not hold. -/
theorem runAny_eq_runEach (context : Value) (cs : List Assertion) :
    runAny context cs = runEach .any context cs := by
  induction cs with
  | nil => rfl
  | cons a rest ih =>
      simp only [runAny, runEach, ih]
      exact Run.andThen_congr rfl rfl

/-- Testing whether none holds goes on while members do not hold, with the other result. -/
theorem runNone_eq_runEach (context : Value) (cs : List Assertion) :
    runNone context cs = runEach .none context cs := by
  induction cs with
  | nil => rfl
  | cons a rest ih =>
      simp only [runNone, runEach, ih]
      exact Run.andThen_congr rfl rfl

/-- A list that is not empty is tested from the left. -/
theorem run_logical {cs : List Assertion} (h : cs ≠ []) (mode : Connective) :
    run context (.logical mode cs) = runEach mode context cs := by
  have hempty : cs.isEmpty = false := List.isEmpty_eq_false_iff.2 h
  cases mode with
  | all => simp [run, hempty, runAll_eq_runEach]
  | any => simp [run, hempty, runAny_eq_runEach]
  | none => simp [run, hempty, runNone_eq_runEach]

/-- A list of which one member has to hold may be empty: its loop ends as the empty list does. -/
theorem run_any (cs : List Assertion) :
    run context (.logical .any cs) = runEach .any context cs := by
  cases cs with
  | nil => rfl
  | cons a rest => exact run_logical (List.cons_ne_nil a rest) .any

/-- Only a null context is refused before testing begins. -/
theorem trace_eq_run (h : context.isNull = false) (a : Assertion) :
    a.trace context = a.run context := by
  simp [trace, h]

/-! ## De Morgan -/

/-- None of a list holds if the negations of all hold, and the same members are tested for it. -/
theorem runEach_none_eq_all_not (cs : List Assertion) :
    runEach .none context cs = runEach .all context (cs.map .not) := by
  induction cs with
  | nil => rfl
  | cons a rest ih =>
      simp only [List.map_cons, runEach, run, Run.andThen_assoc, Run.done_andThen, ih]
      exact Run.andThen_congr rfl rfl

/-- The two loops stop at the same member and read its truth value in opposite ways. -/
theorem runEach_none_eq_not_any (cs : List Assertion) :
    runEach .none context cs = (runEach .any context cs).andThen fun b => .done (!b) := by
  induction cs with
  | nil => rfl
  | cons a rest ih =>
      simp only [runEach, Run.andThen_assoc, ih]
      exact Run.andThen_congr rfl rfl

/-- One of a list holds if it is not so that none holds, and the same members are tested for it. -/
theorem runEach_any_eq_not_none (cs : List Assertion) :
    runEach .any context cs = (runEach .none context cs).andThen fun b => .done (!b) := by
  rw [runEach_none_eq_not_any, Run.andThen_not_not]

/-- The combination by none is the one by all of the negations, also of an empty list. -/
theorem run_none_eq_all_not (cs : List Assertion) :
    run context (.logical .none cs) = run context (.logical .all (cs.map .not)) := by
  cases cs with
  | nil => rfl
  | cons a rest =>
      have hmapped : (a :: rest).map Assertion.not ≠ [] := by simp
      rw [run_logical (List.cons_ne_nil a rest), run_logical hmapped, runEach_none_eq_all_not]

/-- Unless the list is empty, the combination by none is the negation of that by any. -/
theorem run_none_eq_not_any {cs : List Assertion} (h : cs ≠ []) :
    run context (.logical .none cs) = run context (.not (.logical .any cs)) := by
  rw [run_logical h, runEach_none_eq_not_any, run, run_logical h]

/-- Unless the list is empty, the combination by any is the negation of the one by all of the
negations. -/
theorem run_any_eq_not_all_not {cs : List Assertion} (h : cs ≠ []) :
    run context (.logical .any cs) = run context (.not (.logical .all (cs.map .not))) := by
  rw [run_logical h, runEach_any_eq_not_none, run, ← run_none_eq_all_not, run_logical h]

/-! ## Regrouping -/

/-- A connective that reads the last truth value as it is can be applied to parts of a list. -/
theorem runEach_append {mode : Connective} (hmode : ∀ b, mode.verdict b = b)
    (xs ys : List Assertion) :
    runEach mode context (xs ++ ys) = (runEach mode context xs).andThen fun b =>
      if b = mode.passing then runEach mode context ys else .done b := by
  induction xs with
  | nil => simp [runEach, hmode]
  | cons a rest ih =>
      simp only [List.cons_append, runEach, Run.andThen_assoc, ih]
      congr 1
      funext b
      -- A value that stops the front part stops the whole as well, as it is read unchanged.
      by_cases hb : b = mode.passing
      · simp [hb]
      · simp [hb, hmode]

/-- Of two members the second is tested only if the first does not decide. -/
theorem runEach_pair {mode : Connective} (hmode : ∀ b, mode.verdict b = b) (a b : Assertion) :
    runEach mode context [a, b] = (run context a).andThen fun found =>
      if found = mode.passing then run context b else .done found := by
  have hlast : (fun found => if found = mode.passing then Run.done mode.passing else .done found) =
      Run.done := by
    funext found
    split
    · next h => rw [h]
    · rfl
  simp only [runEach, hmode, hlast, Run.andThen_done]

/-- Lists that are not empty may be combined by all one after the other, or as one. -/
theorem run_all_append {xs ys : List Assertion} (hxs : xs ≠ []) (hys : ys ≠ []) :
    run context (.logical .all (xs ++ ys)) =
      run context (.logical .all [.logical .all xs, .logical .all ys]) := by
  have hwhole : xs ++ ys ≠ [] := by simp [hxs]
  rw [run_logical hwhole, runEach_append fun _ => rfl, run_logical (List.cons_ne_nil _ _),
    runEach_pair fun _ => rfl, run_logical hxs, run_logical hys]

/-- Lists may be combined by any one after the other, or as one. -/
theorem run_any_append (xs ys : List Assertion) :
    run context (.logical .any (xs ++ ys)) =
      run context (.logical .any [.logical .any xs, .logical .any ys]) := by
  rw [run_any, runEach_append fun _ => rfl, run_any, runEach_pair fun _ => rfl, run_any, run_any]

/-! ## The member that decides -/

/-- Members that do not decide are all evaluated, and the rest decides. -/
theorem runEach_of_passing {mode : Connective} {before : List Assertion}
    (h : ∀ a ∈ before, (run context a).result = .ok mode.passing) (rest : List Assertion) :
    runEach mode context (before ++ rest) =
      ⟨before.flatMap (fun a => (run context a).evaluated) ++ (runEach mode context rest).evaluated,
        (runEach mode context rest).result⟩ := by
  induction before with
  | nil => rfl
  | cons a more ih =>
      have ha := h a List.mem_cons_self
      have hmore := ih fun b hb => h b (List.mem_cons_of_mem a hb)
      simp only [List.cons_append, runEach, Run.andThen_of_result_eq_ok ha, hmore, if_pos,
        List.flatMap_cons, List.append_assoc]

/-- A first member that decides, or fails, keeps the rest from being tested. -/
theorem runEach_cons_of_not_passing {mode : Connective} {c : Assertion}
    (h : (run context c).result ≠ .ok mode.passing) (rest : List Assertion) :
    runEach mode context (c :: rest) =
      ⟨(run context c).evaluated, (run context c).result.map mode.verdict⟩ := by
  cases hc : (run context c).result with
  | error e => simp [runEach, Run.andThen, hc, Except.map]
  | ok b =>
      have hb : b ≠ mode.passing := fun heq => h (by rw [hc, heq])
      simp [runEach, Run.andThen, hc, hb, Run.done, Except.map]

/-- Either all members of a list have a property, or there is a first that has not. -/
theorem all_or_exists_first (p : Assertion → Prop) (cs : List Assertion) :
    (∀ a ∈ cs, p a) ∨
      ∃ before c after, cs = before ++ c :: after ∧ (∀ a ∈ before, p a) ∧ ¬ p c := by
  induction cs with
  | nil => exact .inl fun a ha => absurd ha List.not_mem_nil
  | cons c rest ih =>
      by_cases hc : p c
      · rcases ih with hall | ⟨before, d, after, rfl, hbefore, hd⟩
        · exact .inl (List.forall_mem_cons.2 ⟨hc, hall⟩)
        · exact .inr ⟨c :: before, d, after, rfl, List.forall_mem_cons.2 ⟨hc, hbefore⟩, hd⟩
      · exact .inr ⟨[], c, rest, rfl, fun a ha => absurd ha List.not_mem_nil, hc⟩

/-- A member that fails nothing but stops a loop decides the truth value, wherever it stands: what
stops the loop before it comes to the same. -/
theorem result_runEach_of_mem {mode : Connective} {cs : List Assertion} {c : Assertion}
    (hok : ∀ a ∈ cs, ∃ b, (run context a).result = .ok b) (hc : c ∈ cs)
    (hstop : (run context c).result ≠ .ok mode.passing) :
    (runEach mode context cs).result = .ok (mode.verdict (!mode.passing)) := by
  rcases all_or_exists_first (fun a => (run context a).result = .ok mode.passing) cs with
    hall | ⟨before, d, after, rfl, hbefore, hd⟩
  · exact absurd (hall c hc) hstop
  -- The loop stops at `d`, which need not be `c`; a truth value that stops it is the same for both.
  · rcases hok d (by simp) with ⟨b, hb⟩
    have hvalue : b = !mode.passing :=
      Connective.eq_not_passing fun heq => hd (by rw [hb, heq])
    simp only [runEach_of_passing hbefore, runEach_cons_of_not_passing hd, hb, hvalue, Except.map]

/-- If no member decides, the list comes to what its last member leads to. -/
theorem result_runEach_of_all_passing {mode : Connective} {cs : List Assertion}
    (h : ∀ a ∈ cs, (run context a).result = .ok mode.passing) :
    (runEach mode context cs).result = .ok (mode.verdict mode.passing) := by
  have hwhole := runEach_of_passing h []
  rw [List.append_nil] at hwhole
  simp only [hwhole]
  rfl

/-- The truth value of a list without a failing member hangs on which members it has, not on their
order or number. -/
theorem result_runEach_of_same_members {cs ds : List Assertion} (hsame : ∀ a, a ∈ cs ↔ a ∈ ds)
    (hok : ∀ a ∈ cs, ∃ b, (run context a).result = .ok b) (mode : Connective) :
    ∃ b, (runEach mode context cs).result = .ok b ∧ (runEach mode context ds).result = .ok b := by
  have hokds : ∀ a ∈ ds, ∃ b, (run context a).result = .ok b :=
    fun a ha => hok a ((hsame a).2 ha)
  rcases all_or_exists_first (fun a => (run context a).result = .ok mode.passing) cs with
    hall | ⟨before, c, after, hsplit, _, hc⟩
  · have hallds : ∀ a ∈ ds, (run context a).result = .ok mode.passing :=
      fun a ha => hall a ((hsame a).2 ha)
    exact ⟨_, result_runEach_of_all_passing hall, result_runEach_of_all_passing hallds⟩
  · have hmem : c ∈ cs := by simp [hsplit]
    exact ⟨_, result_runEach_of_mem hok hmem hc,
      result_runEach_of_mem hokds ((hsame c).1 hmem) hc⟩

/-- If no member fails, order and repetition do not change the result. -/
theorem result_logical_of_same_members {cs ds : List Assertion} (hsame : ∀ a, a ∈ cs ↔ a ∈ ds)
    (hok : ∀ a ∈ cs, ∃ b, (run context a).result = .ok b) (mode : Connective) :
    ∃ b, (run context (.logical mode cs)).result = .ok b ∧
      (run context (.logical mode ds)).result = .ok b := by
  cases cs with
  | nil =>
      have hds : ds = [] := by
        refine List.eq_nil_iff_forall_not_mem.2 ?_
        intro a ha
        exact absurd ((hsame a).2 ha) List.not_mem_nil
      exact ⟨false, rfl, by rw [hds]; rfl⟩
  | cons a rest =>
      have hds : ds ≠ [] := List.ne_nil_of_mem ((hsame a).1 List.mem_cons_self)
      simp only [run_logical (List.cons_ne_nil a rest), run_logical hds]
      exact result_runEach_of_same_members hsame hok mode

/-! ## The laws -/

/-- In a context that is not null the connectives obey the laws of De Morgan and of regrouping with
failures and with the order of evaluation; the first member that is not passed decides and ends the
test; and lists without a failing member have a truth value that hangs on their members alone. -/
theorem connectives_obey_sequential_laws (hcontext : context.isNull = false) :
    (∀ cs, (logical .none cs).trace context = (logical .all (cs.map .not)).trace context) ∧
    (∀ cs, cs ≠ [] →
      (logical .none cs).trace context = (Assertion.not (.logical .any cs)).trace context ∧
      (logical .any cs).trace context =
        (Assertion.not (.logical .all (cs.map .not))).trace context) ∧
    (∀ xs ys, xs ≠ [] → ys ≠ [] →
      (logical .all (xs ++ ys)).trace context =
        (logical .all [.logical .all xs, .logical .all ys]).trace context) ∧
    (∀ xs ys,
      (logical .any (xs ++ ys)).trace context =
        (logical .any [.logical .any xs, .logical .any ys]).trace context) ∧
    (∀ mode before c after, (∀ a ∈ before, a.test context = .ok mode.passing) →
      c.test context ≠ .ok mode.passing →
      (logical mode (before ++ c :: after)).trace context =
        ⟨before.flatMap (fun a => (a.trace context).evaluated) ++ (c.trace context).evaluated,
          (c.test context).map mode.verdict⟩) ∧
    (∀ mode cs, cs ≠ [] → (∀ a ∈ cs, a.test context = .ok mode.passing) →
      (logical mode cs).trace context =
        ⟨cs.flatMap fun a => (a.trace context).evaluated, .ok (mode.verdict mode.passing)⟩) ∧
    (∀ mode cs ds, (∀ a, a ∈ cs ↔ a ∈ ds) → (∀ a ∈ cs, ∃ b, a.test context = .ok b) →
      ∃ b, (logical mode cs).test context = .ok b ∧ (logical mode ds).test context = .ok b) := by
  -- The test for a null context is made once, at the root, and is over with here.
  simp only [test, trace_eq_run hcontext]
  refine ⟨run_none_eq_all_not, ?_, ?_, run_any_append, ?_, ?_, ?_⟩
  · intro cs h
    exact ⟨run_none_eq_not_any h, run_any_eq_not_all_not h⟩
  · intro xs ys hxs hys
    exact run_all_append hxs hys
  · intro mode before c after hbefore hc
    have hwhole : before ++ c :: after ≠ [] := by simp
    rw [run_logical hwhole, runEach_of_passing hbefore, runEach_cons_of_not_passing hc]
  · intro mode cs hcs h
    have hwhole := runEach_of_passing h []
    rw [List.append_nil] at hwhole
    rw [run_logical hcs, hwhole]
    simp [runEach, Run.done]
  · intro mode cs ds hsame hok
    exact result_logical_of_same_members hsame hok mode

/-- An assertion about an expression that cannot be computed. -/
def unavailable : Assertion := .isNull (.computed "down" fun _ => .error (.expression "down"))

/-- A failing member stops the test of a list between a member that is passed and one that would
decide otherwise. -/
theorem connectives_around_unavailable :
    (Value.int 1).isNull = false ∧
    (logical .none [unavailable, .constant true]).trace (.int 1) =
      (Assertion.not (.logical .any [unavailable, .constant true])).trace (.int 1) ∧
    (logical .all [.constant true, unavailable]).trace (.int 1) =
      (logical .all [.logical .all [.constant true], .logical .all [unavailable]]).trace (.int 1) ∧
    (constant false).test (.int 1) = .ok Connective.any.passing ∧
    unavailable.test (.int 1) ≠ .ok Connective.any.passing ∧
    (logical .any [.constant false, unavailable, .constant true]).trace (.int 1) =
      ⟨[.computed "down" fun _ => .error (.expression "down")], .error (.expression "down")⟩ ∧
    (logical .none [.constant false, .constant false]).trace (.int 1) = ⟨[], .ok true⟩ ∧
    ∃ b, (logical .any [.constant true, .constant false]).test (.int 1) = .ok b ∧
      (logical .any [.constant false, .constant true, .constant true]).test (.int 1) = .ok b := by
  have hcontext : (Value.int 1).isNull = false := rfl
  have hpassed : (constant false).test (.int 1) = .ok Connective.any.passing := rfl
  have hstops : unavailable.test (.int 1) ≠ .ok Connective.any.passing := nofun
  rcases connectives_obey_sequential_laws hcontext with
    ⟨_, hmorgan, hregroup, _, hdecides, hpasses, hmembers⟩
  refine ⟨hcontext, (hmorgan _ (by simp)).1, hregroup [_] [_] (by simp) (by simp), hpassed, hstops,
    ?_, ?_, ?_⟩
  · exact hdecides .any [.constant false] unavailable [.constant true] (by simpa using hpassed)
      hstops
  · refine hpasses .none [.constant false, .constant false] (by simp) ?_
    intro a ha
    have heq : a = .constant false := by simpa using ha
    rw [heq]
    rfl
  · refine hmembers .any _ _ (by simp [or_comm]) ?_
    intro a ha
    rcases List.mem_cons.1 ha with rfl | hlast
    · exact ⟨true, rfl⟩
    · exact ⟨false, by rw [List.mem_singleton.1 hlast]; rfl⟩

end Assertion
end ErrorTriage
