import ErrorTriage.Capture.Event
import ErrorTriage.Proofs.Path.Written

/-!
# Capture.Chain — the errors inside an error, and the members that are derived from them

An error and the errors inside it form a chain.  A path that goes from an error to the one inside
it, again and again, visits the chain in order, is null right behind its end, and fails further on.
The root offers the innermost error and the first status code as members of their own, found by
loops over the chain: they are what the paths find.
-/

namespace ErrorTriage
namespace CapturedError

/-! ## Chains -/

/-- The error and the errors inside it, from the outermost to the innermost one. -/
def chain : CapturedError → List CapturedError
  | e@⟨_, _, _, _, _, _, some inner, _⟩ => e :: inner.chain
  | e => [e]

variable {e inner : CapturedError}

/-- An error without another one inside is its whole chain. -/
theorem chain_of_no_inner (h : e.inner = none) : e.chain = [e] := by
  cases e
  cases h
  rfl

/-- The chain of an error goes on with that of the error inside. -/
theorem chain_of_inner (h : e.inner = some inner) : e.chain = e :: inner.chain := by
  cases e
  cases h
  rfl

/-- Induction over a chain from its innermost error. -/
theorem inductionOnChain {P : CapturedError → Prop} (last : ∀ e, e.inner = none → P e)
    (link : ∀ e inner, e.inner = some inner → P inner → P e) : ∀ e, P e
  | ⟨_, _, _, _, _, _, none, _⟩ => last _ rfl
  | ⟨_, _, _, _, _, _, some inner, _⟩ => link _ inner rfl (inductionOnChain last link inner)

theorem baseError_of_no_inner (h : e.inner = none) : e.baseError = e := by
  cases e
  cases h
  rfl

/-- The error inside has the same innermost error. -/
theorem baseError_of_inner (h : e.inner = some inner) : e.baseError = inner.baseError := by
  cases e
  cases h
  rfl

/-- The innermost error is the last one of the chain. -/
theorem getLast?_chain (e : CapturedError) : e.chain.getLast? = some e.baseError := by
  induction e using inductionOnChain with
  | last e h => rw [chain_of_no_inner h, baseError_of_no_inner h, List.getLast?_singleton]
  | link e inner h ih =>
      rw [chain_of_inner h, baseError_of_inner h, List.getLast?_cons, ih, Option.getD_some]

/-- A status of its own is the status code of an error. -/
theorem statusCode_of_status {code : Int} (h : e.status = some code) : e.statusCode = code := by
  cases e
  cases h
  rfl

theorem statusCode_of_no_inner (hstatus : e.status = none) (h : e.inner = none) :
    e.statusCode = 0 := by
  cases e
  cases hstatus
  cases h
  rfl

/-- An error without a status has the status code of the error inside. -/
theorem statusCode_of_inner (hstatus : e.status = none) (h : e.inner = some inner) :
    e.statusCode = inner.statusCode := by
  cases e
  cases hstatus
  cases h
  rfl

/-- The status code is the first one on the chain, or zero. -/
theorem statusCode_eq_getD (e : CapturedError) :
    e.statusCode = (e.chain.findSome? CapturedError.status).getD 0 := by
  induction e using inductionOnChain with
  | last e h =>
      cases hstatus : e.status with
      | none => simp [chain_of_no_inner h, statusCode_of_no_inner hstatus h, hstatus]
      | some code => simp [chain_of_no_inner h, statusCode_of_status hstatus, hstatus]
  | link e inner h ih =>
      cases hstatus : e.status with
      | none => simp [chain_of_inner h, statusCode_of_inner hstatus h, hstatus, ih]
      | some code => simp [chain_of_inner h, statusCode_of_status hstatus, hstatus]

/-! ## Walking along a chain -/

/-- The step from an error to the error inside it. -/
def inward : Step := .member "InnerException"

/-- A member of an error as a value is a member of the error. -/
theorem lookup?_member (e : CapturedError) (name : String) :
    e.toValue.lookup? (.member name) = e.memberWith? (valueOf e.inner) name := by
  cases e
  rfl

/-- One step inward leads to the error inside, or to null. -/
theorem lookup?_inward (e : CapturedError) : e.toValue.lookup? inward = some (valueOf e.inner) :=
  lookup?_member e "InnerException"

/-- An error has the member for its status only if it has a status. -/
theorem lookup?_httpCode (e : CapturedError) :
    e.toValue.lookup? (.member "HttpCode") = e.status.map .int :=
  lookup?_member e "HttpCode"

/-- The origin of an error is a member of its own, and no other step from the error depends on
it. -/
theorem lookup?_withSource (e : CapturedError) (source : String) (step : Step) :
    (e.withSource source).toValue.lookup? step =
      if step = .member "Source" then some (.str source) else e.toValue.lookup? step := by
  cases step with
  | index i =>
      cases e
      rfl
  | member name =>
      rw [lookup?_member, lookup?_member]
      by_cases hsource : name = "Source"
      · simp [memberWith?, withSource, hsource]
      · simp [memberWith?, withSource, hsource]

/-- As far as the chain goes and one step further, going inward leads to the error at that place;
there is none behind the last one. -/
theorem walk_inward {depth : Nat} (h : depth ≤ e.chain.length) (steps : List Step) :
    e.toValue.walk true (List.replicate depth inward ++ steps) =
      (valueOf e.chain[depth]?).walk true steps := by
  induction depth generalizing e with
  | zero =>
      have hfirst : e.chain[0]? = some e := by
        cases hinner : e.inner with
        | none => simp [chain_of_no_inner hinner]
        | some inner => simp [chain_of_inner hinner]
      rw [hfirst]
      rfl
  | succ depth ih =>
      rw [List.replicate_succ, List.cons_append,
        Value.walk_cons_of_lookup?_eq_some (lookup?_inward e)]
      cases hinner : e.inner with
      | none =>
          -- The chain ends here, so this was the last step.
          rw [chain_of_no_inner hinner] at h ⊢
          have hdepth : depth = 0 := by simpa using h
          rw [hdepth]
          rfl
      | some inner =>
          rw [chain_of_inner hinner] at h ⊢
          have hle : depth ≤ inner.chain.length := by simpa using h
          rw [List.getElem?_cons_succ]
          exact ih hle

/-- A strict walk fails at the first step from null. -/
theorem walk_null_cons (step : Step) (steps : List Step) :
    Value.null.walk true (step :: steps) = .error (.nullReference step) :=
  Value.walk_strict_cons_of_lookup?_eq_none (Value.lookup?_null step) steps

/-- Behind the null that ends the chain there is nowhere to go. -/
theorem walk_inward_beyond {depth : Nat} (h : e.chain.length < depth) (steps : List Step) :
    e.toValue.walk true (List.replicate depth inward ++ steps) =
      .error (.nullReference inward) := by
  have hdepth : depth = e.chain.length + (depth - e.chain.length - 1 + 1) := by omega
  rw [hdepth, List.replicate_add, List.append_assoc, walk_inward (Nat.le_refl _),
    List.getElem?_length, List.replicate_succ, List.cons_append]
  exact walk_null_cons inward _

/-! ## The paths of the root -/

/-- The path from the root to the error so many errors further in. -/
def pathTo (depth : Nat) : String :=
  "Exception" ++ String.join (List.replicate depth ".InnerException")

/-- The path to the status code of the error so many errors further in. -/
def codePathTo (depth : Nat) : String := pathTo depth ++ ".HttpCode"

/-- Behind the member for the whole error, steps are read as they are written. -/
theorem readSteps_exception {steps : List Step}
    (h : ∀ step ∈ steps, step = inward ∨ step = .member "HttpCode") :
    Path.readSteps ("Exception" ++ String.join (steps.map Step.text)) =
      .ok (.member "Exception" :: steps) := by
  have hinward : Path.IsName "InnerException".toList := by decide +kernel
  have hcode : Path.IsName "HttpCode".toList := by decide +kernel
  refine Path.readSteps_name_join (by decide +kernel) ?_ ?_
  · intro step hstep
    rcases h step hstep with rfl | rfl
    · exact hinward
    · exact hcode
  · intro step hstep
    rcases h step hstep with rfl | rfl <;> exact not_false

/-- The path to an error goes inward as often as the error is deep. -/
theorem readSteps_pathTo (depth : Nat) :
    Path.readSteps (pathTo depth) = .ok (.member "Exception" :: List.replicate depth inward) := by
  have hsteps : ∀ step ∈ List.replicate depth inward,
      step = inward ∨ step = .member "HttpCode" := by
    intro step hstep
    exact .inl (List.eq_of_mem_replicate hstep)
  have hread := readSteps_exception hsteps
  rwa [List.map_replicate] at hread

/-- The path to a status code ends with the member for it. -/
theorem readSteps_codePathTo (depth : Nat) :
    Path.readSteps (codePathTo depth) =
      .ok (.member "Exception" :: (List.replicate depth inward ++ [.member "HttpCode"])) := by
  have hsteps : ∀ step ∈ List.replicate depth inward ++ [.member "HttpCode"],
      step = inward ∨ step = .member "HttpCode" := by
    intro step hstep
    rcases List.mem_append.1 hstep with hinward | hcode
    · exact .inl (List.eq_of_mem_replicate hinward)
    · exact .inr (List.mem_singleton.1 hcode)
  have htext : codePathTo depth = "Exception" ++ String.join
      ((List.replicate depth inward ++ [.member "HttpCode"] : List Step).map Step.text) := by
    rw [List.map_append, String.join_append, List.map_replicate, ← String.append_assoc]
    rfl
  rw [htext]
  exact readSteps_exception hsteps

/-- A member of the root is read from its name. -/
theorem atPath_member {ambient found : Value} {name : String} (hname : Path.IsName name.toList)
    (h : rootMember? e ambient name = some found) :
    (evaluationRoot e ambient).atPath name true = .ok found := by
  have hroot : (evaluationRoot e ambient).lookup? (.member name) = some found := h
  rw [Value.atPath_of_readSteps_eq_ok (Path.readSteps_name hname),
    Value.walk_cons_of_lookup?_eq_some hroot]
  rfl

section Paths

variable (e : CapturedError) (ambient : Value)

/-- Behind the member for the whole error, a path of the root is walked from that error. -/
theorem atPath_of_readSteps {text : String} {steps : List Step}
    (h : Path.readSteps text = .ok (.member "Exception" :: steps)) :
    (evaluationRoot e ambient).atPath text true =
      (e.toValue.walk true steps).mapError .lookup := by
  have hroot : (evaluationRoot e ambient).lookup? (.member "Exception") = some e.toValue := rfl
  rw [Value.atPath_of_readSteps_eq_ok h, Value.walk_cons_of_lookup?_eq_some hroot]

/-- The paths of a chain find its errors, and null right behind its end. -/
theorem atPath_pathTo {depth : Nat} (h : depth ≤ e.chain.length) :
    (evaluationRoot e ambient).atPath (pathTo depth) true = .ok (valueOf e.chain[depth]?) := by
  have hwalk := walk_inward h []
  rw [List.append_nil] at hwalk
  rw [atPath_of_readSteps e ambient (readSteps_pathTo depth), hwalk, Value.walk_nil, mapError_ok]

/-- Further behind the end of a chain, paths fail at the step from null. -/
theorem atPath_pathTo_beyond {depth : Nat} (h : e.chain.length < depth) :
    (evaluationRoot e ambient).atPath (pathTo depth) true =
      .error (.lookup (.nullReference inward)) := by
  have hwalk := walk_inward_beyond h []
  rw [List.append_nil] at hwalk
  rw [atPath_of_readSteps e ambient (readSteps_pathTo depth), hwalk, mapError_error]

/-- A status code is found exactly where an error of the chain has one. -/
theorem atPath_codePathTo_eq_ok_iff {depth : Nat} {v : Value} :
    (evaluationRoot e ambient).atPath (codePathTo depth) true = .ok v ↔
      ∃ found code, e.chain[depth]? = some found ∧ found.status = some code ∧ v = .int code := by
  rw [atPath_of_readSteps e ambient (readSteps_codePathTo depth), mapError_eq_ok_iff]
  by_cases hdepth : depth ≤ e.chain.length
  · rw [walk_inward hdepth]
    cases hfound : e.chain[depth]? with
    | none =>
        rw [show valueOf none = .null from rfl, walk_null_cons]
        simp
    | some found =>
        rw [show valueOf (some found) = found.toValue from rfl]
        cases hstatus : found.status with
        | none =>
            have hnone : found.toValue.lookup? (.member "HttpCode") = none := by
              rw [lookup?_httpCode, hstatus, Option.map_none]
            rw [Value.walk_strict_cons_of_lookup?_eq_none hnone]
            simp [hstatus]
        | some code =>
            have hsome : found.toValue.lookup? (.member "HttpCode") = some (.int code) := by
              rw [lookup?_httpCode, hstatus, Option.map_some]
            rw [Value.walk_cons_of_lookup?_eq_some hsome]
            simp [hstatus, eq_comm]
  · have hbeyond : e.chain.length < depth := Nat.lt_of_not_le hdepth
    rw [walk_inward_beyond hbeyond, List.getElem?_eq_none (Nat.le_of_lt hbeyond)]
    simp

/-- The first error of a chain with a status code, or none. -/
theorem first_status_cases :
    (∃ (depth : Nat) (found : CapturedError), e.chain[depth]? = some found ∧
        found.status = some e.statusCode ∧
        ∀ nearer < depth, ∀ other : CapturedError, e.chain[nearer]? = some other →
          other.status = none) ∨
      e.statusCode = 0 ∧ ∀ found ∈ e.chain, found.status = none := by
  rw [statusCode_eq_getD]
  cases hfirst : e.chain.findSome? CapturedError.status with
  | none => exact .inr ⟨rfl, List.findSome?_eq_none_iff.1 hfirst⟩
  | some code =>
      rcases List.findSome?_eq_some_iff.1 hfirst with ⟨before, found, after, hchain, hcode, hnone⟩
      refine .inl ⟨before.length, found, by simp [hchain], hcode, ?_⟩
      intro nearer hnearer other hother
      rw [hchain, List.getElem?_append_left hnearer] at hother
      exact hnone other (List.mem_of_getElem? hother)

end Paths

/-! ## Derived members -/

/-- The paths of the root visit the chain of its error, and the derived members agree with them: the
innermost error with the last path that finds an error, the status codes with the shortest path that
finds one. -/
structure FollowsChain (e : CapturedError) (root : Value) : Prop where
  inside : ∀ depth found, e.chain[depth]? = some found →
    root.atPath (pathTo depth) true = .ok found.toValue
  behind : root.atPath (pathTo e.chain.length) true = .ok .null
  beyond : ∀ depth, e.chain.length < depth →
    root.atPath (pathTo depth) true = .error (.lookup (.nullReference inward))
  innermost : root.atPath "BaseException" true = root.atPath (pathTo (e.chain.length - 1)) true
  code_iff : ∀ depth v, root.atPath (codePathTo depth) true = .ok v ↔
    ∃ found code, e.chain[depth]? = some found ∧ found.status = some code ∧ v = .int code
  first_code : ∃ code, root.atPath "HttpStatusCode" true = .ok (.int code) ∧
    root.atPath "StatusCode" true = .ok (.int code) ∧
    ((∃ depth, root.atPath (codePathTo depth) true = .ok (.int code) ∧
        ∀ nearer < depth, ∀ v, root.atPath (codePathTo nearer) true ≠ .ok v) ∨
      code = 0 ∧ ∀ depth v, root.atPath (codePathTo depth) true ≠ .ok v)

/-- Whatever the errors of a chain and the ambient value are, paths that go inward find the errors
of the chain in order, and the members of the root that are derived from the chain agree with
them. -/
theorem derived_members_follow_chain (e : CapturedError) (ambient : Value) :
    e.FollowsChain (evaluationRoot e ambient) where
  inside := by
    intro depth found hfound
    have hdepth := Nat.le_of_lt (List.getElem?_eq_some_iff.1 hfound).1
    rw [atPath_pathTo e ambient hdepth, hfound]
    rfl
  behind := by
    rw [atPath_pathTo e ambient (Nat.le_refl _), List.getElem?_length]
    rfl
  beyond := fun _ hdepth => atPath_pathTo_beyond e ambient hdepth
  innermost := by
    have hlast := getLast?_chain e
    rw [List.getLast?_eq_getElem?] at hlast
    have hbase : (evaluationRoot e ambient).atPath "BaseException" true =
        .ok e.baseError.toValue := atPath_member (by decide +kernel) rfl
    rw [hbase, atPath_pathTo e ambient (Nat.sub_le _ _), hlast]
    rfl
  code_iff := fun _ _ => atPath_codePathTo_eq_ok_iff e ambient
  first_code := by
    refine ⟨e.statusCode, atPath_member (by decide +kernel) rfl,
      atPath_member (by decide +kernel) rfl, ?_⟩
    rcases first_status_cases e with ⟨depth, found, hfound, hcode, hnearer⟩ | ⟨hzero, hnone⟩
    · have hread := (atPath_codePathTo_eq_ok_iff e ambient).2 ⟨found, _, hfound, hcode, rfl⟩
      refine .inl ⟨depth, hread, ?_⟩
      intro nearer hlt v hread
      rcases (atPath_codePathTo_eq_ok_iff e ambient).1 hread with ⟨other, code, hother, hstatus, _⟩
      rw [hnearer nearer hlt other hother] at hstatus
      cases hstatus
    · refine .inr ⟨hzero, ?_⟩
      intro depth v hread
      rcases (atPath_codePathTo_eq_ok_iff e ambient).1 hread with ⟨other, code, hother, hstatus, _⟩
      rw [hnone other (List.mem_of_getElem? hother)] at hstatus
      cases hstatus

def wrappedRequest : CapturedError :=
  (ofType "HttpUnhandledException" "").withInner
    ((ofStatus 503 "Service unavailable").withInner (ofType "TimeoutException" "no answer"))

/-- The status in the middle of three errors, the error at the end, and a path that goes too far. -/
theorem derived_members_follow_chain_wrapped :
    (evaluationRoot wrappedRequest .null).atPath
        "Exception.InnerException.HttpCode" true = .ok (.int 503) ∧
      (∀ v, (evaluationRoot wrappedRequest .null).atPath
        "Exception.InnerException.InnerException.HttpCode" true ≠ .ok v) ∧
      (evaluationRoot wrappedRequest .null).atPath
        "Exception.InnerException.InnerException" true =
          (evaluationRoot wrappedRequest .null).atPath "BaseException" true ∧
      wrappedRequest.chain.length < 4 ∧
      (evaluationRoot wrappedRequest .null).atPath (pathTo 4) true =
        .error (.lookup (.nullReference inward)) := by
  have hpaths := derived_members_follow_chain wrappedRequest .null
  have hmiddle : codePathTo 1 = "Exception.InnerException.HttpCode" := by decide +kernel
  have hlast : pathTo 2 = "Exception.InnerException.InnerException" := by decide +kernel
  have hlength : wrappedRequest.chain.length < 4 := by decide
  have hcode := (hpaths.code_iff 1 (.int 503)).2 ⟨_, 503, rfl, rfl, rfl⟩
  rw [hmiddle] at hcode
  refine ⟨hcode, ?_, ?_, hlength, hpaths.beyond 4 hlength⟩
  · intro v hread
    rcases (hpaths.code_iff 2 v).1 hread with ⟨found, code, hfound, hstatus, _⟩
    cases hfound
    cases hstatus
  · rw [← hlast]
    exact hpaths.innermost.symm

end CapturedError
end ErrorTriage
