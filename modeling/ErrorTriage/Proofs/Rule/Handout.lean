import ErrorTriage.Proofs.Latest
import ErrorTriage.Proofs.Outcome
import ErrorTriage.Proofs.Rule.Binding
import ErrorTriage.Proofs.Rule.Taking

/-!
# Rule.Handout — what is bound is handed out once

Parameters may be declared more than once, and a builder may ask for any name in any of the seven
ways, again and again.  Of several declarations of a name the last one counts.  The first request
for a name takes its value, also one of another kind than the declared one; from then on the name is
as if it had never been bound.

Binding itself fails with the first parameter that is refused.  A request that fails does not end
the history here: a builder may go on after it.
-/

namespace ErrorTriage

/-! ## One parameter -/

namespace Parameter

variable {types : TypeTable} {node : RuleNode} {p : Parameter}

/-- What stands for a text is what it is converted to. -/
theorem convert_of_standsFor {arg : Argument} {text : String} (hkind : arg.kind = p.kind)
    (hstands : arg.StandsFor types text) (rule : String) :
    p.convert types rule text = .ok arg := by
  cases arg with
  | expression e =>
      have hread : Expression.read text = .ok e := hstands
      simp only [convert, ← hkind, Argument.kind, hread]
  | namedType t =>
      rcases hstands with ⟨hblank, rfl⟩
      simp [convert, ← hkind, Argument.kind, hblank]
  | flag b =>
      have hb : b = readsTrue text := hstands
      simp only [convert, ← hkind, Argument.kind, hb]
  | typeCode code =>
      have hcode : TypeCode.ofText? text = some code := hstands
      simp only [convert, ← hkind, Argument.kind, hcode]
  | integer n =>
      have hread : Integer.read64 (Text.trimList text.toList) = .ok n := hstands
      simp only [convert, ← hkind, Argument.kind, hread]
  | text s =>
      have hs : s = text := hstands
      simp only [convert, ← hkind, Argument.kind, hs]

/-- A parameter that does not keep a node from being bound: it may be missing and is, or its text
stands for a value of its kind. -/
inductive IsAccepted (types : TypeTable) (node : RuleNode) (p : Parameter) : Prop where
  | absent (habsent : node.parameter? p.name = none) (hoptional : p.required = false)
  | given {text : String} {arg : Argument} (hgiven : node.parameter? p.name = some text)
      (hkind : arg.kind = p.kind) (hstands : arg.StandsFor types text)

/-- A parameter that keeps a node from being bound, and the error: it is missing and must not be,
or its text does not convert. -/
inductive IsRefused (types : TypeTable) (node : RuleNode) (p : Parameter) : RuleError → Prop where
  | absent (habsent : node.parameter? p.name = none) (hrequired : p.required = true) :
      IsRefused types node p (.missingParameter node.name p.name)
  | given {text : String} {e : RuleError} (hgiven : node.parameter? p.name = some text)
      (hconvert : p.convert types node.name text = .error e) : IsRefused types node p e

/-- A parameter has no defect exactly if it is accepted. -/
theorem defect?_eq_none_iff : p.defect? types node = none ↔ p.IsAccepted types node := by
  constructor
  · intro h
    cases hreading : p.reading types node with
    | error e => simp [defect?, hreading] at h
    | ok arg? =>
        rcases reading_eq_ok hreading with ⟨hoptional, habsent, _⟩ | ⟨text, arg, hgiven, _, hvalue⟩
        · exact .absent habsent hoptional
        · exact .given hgiven hvalue.1 hvalue.2
  · intro h
    cases h with
    | absent habsent hoptional => simp [defect?, reading, habsent, hoptional]
    | given hgiven hkind hstands =>
        simp [defect?, reading, hgiven, convert_of_standsFor hkind hstands, Except.map]

/-- A parameter has the defect that it is refused for. -/
theorem defect?_eq_some_iff_isRefused {e : RuleError} :
    p.defect? types node = some e ↔ p.IsRefused types node e := by
  rw [defect?_eq_some_iff, reading]
  constructor
  · intro h
    cases htext : node.parameter? p.name with
    | none =>
        cases hrequired : p.required with
        | false => simp [htext, hrequired] at h
        | true =>
            have he : .missingParameter node.name p.name = e := by simpa [htext, hrequired] using h
            exact he ▸ .absent htext hrequired
    | some text =>
        simp only [htext] at h
        exact .given htext (map_eq_error_iff.1 h)
  · intro h
    cases h with
    | absent habsent hrequired => simp [habsent, hrequired]
    | given hgiven hconvert => simp [hgiven, hconvert, Except.map]

end Parameter

/-! ## What a name is bound to -/

namespace Bindings

variable {types : TypeTable} {node : RuleNode} {params : List Parameter}
  {values bound : SortedMap Argument} {name text : String}

/-- A name is bound to the value of its text, of the kind that it was declared with last. -/
def IsBoundTo (types : TypeTable) (node : RuleNode) (params : List Parameter) (name : String)
    (arg : Argument) : Prop :=
  ∃ p text, IsLastWith (fun q => q.name = name) params p ∧ node.parameter? name = some text ∧
    arg.kind = p.kind ∧ arg.StandsFor types text

theorem bindFrom_cons_eq_ok {p : Parameter} {rest : List Parameter}
    (h : bindFrom types node values (p :: rest) = .ok bound) :
    ∃ arg?, p.reading types node = .ok arg? ∧
      bindFrom types node (extend values p.name arg?) rest = .ok bound := by
  rw [bindFrom_cons] at h
  cases hreading : p.reading types node with
  | error e => simp [hreading] at h
  | ok arg? =>
      simp only [hreading] at h
      exact ⟨arg?, rfl, h⟩

/-- What a node does not have is not bound, however often it is declared. -/
theorem get?_bindFrom_of_absent (habsent : node.parameter? name = none)
    (h : bindFrom types node values params = .ok bound) : bound.get? name = values.get? name := by
  induction params generalizing values with
  | nil =>
      cases h
      rfl
  | cons p rest ih =>
      rcases bindFrom_cons_eq_ok h with ⟨arg?, hreading, hrest⟩
      rw [ih hrest]
      by_cases hname : p.name = name
      · rcases Parameter.reading_eq_ok hreading with ⟨_, _, rfl⟩ | ⟨text, _, hgiven, _⟩
        · rfl
        · rw [hname, habsent] at hgiven
          cases hgiven
      · exact get?_extend_of_ne hname values arg?

/-- What a node has is bound by the last parameter of the name, if there is one. -/
theorem get?_bindFrom_of_given (hgiven : node.parameter? name = some text)
    (h : bindFrom types node values params = .ok bound) :
    (∃ p arg, IsLastWith (fun q => q.name = name) params p ∧ arg.kind = p.kind ∧
      arg.StandsFor types text ∧ bound.get? name = some arg) ∨
    (∀ p ∈ params, p.name ≠ name) ∧ bound.get? name = values.get? name := by
  -- Over the parameters, the first one first: what is bound for it counts only if no later one has
  -- the name.
  induction params generalizing values with
  | nil =>
      cases h
      exact .inr ⟨by simp, rfl⟩
  | cons p rest ih =>
      rcases bindFrom_cons_eq_ok h with ⟨arg?, hreading, hrest⟩
      rcases ih hrest with ⟨q, arg, hlast, hvalue⟩ | ⟨hothers, hkept⟩
      · exact .inl ⟨q, arg, hlast.cons p, hvalue⟩
      · by_cases hname : p.name = name
        · rcases Parameter.reading_eq_ok hreading with
            ⟨_, habsent, _⟩ | ⟨found, arg, hfound, rfl, hkind, hstands⟩
          · rw [hname, hgiven] at habsent
            cases habsent
          · have htext : found = text := by
              rw [hname, hgiven] at hfound
              exact (Option.some.inj hfound).symm
            have hself : bound.get? name = some arg := by
              rw [hkept, extend, SortedMap.get?_insert, if_pos hname]
            exact .inl ⟨p, arg, .head hname hothers, hkind, htext ▸ hstands, hself⟩
        · refine .inr ⟨?_, hkept.trans (get?_extend_of_ne hname values arg?)⟩
          simpa [hname] using hothers

/-- After binding, a name holds what it is bound to. -/
theorem get?_eq_some_iff_isBoundTo {args : Bindings} (h : bind types node params = .ok args)
    {arg : Argument} :
    args.values.get? name = some arg ↔ IsBoundTo types node params name arg := by
  rcases map_eq_ok_iff.1 h with ⟨bound, hbound, rfl⟩
  cases hparameter : node.parameter? name with
  | none =>
      have hnone : bound.get? name = none := get?_bindFrom_of_absent hparameter hbound
      simp [hnone, IsBoundTo, hparameter]
  | some text =>
      rcases get?_bindFrom_of_given hparameter hbound with
        ⟨p, found, hlast, hkind, hstands, hfound⟩ | ⟨hothers, hkept⟩
      · simp only [hfound, Option.some.injEq]
        constructor
        · rintro rfl
          exact ⟨p, text, hlast, hparameter, hkind, hstands⟩
        · rintro ⟨q, text', hlast', htext, hkind', hstands'⟩
          -- There is one last parameter and one text, and they convert to one value.
          cases hlast'.unique hlast
          cases Option.some.inj (htext.symm.trans hparameter)
          have hsame := (Parameter.convert_of_standsFor hkind hstands "").symm.trans
            (Parameter.convert_of_standsFor hkind' hstands' "")
          exact Except.ok.inj hsame
      · have hnone : bound.get? name = none := hkept
        simp only [hnone, reduceCtorEq, false_iff]
        rintro ⟨p, _, hlast, _⟩
        exact hothers p hlast.mem hlast.property

end Bindings

/-! ## One request -/

inductive Getter where
  | expression
  | optionalExpression
  | namedType
  | typeCode
  | integer
  | text
  | flag
deriving DecidableEq

namespace Getter

def kind : Getter → ParameterKind
  | .expression => .expression
  | .optionalExpression => .expression
  | .namedType => .namedType
  | .typeCode => .typeCode
  | .integer => .integer
  | .text => .text
  | .flag => .flag

/-- What is answered where nothing is bound, if that is no error. -/
def default? : Getter → Option (Option Argument)
  | .optionalExpression => some none
  | .text => some (some (.text ""))
  | .flag => some (some (.flag false))
  | _ => none

/-- Asks for the value of a name.  Only an expression that may be missing is answered with
nothing. -/
def ask (name : String) : Getter → Taking (Option Argument)
  | .expression => return some (.expression (← Taking.expression name))
  | .optionalExpression => return (← Taking.optionalExpression name).map .expression
  | .namedType => return some (.namedType (← Taking.namedType name))
  | .typeCode => return some (.typeCode (← Taking.typeCode name))
  | .integer => return some (.integer (← Taking.integer name))
  | .text => return some (.text (← Taking.text name))
  | .flag => return some (.flag (← Taking.flag name))

/-- The answer to a request for a name, which may be bound to a value. -/
def answer (g : Getter) (rule name : String) : Option Argument → Except RuleError (Option Argument)
  | some arg =>
    if arg.kind = g.kind then .ok (some arg)
    else .error (.invalidParameter rule name "" (.notDeclaredAs g.kind))
  | none =>
    match g.default? with
    | some given => .ok given
    | none => .error (.missingParameter rule name)

/-- A request looks a name up and takes it out, whatever it answers. -/
theorem outcome_ask (g : Getter) (name : String) (args : Bindings) :
    (g.ask name).outcome args =
      (g.answer args.rule name (args.values.get? name), args.without name) := by
  cases hheld : args.values.get? name with
  | none =>
      cases g <;>
        simp only [ask, Taking.expression, Taking.optionalExpression, Taking.namedType,
          Taking.typeCode, Taking.integer, Taking.text, Taking.flag, Taking.outcome_bind,
          Taking.outcome_take hheld] <;>
        rfl
  | some arg =>
      -- The seven ways against the six kinds of a value.
      cases g <;>
        simp only [ask, Taking.expression, Taking.optionalExpression, Taking.namedType,
          Taking.typeCode, Taking.integer, Taking.text, Taking.flag, Taking.outcome_bind,
          Taking.outcome_take hheld] <;>
        cases arg <;> rfl

variable {g : Getter} {rule name : String} {held : Option Argument}

/-- A request is answered by what is held, if its kind is right, or by the default. -/
theorem answer_eq_ok_iff {given : Option Argument} :
    g.answer rule name held = .ok given ↔
      (∃ arg, held = some arg ∧ arg.kind = g.kind ∧ given = some arg) ∨
        held = none ∧ g.default? = some given := by
  cases held with
  | none =>
      cases hdefault : g.default? <;> simp [answer, hdefault]
  | some arg =>
      by_cases hkind : arg.kind = g.kind <;> simp [answer, hkind, eq_comm]

/-- A request is refused if the kind is wrong, or if nothing is held and there is no default. -/
theorem answer_eq_error_iff {e : RuleError} :
    g.answer rule name held = .error e ↔
      (∃ arg, held = some arg ∧ arg.kind ≠ g.kind ∧
        e = .invalidParameter rule name "" (.notDeclaredAs g.kind)) ∨
        held = none ∧ g.default? = none ∧ e = .missingParameter rule name := by
  cases held with
  | none =>
      cases hdefault : g.default? <;> simp [answer, hdefault, eq_comm]
  | some arg =>
      by_cases hkind : arg.kind = g.kind <;> simp [answer, hkind, eq_comm]

end Getter

/-! ## Many requests -/

/-- A request for the value of a name. -/
structure Inquiry where
  getter : Getter
  name : String
deriving DecidableEq

/-- Makes requests one after another, also after one that failed; their answers are in order. -/
def askAll : List Inquiry → Bindings → List (Except RuleError (Option Argument)) × Bindings
  | [], args => ([], args)
  | r :: rest, args =>
    let (answer, args) := (r.getter.ask r.name).outcome args
    let (answers, args) := askAll rest args
    (answer :: answers, args)

/-- After some requests, the names that were asked for hold nothing and the others what they held.
-/
theorem get?_askAll (requests : List Inquiry) (args : Bindings) (name : String) :
    (askAll requests args).2.values.get? name =
      if name ∈ requests.map (·.name) then none else args.values.get? name := by
  induction requests generalizing args with
  | nil => rfl
  | cons r rest ih =>
      simp only [askAll, Getter.outcome_ask, ih, Bindings.get?_without, List.map_cons,
        List.mem_cons]
      by_cases hname : r.name = name
      · simp [hname]
      · simp [hname, Ne.symm hname]

/-- The answer to a request in the midst of others depends on whether its name was asked for
before. -/
theorem getElem?_askAll (before : List Inquiry) (r : Inquiry) (after : List Inquiry)
    (args : Bindings) :
    (askAll (before ++ r :: after) args).1[before.length]? =
      some (r.getter.answer args.rule r.name
        (if r.name ∈ before.map (·.name) then none else args.values.get? r.name)) := by
  induction before generalizing args with
  | nil => simp [askAll, Getter.outcome_ask]
  | cons first rest ih =>
      simp only [List.cons_append, askAll, Getter.outcome_ask, List.length_cons,
        List.getElem?_cons_succ, ih, Bindings.get?_without, List.map_cons, List.mem_cons]
      by_cases hname : first.name = r.name
      · simp [hname, Bindings.without]
      · simp [hname, Ne.symm hname, Bindings.without]

/-- A request after others finds a value: its name is bound, and none of the others asked for it. -/
def IsHeld (types : TypeTable) (node : RuleNode) (params : List Parameter) (before : List Inquiry)
    (name : String) (arg : Argument) : Prop :=
  name ∉ before.map (·.name) ∧ Bindings.IsBoundTo types node params name arg

variable {types : TypeTable} {node : RuleNode} {params : List Parameter} {args : Bindings}

/-- A name holds what it is bound to until it is asked for. -/
theorem isHeld_iff (h : Bindings.bind types node params = .ok args) (before : List Inquiry)
    (name : String) (arg : Argument) :
    (if name ∈ before.map (·.name) then none else args.values.get? name) = some arg ↔
      IsHeld types node params before name arg := by
  rw [IsHeld, ← Bindings.get?_eq_some_iff_isBoundTo h]
  split
  · next hasked => simp [hasked]
  · next hfirst => simp only [hfirst, not_false_eq_true, true_and]

/-- Binding fails exactly with the first parameter that is refused.  Otherwise, of any requests for
any names, each is answered with the value that its name is bound to if no earlier one asked for the
name and the kind is the last declared one.  If the kind is another, the request fails, and the
value is gone for all later ones.  If there is no value, because the name was never bound or was
asked for before, the answer is the default of the way of asking, or the request fails.  Requests
for other names make no difference. -/
theorem bound_values_are_handed_out_once (types : TypeTable) (node : RuleNode)
    (params : List Parameter) :
    (∀ e, Bindings.bind types node params = .error e ↔
      ∃ before p after, params = before ++ p :: after ∧
        (∀ q ∈ before, q.IsAccepted types node) ∧ p.IsRefused types node e) ∧
    ∀ args, Bindings.bind types node params = .ok args →
      (∀ requests name arg, (askAll requests args).2.values.get? name = some arg ↔
        IsHeld types node params requests name arg) ∧
      ∀ before r after, ∃ answer,
        (askAll (before ++ r :: after) args).1[before.length]? = some answer ∧
        (∀ given, answer = .ok given ↔
          (∃ arg, IsHeld types node params before r.name arg ∧ arg.kind = r.getter.kind ∧
            given = some arg) ∨
          (∀ arg, ¬IsHeld types node params before r.name arg) ∧
            r.getter.default? = some given) ∧
        ∀ e, answer = .error e ↔
          (∃ arg, IsHeld types node params before r.name arg ∧ arg.kind ≠ r.getter.kind ∧
            e = .invalidParameter node.name r.name "" (.notDeclaredAs r.getter.kind)) ∨
          (∀ arg, ¬IsHeld types node params before r.name arg) ∧
            r.getter.default? = none ∧ e = .missingParameter node.name r.name := by
  constructor
  · intro e
    rw [Bindings.bind_eq_error_iff, List.findSome?_eq_some_iff]
    simp only [Parameter.defect?_eq_some_iff_isRefused, Parameter.defect?_eq_none_iff]
    constructor
    · rintro ⟨before, p, after, hparams, hp, hbefore⟩
      exact ⟨before, p, after, hparams, hbefore, hp⟩
    · rintro ⟨before, p, after, hparams, hbefore, hp⟩
      exact ⟨before, p, after, hparams, hp, hbefore⟩
  · intro args hargs
    have hrule : args.rule = node.name := by
      rcases map_eq_ok_iff.1 hargs with ⟨_, _, rfl⟩
      rfl
    refine ⟨?_, ?_⟩
    · intro requests name arg
      rw [get?_askAll, isHeld_iff hargs]
    · intro before r after
      refine ⟨_, getElem?_askAll before r after args, ?_, ?_⟩
      · intro given
        rw [Getter.answer_eq_ok_iff, Option.eq_none_iff_forall_ne_some]
        simp only [ne_eq, isHeld_iff hargs]
      · intro e
        rw [Getter.answer_eq_error_iff, Option.eq_none_iff_forall_ne_some, hrule]
        simp only [ne_eq, isHeld_iff hargs]

/-- A rule with a number, which is declared as a text first. -/
def portRule : RuleNode := ⟨"port", none, .ofList [("number", " 8080 ")], []⟩

/-- The parameters of the rule; one of them is not given. -/
def portParameters : List Parameter :=
  [⟨"number", .text, true⟩, ⟨"secure", .flag, false⟩, ⟨"number", .integer, true⟩]

/-- The number is handed out to the first request, after one for the flag that is not given, and the
second request fails; asked for as a text it is lost. -/
theorem bound_values_are_handed_out_once_port :
    ∃ args, Bindings.bind .standard portRule portParameters = .ok args ∧
      let history := askAll [⟨.flag, "secure"⟩, ⟨.integer, "number"⟩, ⟨.integer, "number"⟩] args
      let mistaken := askAll [⟨.text, "number"⟩, ⟨.text, "number"⟩] args
      history.1[0]? = some (.ok (some (.flag false))) ∧
      history.1[1]? = some (.ok (some (.integer 8080))) ∧
      history.1[2]? = some (.error (.missingParameter "port" "number")) ∧
      mistaken.1[0]? =
        some (.error (.invalidParameter "port" "number" "" (.notDeclaredAs .text))) ∧
      mistaken.1[1]? = some (.ok (some (.text ""))) := by
  have hread : Integer.read64 (Text.trimList " 8080 ".toList) = .ok 8080 :=
    value?_eq_some_iff.1 (by decide +kernel)
  have hnumber : portRule.parameter? "number" = some " 8080 " := by decide +kernel
  have hsecure : portRule.parameter? "secure" = none := by decide +kernel
  have hbound : Bindings.IsBoundTo .standard portRule portParameters "number" (.integer 8080) :=
    ⟨⟨"number", .integer, true⟩, " 8080 ", ⟨portParameters.take 2, [], rfl, rfl, by simp⟩, hnumber,
      rfl, hread⟩
  have hunbound (before : List Inquiry) (arg : Argument) :
      ¬IsHeld .standard portRule portParameters before "secure" arg := by
    rintro ⟨_, _, _, _, hgiven, _⟩
    simp [hsecure] at hgiven
  have hgone {before : List Inquiry} (hasked : "number" ∈ before.map (·.name)) (arg : Argument) :
      ¬IsHeld .standard portRule portParameters before "number" arg := by
    rintro ⟨hfirst, _⟩
    exact hfirst hasked
  have hbinds : failure? (Bindings.bind .standard portRule portParameters) = none := by
    decide +kernel
  cases hargs : Bindings.bind .standard portRule portParameters with
  | error e => simp [hargs] at hbinds
  | ok args =>
      rcases bound_values_are_handed_out_once .standard portRule portParameters with ⟨_, hasks⟩
      rcases hasks args hargs with ⟨_, hanswers⟩
      refine ⟨args, rfl, ?_, ?_, ?_, ?_, ?_⟩
      · rcases hanswers [] ⟨.flag, "secure"⟩ _ with ⟨answer, hanswer, hok, _⟩
        have hdefault : answer = .ok (some (.flag false)) := (hok _).2 (.inr ⟨hunbound [], rfl⟩)
        exact hanswer.trans (congrArg some hdefault)
      · rcases hanswers [⟨.flag, "secure"⟩] ⟨.integer, "number"⟩ _ with ⟨answer, hanswer, hok, _⟩
        have hgiven : answer = .ok (some (.integer 8080)) :=
          (hok _).2 (.inl ⟨_, ⟨by simp, hbound⟩, rfl, rfl⟩)
        exact hanswer.trans (congrArg some hgiven)
      · rcases hanswers [⟨.flag, "secure"⟩, ⟨.integer, "number"⟩] ⟨.integer, "number"⟩ _ with
          ⟨answer, hanswer, _, herror⟩
        have hmissing : answer = .error (.missingParameter "port" "number") :=
          (herror _).2 (.inr ⟨hgone (by simp), rfl, rfl⟩)
        exact hanswer.trans (congrArg some hmissing)
      · rcases hanswers [] ⟨.text, "number"⟩ _ with ⟨answer, hanswer, _, herror⟩
        have hwrong : answer =
            .error (.invalidParameter "port" "number" "" (.notDeclaredAs .text)) :=
          (herror _).2 (.inl ⟨_, ⟨by simp, hbound⟩, by simp [Argument.kind, Getter.kind], rfl⟩)
        exact hanswer.trans (congrArg some hwrong)
      · rcases hanswers [⟨.text, "number"⟩] ⟨.text, "number"⟩ _ with ⟨answer, hanswer, hok, _⟩
        have hempty : answer = .ok (some (.text "")) :=
          (hok _).2 (.inr ⟨hgone (by simp), rfl⟩)
        exact hanswer.trans (congrArg some hempty)

end ErrorTriage
