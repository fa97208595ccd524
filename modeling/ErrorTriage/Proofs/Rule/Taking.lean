import ErrorTriage.Rule.Parameter

/-!
# Rule.Taking — what handing out a bound value does

A builder is run on bindings and leaves bindings behind.  Each way of asking for a value is
described by one equation: it looks the name up and leaves the bindings without that name.
-/

namespace ErrorTriage

/-- The bindings once the value of a name was handed out. -/
def Bindings.without (args : Bindings) (name : String) : Bindings :=
  { args with values := args.values.erase name }

/-- What was taken is gone, and the rest is there. -/
theorem Bindings.get?_without (args : Bindings) (name other : String) :
    (args.without name).values.get? other =
      if name = other then none else args.values.get? other :=
  SortedMap.get?_erase args.values name other

namespace Taking

variable {α β : Type}

/-- The result of a builder and the bindings that it leaves. -/
def outcome (t : Taking α) (args : Bindings) : Except RuleError α × Bindings :=
  t.run.run args

theorem runOn_eq_outcome (t : Taking α) (args : Bindings) : t.runOn args = (t.outcome args).1 :=
  rfl

/-- What is done after another goes on with what is left. -/
theorem outcome_bind (t : Taking α) (f : α → Taking β) (args : Bindings) :
    (t >>= f).outcome args =
      match t.outcome args with
      | (.ok a, rest) => (f a).outcome rest
      | (.error e, rest) => (.error e, rest) := by
  change (ExceptT.bindCont (fun a => f a) (t.outcome args).1 : StateM Bindings _)
    (t.outcome args).2 = _
  rcases h : t.outcome args with ⟨result, rest⟩
  cases result <;> rfl

/-- After an answer the next request goes on with it. -/
theorem outcome_bind_ok {t : Taking α} {args rest : Bindings} {a : α}
    (h : t.outcome args = (.ok a, rest)) (f : α → Taking β) :
    (t >>= f).outcome args = (f a).outcome rest := by
  simp only [outcome_bind, h]

/-- What is held under a name is taken away. -/
theorem outcome_take {args : Bindings} {name : String} {found : Option Argument}
    (h : args.values.get? name = found) :
    (take name).outcome args = (.ok found, args.without name) := by
  subst h
  rfl

/-! ## Values that are bound as they are asked for -/

theorem outcome_expression {args : Bindings} {name : String} {e : Expression}
    (h : args.values.get? name = some (.expression e)) :
    (expression name).outcome args = (.ok e, args.without name) :=
  outcome_bind_ok (outcome_take h) _

theorem outcome_optionalExpression {args : Bindings} {name : String} {e? : Option Expression}
    (h : args.values.get? name = e?.map .expression) :
    (optionalExpression name).outcome args = (.ok e?, args.without name) := by
  refine (outcome_bind_ok (outcome_take h) _).trans ?_
  cases e? <;> rfl

/-- A type that is held is handed out. -/
theorem outcome_namedType {args : Bindings} {name : String} {t : NamedType}
    (h : args.values.get? name = some (.namedType t)) :
    (namedType name).outcome args = (.ok t, args.without name) :=
  outcome_bind_ok (outcome_take h) _

/-- A code that is held is handed out. -/
theorem outcome_typeCode {args : Bindings} {name : String} {code : TypeCode}
    (h : args.values.get? name = some (.typeCode code)) :
    (typeCode name).outcome args = (.ok code, args.without name) :=
  outcome_bind_ok (outcome_take h) _

/-- A text is handed out, the empty one if there is none. -/
theorem outcome_text {args : Bindings} {name : String} {s? : Option String}
    (h : args.values.get? name = s?.map .text) :
    (text name).outcome args = (.ok (s?.getD ""), args.without name) := by
  refine (outcome_bind_ok (outcome_take h) _).trans ?_
  cases s? <;> rfl

/-- A flag is handed out, the lowered one if there is none. -/
theorem outcome_flag {args : Bindings} {name : String} {b? : Option Bool}
    (h : args.values.get? name = b?.map .flag) :
    (flag name).outcome args = (.ok (b?.getD false), args.without name) := by
  refine (outcome_bind_ok (outcome_take h) _).trans ?_
  cases b? <;> rfl

end Taking
end ErrorTriage
