import VmToolchain.Folding

/-! What computations end with, their events left aside. Evaluation and folding are stated on
results alone, so that later proofs open neither the trace nor the monad.
-/

namespace VmToolchain

-----------------------------------------------------------------------------------------
-- Steps that may fail, one after the other
-----------------------------------------------------------------------------------------

section Except

variable {ε ε' α β : Type}

/-- Two steps succeed together when the first does, and the second does on its value. -/
theorem bind_eq_ok {first : Except ε α} {next : α → Except ε β} {value : β}
    : first >>= next = .ok value ↔ ∃ middle, first = .ok middle ∧ next middle = .ok value := by
  cases first with
  | error error => simp [bind, Except.bind]
  | ok middle => simp [bind, Except.bind]

/-- Two steps fail where the first does, or where it succeeds and the second fails. -/
theorem bind_eq_error {first : Except ε α} {next : α → Except ε β} {error : ε}
    : first >>= next = .error error
      ↔ first = .error error ∨ ∃ middle, first = .ok middle ∧ next middle = .error error := by
  cases first with
  | error other => simp [bind, Except.bind]
  | ok middle => simp [bind, Except.bind]

/-- A changed value comes from a value. -/
theorem map_eq_ok {change : α → β} {first : Except ε α} {value : β}
    : change <$> first = .ok value ↔ ∃ middle, first = .ok middle ∧ change middle = value := by
  cases first with
  | error error => simp [Functor.map, Except.map]
  | ok middle => simp [Functor.map, Except.map]

/-- Changing the value changes no error. -/
theorem map_eq_error {change : α → β} {first : Except ε α} {error : ε}
    : change <$> first = .error error ↔ first = .error error := by
  cases first with
  | error other => simp [Functor.map, Except.map]
  | ok middle => simp [Functor.map, Except.map]

theorem mapError_eq_ok {change : ε → ε'} {first : Except ε α} {value : α}
    : first.mapError change = .ok value ↔ first = .ok value := by
  cases first with
  | error error => exact ⟨nofun, nofun⟩
  | ok middle => constructor <;> rintro ⟨⟩ <;> rfl

end Except

namespace Traced

variable {α β : Type}

@[simp]
theorem result_pure (value : α) : (pure value : Traced α).result = .ok value := rfl

@[simp]
theorem result_ofExcept (result : Except FoldError α) : (ofExcept result).result = result := rfl

@[simp]
theorem result_leaf (value : TypedValue) : (leaf value).result = .ok value := rfl

@[simp]
theorem result_map (change : α → β) (traced : Traced α)
    : (change <$> traced).result = change <$> traced.result := rfl

@[simp]
theorem result_bind (first : Traced α) (next : α → Traced β)
    : (first >>= next).result = first.result >>= fun value => (next value).result := by
  change (andThen first next).result = _
  cases h : first.result with
  | error error => simp only [andThen, h, bind, Except.bind]
  | ok value => simp only [andThen, h, bind, Except.bind]

end Traced

-----------------------------------------------------------------------------------------
-- Results of evaluation
-----------------------------------------------------------------------------------------

/-- The value of an application, given those of its operands. -/
theorem Policy.apply_result (policy : Policy) (op : Operator)
    (operands : Unit → Traced (List TypedValue))
    : (policy.apply op operands).result
      = if op.hasRules then
          (operands ()).result >>= fun values => Prod.snd <$> op.conclude policy values
        else .error (.notImplemented op .type) := by
  unfold Policy.apply
  split
  · dsimp only
    cases evaluated : (operands ()).result with
    | error error => rfl
    | ok values =>
        simp only [bind, Except.bind]
        cases op.conclude policy values <;> rfl
  · rfl

/-- The verdict on an application, given the values of its operands. -/
theorem Policy.inferApply_result (op : Operator) (operands : Unit → Traced (List TypedValue))
    : (Policy.inferApply op operands).result
      = if op.hasRules then (operands ()).result >>= op.inferType
        else .error (.notImplemented op .type) := by
  unfold Policy.inferApply
  split
  · rw [Traced.result_bind]
    rfl
  · rfl

/-- An operator comes to a value when the type rule has a verdict that the policy lets pass, and
the fold rule has the value.
-/
theorem Operator.conclude_eq_ok {op : Operator} {policy : Policy} {operands : List TypedValue}
    {verdict : Category} {value : TypedValue}
    : op.conclude policy operands = .ok (verdict, value)
      ↔ op.inferType operands = .ok verdict
        ∧ ¬(policy = .strict ∧ verdict = .unknown ∧ operands.all TypedValue.isKnown = true)
        ∧ op.fold operands = .ok value := by
  unfold Operator.conclude
  rw [bind_eq_ok]
  constructor
  · rintro ⟨found, inferred, h⟩
    split at h
    · contradiction
    · next passes =>
        obtain ⟨result, folded, h⟩ := bind_eq_ok.mp h
        cases h
        exact ⟨inferred, passes, folded⟩
  · rintro ⟨inferred, passes, folded⟩
    refine ⟨verdict, inferred, ?_⟩
    rw [if_neg passes, folded]
    rfl

/-- Where the type rule fails, neither the policy nor the fold rule is asked. -/
theorem Operator.conclude_of_inferType_error {op : Operator} {policy : Policy}
    {operands : List TypedValue} {error : FoldError} (h : op.inferType operands = .error error)
    : op.conclude policy operands = .error error := by
  rw [Operator.conclude, h]
  rfl

namespace Expr

theorem evaluate_apply_result (policy : Policy) (op : Operator) (operands : List Expr)
    : (evaluate policy (.apply op operands)).result
      = if op.hasRules then
          (evaluateAll policy operands).result >>= fun values =>
            Prod.snd <$> op.conclude policy values
        else .error (.notImplemented op .type) := by
  rw [evaluate, Policy.apply_result]

/-- A call has no value, whatever its callee and its arguments are. -/
theorem evaluate_call_result (policy : Policy) (callee : Expr) (args : List Expr)
    : (evaluate policy (.call callee args)).result
      = .error (.notImplemented .functionCall .type) := by
  rw [evaluate, Policy.apply_result]
  rfl

theorem evaluateAll_cons_result (policy : Policy) (e : Expr) (rest : List Expr)
    : (evaluateAll policy (e :: rest)).result
      = (evaluate policy e).result >>= fun value =>
          (value :: ·) <$> (evaluateAll policy rest).result := by
  simp only [evaluateAll, Traced.result_bind, Traced.result_map]

theorem infer_apply_result (policy : Policy) (op : Operator) (operands : List Expr)
    : (infer policy (.apply op operands)).result
      = if op.hasRules then (evaluateAll policy operands).result >>= op.inferType
        else .error (.notImplemented op .type) := by
  rw [infer, Policy.inferApply_result]

theorem infer_call_result (policy : Policy) (callee : Expr) (args : List Expr)
    : (infer policy (.call callee args)).result = .error (.notImplemented .functionCall .type) := by
  rw [infer, Policy.inferApply_result]
  rfl

-----------------------------------------------------------------------------------------
-- Results of folding
-----------------------------------------------------------------------------------------

theorem fold_apply_result (policy : Policy) (op : Operator) (operands : List Expr)
    : (fold policy (.apply op operands)).result
      = if op.hasRules then
          (foldAll policy operands).result >>= fun folded => (collapse policy op folded).result
        else .ok (.apply op operands) := by
  rw [fold]
  split <;> simp only [Traced.result_bind, Traced.result_pure]

theorem fold_call_result (policy : Policy) (callee : Expr) (args : List Expr)
    : (fold policy (.call callee args)).result
      = (fold policy callee).result >>= fun callee =>
          Expr.call callee <$> (foldAll policy args).result := by
  simp only [fold, Traced.result_bind, Traced.result_map]

theorem foldAll_cons_result (policy : Policy) (e : Expr) (rest : List Expr)
    : (foldAll policy (e :: rest)).result
      = (fold policy e).result >>= fun e =>
          (e :: ·) <$> (foldAll policy rest).result := by
  simp only [foldAll, Traced.result_bind, Traced.result_map]

end Expr

end VmToolchain
