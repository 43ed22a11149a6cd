import VmToolchain.Proofs.Evaluation.Values

/-! What the two policies make of the same input. On trees they come to the same results, and they
fail together; only the error for arithmetic on a string has another name. On values from elsewhere
the strict policy also refuses assignments, and then it looks at their targets.
-/

namespace VmToolchain

-----------------------------------------------------------------------------------------
-- Results that differ in the name of an error
-----------------------------------------------------------------------------------------

/-- An error under the lenient policy and the one that the strict policy reports in its place. Where
the first names a string among the operands of arithmetic, the second names their two categories;
no other error differs.
-/
inductive FoldError.Renamed : FoldError → FoldError → Prop
  | notImplemented (op : Operator) (rule : RuleKind)
    : Renamed (.notImplemented op rule) (.notImplemented op rule)
  | arity (op : Operator) (expected actual : Nat)
    : Renamed (.arity op expected actual) (.arity op expected actual)
  | mismatch (op : Operator) (text : String) {left right : Category}
    (string : left = .stringLike ∨ right = .stringLike)
    (leftKnown : left ≠ .unknown) (rightKnown : right ≠ .unknown)
    : Renamed (.notNumeric op (.str text)) (.typeMismatch op [left, right])

/-- The results of one computation under the lenient and under the strict policy, when these differ
in nothing but the name of an error.
-/
inductive PolicyAgreement {α : Type} : Except FoldError α → Except FoldError α → Prop
  | value (value : α) : PolicyAgreement (.ok value) (.ok value)
  | error {lenient strict : FoldError} (renamed : lenient.Renamed strict)
    : PolicyAgreement (.error lenient) (.error strict)

namespace PolicyAgreement

variable {α β : Type}

/-- Two steps agree when the first do, and the second do on every value that the first give. -/
theorem bind {lenient strict : Except FoldError α} {next next' : α → Except FoldError β}
    (first : PolicyAgreement lenient strict)
    (second : ∀ value, lenient = .ok value → PolicyAgreement (next value) (next' value))
    : PolicyAgreement (lenient >>= next) (strict >>= next') := by
  cases first with
  | value value => exact second value rfl
  | error renamed => exact .error renamed

/-- Changing the values alike keeps the agreement. -/
theorem map (change : α → β) {lenient strict : Except FoldError α}
    (h : PolicyAgreement lenient strict)
    : PolicyAgreement (change <$> lenient) (change <$> strict) := by
  cases h with
  | value value => exact .value (change value)
  | error renamed => exact .error renamed

/-- Steps for the members of a list agree when those for each member do. -/
theorem mapM {lenient strict : α → Except FoldError β} {items : List α}
    (h : ∀ item ∈ items, PolicyAgreement (lenient item) (strict item))
    : PolicyAgreement (items.mapM lenient) (items.mapM strict) := by
  induction items with
  | nil => exact .value []
  | cons item rest ih =>
      rw [List.mapM_cons, List.mapM_cons]
      refine (h item List.mem_cons_self).bind (fun value _ => ?_)
      refine (ih (fun item member => h item (List.mem_cons_of_mem _ member))).bind ?_
      exact fun values _ => .value (value :: values)

theorem strict_ne_notNumeric {lenient strict : Except FoldError α}
    (h : PolicyAgreement lenient strict) (op : Operator) (value : Constant)
    : strict ≠ .error (.notNumeric op value) := by
  rintro rfl
  cases h with
  | error renamed => cases renamed

theorem lenient_ne_typeMismatch {lenient strict : Except FoldError α}
    (h : PolicyAgreement lenient strict) (op : Operator) (categories : List Category)
    : lenient ≠ .error (.typeMismatch op categories) := by
  rintro rfl
  cases h with
  | error renamed => cases renamed

end PolicyAgreement

-----------------------------------------------------------------------------------------
-- One application
-----------------------------------------------------------------------------------------

namespace Operator

/-- Only the number of operands and a missing rule stop the type rule, whatever the policy. -/
theorem inferType_error_renamed {op : Operator} {operands : List TypedValue} {error : FoldError}
    (h : op.inferType operands = .error error)
    : error.Renamed error := by
  cases op with
  | plus | minus | assignment =>
      rcases bind_eq_error.mp h with unpaired | ⟨_, _, h⟩
      · rw [operandPair_eq_error unpaired]
        exact .arity _ _ _
      · contradiction
  | arrow | functionCall =>
      cases h
      exact .notImplemented _ _

theorem conclude_policies {op : Operator} {operands : List TypedValue}
    (consistent : ∀ operand ∈ operands, operand.Consistent)
    : PolicyAgreement (op.conclude .lenient operands) (op.conclude .strict operands) := by
  cases inferred : op.inferType operands with
  | error error =>
      rw [conclude_of_inferType_error inferred, conclude_of_inferType_error inferred]
      exact .error (inferType_error_renamed inferred)
  | ok verdict =>
      rcases folds_or_mismatch consistent inferred with
        ⟨passes, value, folded⟩ | ⟨rfl, left, right, text, rfl, string, folded⟩
      · have reached (policy : Policy) : op.conclude policy operands = .ok (verdict, value) :=
          conclude_eq_ok.mpr ⟨inferred, fun refused => passes refused.2, folded⟩
        rw [reached, reached]
        exact .value (verdict, value)
      · -- Both operands are known, so the strict policy stops before the fold rule meets the string.
        have lenient : op.conclude .lenient [.known left, .known right]
            = .error (.notNumeric op (.str text)) := by
          rw [conclude, inferred, folded]
          rfl
        have strict : op.conclude .strict [.known left, .known right]
            = .error (.typeMismatch op [left.category, right.category]) := by
          rw [conclude, inferred]
          rfl
        rw [lenient, strict]
        exact .error (.mismatch op text string left.category_ne_unknown right.category_ne_unknown)

end Operator

-----------------------------------------------------------------------------------------
-- Whole trees
-----------------------------------------------------------------------------------------

namespace Expr

theorem evaluateAll_policies {es : List Expr}
    (h : ∀ e ∈ es, PolicyAgreement (evaluate .lenient e).result (evaluate .strict e).result)
    : PolicyAgreement (evaluateAll .lenient es).result (evaluateAll .strict es).result := by
  rw [evaluateAll_result, evaluateAll_result]
  exact .mapM h

/-- Evaluation agrees, by induction on the tree: the operands have consistent values, and on these
the policies agree.
-/
theorem evaluate_policies (e : Expr)
    : PolicyAgreement (evaluate .lenient e).result (evaluate .strict e).result := by
  induction e using treeInduction with
  | literal value => exact .value _
  | var name type => cases type <;> exact .value _
  | apply op operands ih =>
      rw [evaluate_apply_result, evaluate_apply_result]
      split
      · refine (evaluateAll_policies ih).bind (fun values evaluated => ?_)
        exact (Operator.conclude_policies (evaluateAll_consistent evaluated)).map Prod.snd
      · exact .error (.notImplemented _ _)
  | call callee args _ _ =>
      rw [evaluate_call_result, evaluate_call_result]
      exact .error (.notImplemented _ _)
  | lambda params body _ => exact .error (.notImplemented _ _)

theorem inferApply_policies (op : Operator) (es : List Expr)
    : PolicyAgreement (Policy.inferApply op (fun _ => evaluateAll .lenient es)).result
        (Policy.inferApply op (fun _ => evaluateAll .strict es)).result := by
  rw [Policy.inferApply_result, Policy.inferApply_result]
  split
  · refine (evaluateAll_policies (fun e _ => evaluate_policies e)).bind (fun values _ => ?_)
    -- The type rule is the same under both policies.
    cases inferred : op.inferType values with
    | error error => exact .error (Operator.inferType_error_renamed inferred)
    | ok verdict => exact .value verdict
  · exact .error (.notImplemented _ _)

theorem infer_policies (e : Expr)
    : PolicyAgreement (infer .lenient e).result (infer .strict e).result := by
  cases e with
  | apply op operands => exact inferApply_policies op operands
  | call callee args => exact inferApply_policies .functionCall args
  | lambda params body => exact inferApply_policies .arrow []
  | literal value => exact .value _
  | var name type => cases type <;> exact .value _

theorem collapse_policies (op : Operator) (operands : List Expr)
    : PolicyAgreement (collapse .lenient op operands).result
        (collapse .strict op operands).result := by
  unfold collapse
  split
  · rw [Traced.result_bind, Traced.result_bind]
    refine (evaluate_policies (.apply op operands)).bind (fun value _ => ?_)
    split <;> exact .value _
  · exact .value _

theorem foldAll_policies {es : List Expr}
    (h : ∀ e ∈ es, PolicyAgreement (fold .lenient e).result (fold .strict e).result)
    : PolicyAgreement (foldAll .lenient es).result (foldAll .strict es).result := by
  rw [foldAll_result, foldAll_result]
  exact .mapM h

theorem fold_policies (e : Expr)
    : PolicyAgreement (fold .lenient e).result (fold .strict e).result := by
  induction e using treeInduction with
  | literal value => exact .value _
  | var name type => exact .value _
  | lambda params body _ => exact .value _
  | call callee args hc ha =>
      rw [fold_call_result, fold_call_result]
      exact hc.bind (fun callee _ => (foldAll_policies ha).map (Expr.call callee))
  | apply op operands ih =>
      rw [fold_apply_result, fold_apply_result]
      split
      · exact (foldAll_policies ih).bind (fun folded _ => collapse_policies op folded)
      · exact .value _

/-- The strict and the lenient policy differ only in the name of one error. Each of evaluation,
inference and folding gives the same under both, or fails under both with errors that are equal, or
that name a string under the one and two categories under the other. So the strict policy never
names a string, and the lenient one never a mismatch.
-/
theorem policies_differ_in_one_error (e : Expr)
    : (PolicyAgreement (evaluate .lenient e).result (evaluate .strict e).result
        ∧ PolicyAgreement (infer .lenient e).result (infer .strict e).result
        ∧ PolicyAgreement (fold .lenient e).result (fold .strict e).result)
      ∧ (∀ op value,
          (evaluate .strict e).result ≠ .error (.notNumeric op value)
          ∧ (infer .strict e).result ≠ .error (.notNumeric op value)
          ∧ (fold .strict e).result ≠ .error (.notNumeric op value))
      ∧ ∀ op categories,
          (evaluate .lenient e).result ≠ .error (.typeMismatch op categories)
          ∧ (infer .lenient e).result ≠ .error (.typeMismatch op categories)
          ∧ (fold .lenient e).result ≠ .error (.typeMismatch op categories) := by
  refine ⟨⟨evaluate_policies e, infer_policies e, fold_policies e⟩, ?_, ?_⟩
  · intro op value
    exact ⟨(evaluate_policies e).strict_ne_notNumeric op value,
      (infer_policies e).strict_ne_notNumeric op value,
      (fold_policies e).strict_ne_notNumeric op value⟩
  · intro op categories
    exact ⟨(evaluate_policies e).lenient_ne_typeMismatch op categories,
      (infer_policies e).lenient_ne_typeMismatch op categories,
      (fold_policies e).lenient_ne_typeMismatch op categories⟩

example
    : (fold .lenient (.apply .minus [str "a", int 1])).result
        = .error (.notNumeric .minus (.str "a"))
      ∧ (fold .strict (.apply .minus [str "a", int 1])).result
        = .error (.typeMismatch .minus [.stringLike, .integral]) :=
  ⟨rfl, rfl⟩

end Expr

-----------------------------------------------------------------------------------------
-- Assignments of any values
-----------------------------------------------------------------------------------------

namespace Policy

/-- An assignment has its value, unless the strict policy meets a constant of unknown category in
front of a known target.
-/
theorem apply_assignment_result (policy : Policy) (value target : TypedValue)
    : (policy.apply .assignment (fun _ => .leaves [value, target])).result
      = if (policy = .strict ∧ value.category = .unknown ∧ value.isKnown = true)
            ∧ target.isKnown = true then
          .error (.typeMismatch .assignment [value.category, target.category])
        else .ok value := by
  have inferred : Operator.inferType .assignment [value, target] = .ok value.category := rfl
  have known : [value, target].all TypedValue.isKnown = true
      ↔ value.isKnown = true ∧ target.isKnown = true := by
    simp
  rw [apply_result]
  change Prod.snd <$> Operator.conclude .assignment policy [value, target] = _
  rw [Operator.conclude, inferred]
  simp only [bind, Except.bind, known, and_assoc]
  split <;> rfl

/-- The result of an assignment does not depend on its target, except in one case. Under the strict
policy, where the value is a constant of unknown category, two targets give the same result only
if neither is known, or if both are and have the same category. The verdict never depends on the
target.
-/
theorem assignment_ignores_target_iff (policy : Policy) (value first second : TypedValue)
    : ((policy.apply .assignment (fun _ => .leaves [value, first])).result
          = (policy.apply .assignment (fun _ => .leaves [value, second])).result
        ↔ ¬(policy = .strict ∧ value.category = .unknown ∧ value.isKnown = true)
          ∨ first.isKnown = second.isKnown
            ∧ (first.isKnown = true → first.category = second.category))
      ∧ (inferApply .assignment (fun _ => .leaves [value, first])).result
        = (inferApply .assignment (fun _ => .leaves [value, second])).result := by
  refine ⟨?_, rfl⟩
  rw [apply_assignment_result, apply_assignment_result]
  by_cases looks : policy = .strict ∧ value.category = .unknown ∧ value.isKnown = true
  · cases first.isKnown <;> cases second.isKnown <;> simp [looks]
  · simp [looks]

/-- A known target makes the strict policy refuse what it lets pass before an unknown one. -/
theorem strict_assignment_depends_on_target
    : (strict.apply .assignment
          (fun _ => .leaves [⟨some (.int 1), .unknown⟩, .known (.int 2)])).result
      ≠ (strict.apply .assignment
          (fun _ => .leaves [⟨some (.int 1), .unknown⟩, .unknown .integral])).result :=
  nofun

end Policy

end VmToolchain
