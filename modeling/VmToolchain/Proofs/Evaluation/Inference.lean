import VmToolchain.Proofs.Evaluation.Values
import VmToolchain.Proofs.Folding.Substitution

/-! The verdict of inference beside the value of evaluation. The two come from different rules at the
root of a tree, and they part in two cases, both with an unknown verdict on arithmetic: the value is
an integer that is not known, or there is none because one of two constants is a string. Folding
keeps the values that a verdict is made from, so it keeps the verdict as well.
-/

namespace VmToolchain

-----------------------------------------------------------------------------------------
-- The type rule and the fold rule on the same operands
-----------------------------------------------------------------------------------------

namespace Operator

theorem verdict_of_arithmetic {op : Operator} {operands : List TypedValue} {verdict : Category}
    (arithmetic : op.isArithmetic = true) (inferred : op.inferType operands = .ok verdict)
    : verdict = .integral ∨ verdict = .unknown := by
  cases op with
  | plus | minus =>
      obtain ⟨pair, _, inferred⟩ := bind_eq_ok.mp inferred
      cases inferred
      split
      · exact Or.inl rfl
      · exact Or.inr rfl
  | assignment | arrow | functionCall => contradiction

/-- On consistent operands the verdict is the category of the value, or it is unknown, and then the
operator is arithmetic and does not know the value.
-/
theorem verdict_of_fold {op : Operator} {operands : List TypedValue} {verdict : Category}
    {value : TypedValue} (consistent : ∀ operand ∈ operands, operand.Consistent)
    (inferred : op.inferType operands = .ok verdict) (folded : op.fold operands = .ok value)
    : verdict = value.category
      ∨ verdict = .unknown ∧ op.isArithmetic = true ∧ value.isKnown = false := by
  rcases folds_or_mismatch consistent inferred with ⟨passes, _⟩ | ⟨_, _, _, _, _, _, failed⟩
  · cases op with
    | plus | minus =>
        rcases verdict_of_arithmetic rfl inferred with rfl | rfl
        · exact Or.inl (category_of_fold rfl folded).symm
        · -- With all operands known, an unknown verdict would have been a mismatch.
          refine Or.inr ⟨rfl, rfl, Bool.eq_false_iff.mpr ?_⟩
          intro known
          have operandsKnown := (isKnown_of_fold rfl folded).mp known
          exact passes ⟨rfl, List.all_eq_true.mpr operandsKnown⟩
    | assignment =>
        obtain ⟨left, right, rfl⟩ := pair_of_inferType inferred
        cases inferred
        cases folded
        exact Or.inl rfl
    | arrow | functionCall => contradiction
  · cases folded.symm.trans failed

/-- Where the type rule has a verdict on consistent operands, there is no value just when arithmetic
meets two constants and one of them is a string. The verdict is unknown then.
-/
theorem conclude_fails_iff {op : Operator} {policy : Policy} {operands : List TypedValue}
    {verdict : Category} (consistent : ∀ operand ∈ operands, operand.Consistent)
    (inferred : op.inferType operands = .ok verdict)
    : (∃ error, op.conclude policy operands = .error error)
      ↔ verdict = .unknown
        ∧ op.isArithmetic = true
        ∧ ∃ left right,
            operands = [.known left, .known right]
            ∧ (left.category = .stringLike ∨ right.category = .stringLike) := by
  rcases folds_or_mismatch consistent inferred with
    ⟨passes, value, folded⟩ | ⟨rfl, left, right, text, rfl, string, failed⟩
  · have reached : op.conclude policy operands = .ok (verdict, value) :=
      conclude_eq_ok.mpr ⟨inferred, fun refused => passes refused.2, folded⟩
    rw [reached]
    refine ⟨nofun, ?_⟩
    rintro ⟨rfl, _, left, right, rfl, _⟩
    exact (passes ⟨rfl, rfl⟩).elim
  · have arithmetic : op.isArithmetic = true := by
      cases op with
      | plus | minus => rfl
      | assignment | arrow | functionCall => contradiction
    refine ⟨fun _ => ⟨rfl, arithmetic, left, right, rfl, string⟩, fun _ => ?_⟩
    cases concluded : op.conclude policy [.known left, .known right] with
    | error error => exact ⟨error, rfl⟩
    | ok result =>
        obtain ⟨_, _, folded⟩ := conclude_eq_ok.mp concluded
        cases folded.symm.trans failed

theorem inferType_of_string {op : Operator} {left right : Constant}
    (arithmetic : op.isArithmetic = true)
    (string : left.category = .stringLike ∨ right.category = .stringLike)
    : op.inferType [.known left, .known right] = .ok .unknown := by
  cases op with
  | plus | minus =>
      cases left with
      | str text => rfl
      | int m =>
          cases right with
          | str text => rfl
          | int n => rcases string with same | same <;> cases same
  | assignment | arrow | functionCall => contradiction

end Operator

-----------------------------------------------------------------------------------------
-- Verdicts on trees
-----------------------------------------------------------------------------------------

namespace Expr

/-- The root is arithmetic on two operands whose values are known, and one of them is a string. -/
def ComputesWithString (policy : Policy) (e : Expr) : Prop :=
  ∃ op left right a b,
    op.isArithmetic = true
    ∧ e = .apply op [left, right]
    ∧ (evaluate policy left).result = .ok (.known a)
    ∧ (evaluate policy right).result = .ok (.known b)
    ∧ (a.category = .stringLike ∨ b.category = .stringLike)

/-- How evaluation and inference may end on the same tree: with a value and its category, with a value
of arithmetic that neither knows, with the same failure, or with a failure on a string that is no
failure of inference.
-/
inductive VerdictAgreement (policy : Policy) (e : Expr)
    : Except FoldError TypedValue → Except FoldError Category → Prop
  | category (value : TypedValue) : VerdictAgreement policy e (.ok value) (.ok value.category)
  | undecided {op : Operator} {operands : List Expr} {value : TypedValue}
    (arithmetic : op.isArithmetic = true) (root : e = .apply op operands)
    (unknown : value.isKnown = false)
    : VerdictAgreement policy e (.ok value) (.ok .unknown)
  | failure (error : FoldError) : VerdictAgreement policy e (.error error) (.error error)
  | string (error : FoldError) (computes : ComputesWithString policy e)
    : VerdictAgreement policy e (.error error) (.ok .unknown)

/-- An operator's two rules agree on operands that have been evaluated. -/
theorem verdictAgreement_apply {policy : Policy} {op : Operator} {operands : List Expr}
    {values : List TypedValue} (evaluated : (evaluateAll policy operands).result = .ok values)
    : VerdictAgreement policy (.apply op operands) (Prod.snd <$> op.conclude policy values)
        (op.inferType values) := by
  have consistent := evaluateAll_consistent evaluated
  cases inferred : op.inferType values with
  | error error =>
      rw [Operator.conclude_of_inferType_error inferred]
      exact .failure error
  | ok verdict =>
      cases concluded : op.conclude policy values with
      | ok result =>
          obtain ⟨_, _, folded⟩ := Operator.conclude_eq_ok.mp concluded
          rcases Operator.verdict_of_fold consistent inferred folded with
            rfl | ⟨rfl, arithmetic, unknown⟩
          · exact .category result.2
          · exact .undecided arithmetic rfl unknown
      | error error =>
          obtain ⟨rfl, arithmetic, a, b, rfl, string⟩ :=
            (Operator.conclude_fails_iff consistent inferred).mp ⟨error, concluded⟩
          obtain ⟨left, right, rfl, hl, hr⟩ := evaluateAll_eq_ok_pair.mp evaluated
          exact .string error ⟨op, left, right, a, b, arithmetic, rfl, hl, hr, string⟩

theorem verdictAgreement (policy : Policy) (e : Expr)
    : VerdictAgreement policy e (evaluate policy e).result (infer policy e).result := by
  cases e with
  | literal value => exact .category (.known value)
  | var name type => cases type <;> exact .category (.unknown _)
  | call callee args =>
      rw [evaluate_call_result, infer_call_result]
      exact .failure _
  | lambda params body => exact .failure _
  | apply op operands =>
      rw [evaluate_apply_result, infer_apply_result]
      split
      · cases evaluated : (evaluateAll policy operands).result with
        | error error => exact .failure error
        | ok values => exact verdictAgreement_apply evaluated
      · exact .failure _

/-- Arithmetic on a string fails, and the verdict on it is unknown. -/
theorem ComputesWithString.results {policy : Policy} {e : Expr} (h : ComputesWithString policy e)
    : (∃ error, (evaluate policy e).result = .error error)
      ∧ (infer policy e).result = .ok .unknown := by
  obtain ⟨op, left, right, a, b, arithmetic, rfl, hl, hr, string⟩ := h
  have rules := Operator.hasRules_of_isArithmetic arithmetic
  have evaluated := evaluateAll_eq_ok_pair.mpr ⟨left, right, rfl, hl, hr⟩
  have inferred := Operator.inferType_of_string arithmetic string
  obtain ⟨error, failed⟩ : ∃ error, op.conclude policy [.known a, .known b] = .error error :=
    (Operator.conclude_fails_iff (evaluateAll_consistent evaluated) inferred).mpr
      ⟨rfl, arithmetic, a, b, rfl, string⟩
  rw [evaluate_apply_result, infer_apply_result, if_pos rules, if_pos rules, evaluated]
  exact ⟨⟨error, map_eq_error.mpr failed⟩, inferred⟩

/-- Inference and evaluation agree, apart from arithmetic. Where a tree has a value, inference succeeds
with its category, or with an unknown verdict if the root is arithmetic and the value is not known.
Inference succeeds on a tree that has no value exactly when the root is arithmetic on two known
operands and one of them is a string, and the verdict is unknown. Where inference fails, evaluation
fails with the same error.
-/
theorem infer_agrees_with_evaluate (policy : Policy) (e : Expr)
    : (∀ value,
        (evaluate policy e).result = .ok value
        → (infer policy e).result = .ok value.category
          ∨ (infer policy e).result = .ok .unknown
            ∧ (∃ op operands, op.isArithmetic = true ∧ e = .apply op operands)
            ∧ value.isKnown = false)
      ∧ (∀ verdict,
          (∃ error, (evaluate policy e).result = .error error)
            ∧ (infer policy e).result = .ok verdict
          ↔ verdict = .unknown
            ∧ ∃ op left right a b,
                op.isArithmetic = true
                ∧ e = .apply op [left, right]
                ∧ (evaluate policy left).result = .ok (.known a)
                ∧ (evaluate policy right).result = .ok (.known b)
                ∧ (a.category = .stringLike ∨ b.category = .stringLike))
      ∧ ∀ error,
          (infer policy e).result = .error error → (evaluate policy e).result = .error error := by
  have agreement := verdictAgreement policy e
  refine ⟨fun value evaluated => ?_, fun verdict => ⟨?_, ?_⟩, fun error failed => ?_⟩
  · rw [evaluated] at agreement
    generalize (infer policy e).result = inferred at agreement
    cases agreement with
    | category => exact Or.inl rfl
    | undecided arithmetic root unknown =>
        exact Or.inr ⟨rfl, ⟨_, _, arithmetic, root⟩, unknown⟩
  · rintro ⟨⟨error, failed⟩, inferred⟩
    rw [failed, inferred] at agreement
    cases agreement with
    | string _ computes => exact ⟨rfl, computes⟩
  · rintro ⟨rfl, computes⟩
    exact ComputesWithString.results computes
  · rw [failed] at agreement
    generalize (evaluate policy e).result = evaluated at agreement
    cases agreement with
    | failure => rfl

/-- A sum of two variables is an integer that is not known, and the verdict is unknown. So it is on a
difference with a string in it, which has no value. A sum of one operand fails in both.
-/
theorem infer_agrees_with_evaluate_of_sums
    : ((evaluate .lenient (.apply .plus [.var "x" (some .int8), .var "y" none])).result
          = .ok (.unknown .integral)
        ∧ (infer .lenient (.apply .plus [.var "x" (some .int8), .var "y" none])).result
          = .ok .unknown
        ∧ (TypedValue.unknown .integral).isKnown = false)
      ∧ ((evaluate .strict (.apply .minus [assign (.var "t" none) (str "a"), int 1])).result
          = .error (.typeMismatch .minus [.stringLike, .integral])
        ∧ (infer .strict (.apply .minus [assign (.var "t" none) (str "a"), int 1])).result
          = .ok .unknown
        ∧ ∃ op left right a b,
            op.isArithmetic = true
            ∧ Expr.apply .minus [assign (.var "t" none) (str "a"), int 1]
              = .apply op [left, right]
            ∧ (evaluate .strict left).result = .ok (.known a)
            ∧ (evaluate .strict right).result = .ok (.known b)
            ∧ (a.category = .stringLike ∨ b.category = .stringLike))
      ∧ (infer .strict (.apply .plus [int 1])).result = .error (.arity .plus 2 1)
      ∧ (evaluate .strict (.apply .plus [int 1])).result = .error (.arity .plus 2 1) := by
  have sum := infer_agrees_with_evaluate .lenient
    (.apply .plus [.var "x" (some .int8), .var "y" none])
  have difference := infer_agrees_with_evaluate .strict
    (.apply .minus [assign (.var "t" none) (str "a"), int 1])
  have single := infer_agrees_with_evaluate .strict (.apply .plus [int 1])
  have undecided := (sum.1 (.unknown .integral) rfl).resolve_left nofun
  have string := (difference.2.1 .unknown).mp ⟨⟨_, rfl⟩, rfl⟩
  exact ⟨⟨rfl, undecided.1, undecided.2.2⟩, ⟨rfl, rfl, string.2⟩, rfl, single.2.2 _ rfl⟩

-----------------------------------------------------------------------------------------
-- Verdicts on folded trees
-----------------------------------------------------------------------------------------

/-- A known value has the category that inference finds. -/
theorem infer_of_known {policy : Policy} {e : Expr} {constant : Constant}
    (h : (evaluate policy e).result = .ok (.known constant))
    : (infer policy e).result = .ok constant.category := by
  have agreement := verdictAgreement policy e
  rw [h] at agreement
  generalize (infer policy e).result = inferred at agreement ⊢
  cases agreement with
  | category => rfl
  | undecided _ _ unknown => contradiction

/-- The two expressions have the same value and the same verdict, or fail alike, under every
binding.
-/
def SameVerdict (policy : Policy) (left right : Expr) : Prop :=
  SameValue policy left right
  ∧ ∀ binding,
      (infer policy (left.subst binding)).result = (infer policy (right.subst binding)).result

/-- The steps of folding keep verdicts. The verdict on an application comes from the values of its
operands, which are kept, and the literal of a collapsed node has the category of its value.
-/
theorem sameVerdict_congruence (policy : Policy)
    : FoldCongruence policy (SameVerdict policy) where
  refl e := ⟨(sameValue_congruence policy).refl e, fun _ => rfl⟩
  trans hl hr :=
    ⟨(sameValue_congruence policy).trans hl.1 hr.1,
      fun binding => (hl.2 binding).trans (hr.2 binding)⟩
  call hc ha := by
    refine ⟨(sameValue_congruence policy).call hc.1 (ha.imp fun _ _ h => h.1), fun binding => ?_⟩
    rw [subst, subst, infer_call_result, infer_call_result]
  apply rules h := by
    have values := h.imp fun _ _ h => h.1
    refine ⟨(sameValue_congruence policy).apply rules values, fun binding => ?_⟩
    rw [subst, subst, infer_apply_result, infer_apply_result,
      evaluateAll_subst_congr values binding]
  collapse arithmetic literals evaluated := by
    refine ⟨(sameValue_congruence policy).collapse arithmetic literals evaluated, ?_⟩
    intro binding
    obtain ⟨constants, rfl⟩ := exists_map_literal literals
    rw [subst, subst, substAll_map_literal, infer_of_known evaluated]
    rfl

/-- Folding preserves the verdict of inference, and it does so under every later binding of the
variables: the folded tree gets the same verdict as the tree, or the same error.
-/
theorem fold_preserves_verdict (policy : Policy) (e folded : Expr)
    (h : (fold policy e).result = .ok folded)
    : (infer policy folded).result = (infer policy e).result
      ∧ ∀ binding,
          (infer policy (folded.subst binding)).result
            = (infer policy (e.subst binding)).result := by
  have same := ((sameVerdict_congruence policy).related_of_fold e h).2
  refine ⟨?_, same⟩
  simpa only [subst_var] using same .var

/-- A difference collapses to a literal, which has the verdict that the difference had. A sum keeps its
variable, and then the variable is bound to a string.
-/
theorem fold_preserves_verdict_of_difference
    : ((fold .strict (.apply .minus [.apply .plus [int 1, int 2], int 5])).result = .ok (int (-2))
        ∧ (infer .strict (int (-2))).result
          = (infer .strict (.apply .minus [.apply .plus [int 1, int 2], int 5])).result)
      ∧ (fold .strict (.apply .plus [.apply .minus [int 7, int 2], .var "x" none])).result
        = .ok (.apply .plus [int 5, .var "x" none])
      ∧ (infer .strict (subst (fun _ _ => str "a") (.apply .plus [int 5, .var "x" none]))).result
        = (infer .strict
            (subst (fun _ _ => str "a")
              (.apply .plus [.apply .minus [int 7, int 2], .var "x" none]))).result :=
  ⟨⟨rfl, (fold_preserves_verdict .strict _ _ rfl).1⟩, rfl,
    (fold_preserves_verdict .strict _ _ rfl).2 _⟩

end Expr

end VmToolchain
