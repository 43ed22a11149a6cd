import VmToolchain.Proofs.Folding.Rewriting

/-! Folding and the later binding of variables. A tree may be folded before its variables are bound:
the bound tree has the same value, or fails in the same way, and it folds to the same tree.
-/

namespace VmToolchain

/-- What stands for each variable, which is told by its name and its declared type. -/
abbrev Binding := String → Option PrimitiveType → Expr

namespace Expr

mutual

/-- The expression with its variables replaced. Lambdas are opaque and stay as they are. -/
def subst (binding : Binding) : Expr → Expr
  | .literal value => .literal value
  | .var name type => binding name type
  | .apply op operands => .apply op (substAll binding operands)
  | .call callee args => .call (subst binding callee) (substAll binding args)
  | .lambda params body => .lambda params body

/-- The expressions with their variables replaced. -/
def substAll (binding : Binding) : List Expr → List Expr
  | [] => []
  | e :: rest => subst binding e :: substAll binding rest

end

mutual

/-- Variables that stand for themselves change nothing. -/
theorem subst_var (e : Expr) : subst .var e = e := by
  cases e with
  | literal value | var name type | lambda params body => rfl
  | apply op operands => rw [subst, substAll_var operands]
  | call callee args => rw [subst, subst_var callee, substAll_var args]
termination_by sizeOf e

theorem substAll_var (es : List Expr) : substAll .var es = es := by
  cases es with
  | nil => rfl
  | cons e rest => rw [substAll, subst_var e, substAll_var rest]
termination_by sizeOf es

end

theorem substAll_eq_map (binding : Binding) (es : List Expr)
    : substAll binding es = es.map (subst binding) := by
  induction es with
  | nil => rfl
  | cons e rest ih => rw [substAll, ih, List.map_cons]

/-- Literals are the same under every binding. -/
theorem substAll_map_literal (binding : Binding) (constants : List Constant)
    : substAll binding (constants.map literal) = constants.map literal := by
  rw [substAll_eq_map, List.map_map]
  rfl

-----------------------------------------------------------------------------------------
-- Values under a binding
-----------------------------------------------------------------------------------------

/-- The two expressions have the same value, or the same error, under every binding. -/
def SameValue (policy : Policy) (left right : Expr) : Prop :=
  ∀ binding,
    (evaluate policy (left.subst binding)).result = (evaluate policy (right.subst binding)).result

/-- Operands with the same values one by one have the same list of values, or the same first
error.
-/
theorem evaluateAll_subst_congr {policy : Policy} {left right : List Expr}
    (h : List.Forall₂ (SameValue policy) left right) (binding : Binding)
    : (evaluateAll policy (substAll binding left)).result
      = (evaluateAll policy (substAll binding right)).result := by
  induction h with
  | nil => rfl
  | cons head _ ih =>
      rw [substAll, substAll, evaluateAll_cons_result, evaluateAll_cons_result, head binding, ih]

/-- The steps of folding keep values under every binding. -/
theorem sameValue_congruence (policy : Policy) : FoldCongruence policy (SameValue policy) where
  refl _ _ := rfl
  trans hl hr binding := (hl binding).trans (hr binding)
  call _ _ binding := by
    rw [subst, subst, evaluate_call_result, evaluate_call_result]
  apply _ h binding := by
    rw [subst, subst, evaluate_apply_result, evaluate_apply_result,
      evaluateAll_subst_congr h binding]
  collapse _ literals evaluated binding := by
    obtain ⟨constants, rfl⟩ := exists_map_literal literals
    rw [subst, subst, substAll_map_literal, evaluated]
    rfl

/-- A folded tree has the value of the tree it comes from, or the same error. -/
theorem evaluate_of_fold {policy : Policy} {e folded : Expr}
    (h : (fold policy e).result = .ok folded)
    : (evaluate policy folded).result = (evaluate policy e).result := by
  have same := (sameValue_congruence policy).related_of_fold e h .var
  rwa [subst_var, subst_var] at same

mutual

/-- A tree that cannot be folded has no value. A failing operand is met by evaluation as well, and a
node that fails after its operands were folded fails on the operands themselves.
-/
theorem evaluate_error_of_fold_error (policy : Policy) (e : Expr) {error : FoldError}
    (h : (fold policy e).result = .error error)
    : ∃ found, (evaluate policy e).result = .error found := by
  cases e with
  | literal value | var name type | lambda params body => contradiction
  | call callee args => exact ⟨_, evaluate_call_result policy callee args⟩
  | apply op operands =>
      rw [fold_apply_result] at h
      split at h
      · next rules =>
          rw [evaluate_apply_result, if_pos rules]
          rcases bind_eq_error.mp h with failed | ⟨folded, ho, failed⟩
          · obtain ⟨found, hf⟩ := evaluateAll_error_of_foldAll_error policy operands failed
            exact ⟨found, bind_eq_error.mpr (Or.inl hf)⟩
          · -- The operands were folded, but they have the values of those before.
            have same := evaluateAll_subst_congr
              ((sameValue_congruence policy).related_of_foldAll operands ho) .var
            rw [substAll_var, substAll_var] at same
            have hf := evaluate_error_of_collapse_error failed
            rw [evaluate_apply_result, if_pos rules, same] at hf
            exact ⟨error, hf⟩
      · contradiction
termination_by sizeOf e

theorem evaluateAll_error_of_foldAll_error (policy : Policy) (es : List Expr) {error : FoldError}
    (h : (foldAll policy es).result = .error error)
    : ∃ found, (evaluateAll policy es).result = .error found := by
  cases es with
  | nil => contradiction
  | cons e rest =>
      rw [foldAll_cons_result] at h
      rw [evaluateAll_cons_result]
      cases he : (evaluate policy e).result with
      | error found => exact ⟨found, rfl⟩
      | ok value =>
          rcases bind_eq_error.mp h with failed | ⟨_, _, failed⟩
          · obtain ⟨found, hf⟩ := evaluate_error_of_fold_error policy e failed
            rw [he] at hf
            contradiction
          · obtain ⟨found, hf⟩ := evaluateAll_error_of_foldAll_error policy rest
              (map_eq_error.mp failed)
            exact ⟨found, map_eq_error.mpr hf⟩
termination_by sizeOf es

end

/-- A tree with a value can be folded. -/
theorem exists_folded_of_evaluate {policy : Policy} {e : Expr} {value : TypedValue}
    (h : (evaluate policy e).result = .ok value)
    : ∃ folded, (fold policy e).result = .ok folded := by
  cases folds : (fold policy e).result with
  | ok folded => exact ⟨folded, rfl⟩
  | error error =>
      obtain ⟨found, failed⟩ := evaluate_error_of_fold_error policy e folds
      rw [h] at failed
      contradiction

/-- Folding preserves meaning under every later binding of the variables: the bound folded tree has
the same value or the same error as the bound tree. Where folding fails, so does evaluation.
-/
theorem fold_preserves_value (policy : Policy) (e : Expr)
    : (∀ folded,
        (fold policy e).result = .ok folded
        → ∀ binding,
            (evaluate policy (folded.subst binding)).result
              = (evaluate policy (e.subst binding)).result)
      ∧ ∀ error,
          (fold policy e).result = .error error
          → ∃ found, (evaluate policy e).result = .error found :=
  ⟨fun _ h => (sameValue_congruence policy).related_of_fold e h,
    fun _ h => evaluate_error_of_fold_error policy e h⟩

/-- A difference is folded in its left operand, and then its variable is bound to a string; a sum with
a string is not folded.
-/
theorem fold_preserves_value_of_difference
    : (fold .strict
          (.apply .minus [.apply .plus [int 1, int 2], .var "x" (some .int8)])).result
        = .ok (.apply .minus [int 3, .var "x" (some .int8)])
      ∧ (evaluate .strict
            (subst (fun _ _ => str "a") (.apply .minus [int 3, .var "x" (some .int8)]))).result
        = (evaluate .strict
            (subst (fun _ _ => str "a")
              (.apply .minus [.apply .plus [int 1, int 2], .var "x" (some .int8)]))).result
      ∧ (fold .lenient (.apply .plus [int 1, str "a"])).result
        = .error (.notNumeric .plus (.str "a"))
      ∧ ∃ found, (evaluate .lenient (.apply .plus [int 1, str "a"])).result = .error found :=
  ⟨rfl, (fold_preserves_value .strict _).1 _ rfl _, rfl,
    (fold_preserves_value .lenient _).2 _ rfl⟩

-----------------------------------------------------------------------------------------
-- Folding under a binding
-----------------------------------------------------------------------------------------

/-- The two expressions fold to the same tree, or fail with the same error, under every binding. -/
def SameFolding (policy : Policy) (left right : Expr) : Prop :=
  ∀ binding,
    (fold policy (left.subst binding)).result = (fold policy (right.subst binding)).result

/-- Operands that fold alike one by one fold to the same list, or fail at the same place. -/
theorem foldAll_subst_congr {policy : Policy} {left right : List Expr}
    (h : List.Forall₂ (SameFolding policy) left right) (binding : Binding)
    : (foldAll policy (substAll binding left)).result
      = (foldAll policy (substAll binding right)).result := by
  induction h with
  | nil => rfl
  | cons head _ ih =>
      rw [substAll, substAll, foldAll_cons_result, foldAll_cons_result, head binding, ih]

/-- The steps of folding keep what a tree folds to under every binding. A collapsed node has literals
for operands, which no binding changes, so it would collapse again.
-/
theorem sameFolding_congruence (policy : Policy)
    : FoldCongruence policy (SameFolding policy) where
  refl _ _ := rfl
  trans hl hr binding := (hl binding).trans (hr binding)
  call hc ha binding := by
    rw [subst, subst, fold_call_result, fold_call_result, hc binding,
      foldAll_subst_congr ha binding]
  apply rules h binding := by
    rw [subst, subst, fold_apply_result, fold_apply_result, if_pos rules, if_pos rules,
      foldAll_subst_congr h binding]
  collapse arithmetic literals evaluated binding := by
    have rules := Operator.hasRules_of_isArithmetic arithmetic
    have again := collapse_of_known arithmetic literals evaluated
    obtain ⟨constants, rfl⟩ := exists_map_literal literals
    rw [subst, subst, substAll_map_literal, fold_apply_result, if_pos rules, foldAll_map_literal]
    exact again.symm

/-- Folding is confluent with the binding of variables: a folded tree and the tree it comes from fold
to the same tree, or fail with the same error, however their variables are bound. So a folded tree
is not changed by folding it again.
-/
theorem fold_confluent_with_subst (policy : Policy) (e folded : Expr)
    (h : (fold policy e).result = .ok folded)
    : (∀ binding,
        (fold policy (folded.subst binding)).result = (fold policy (e.subst binding)).result)
      ∧ (fold policy folded).result = .ok folded := by
  have same := (sameFolding_congruence policy).related_of_fold e h
  refine ⟨same, ?_⟩
  have again := same .var
  rw [subst_var, subst_var] at again
  rw [again, h]

/-- A call folds in its argument; the variable behind it is bound to a literal, and all collapses. -/
theorem fold_confluent_with_subst_in_call
    : (fold .lenient
          (.call (.var "f" none)
            [.apply .plus [.apply .minus [int 7, int 2], .var "x" none]])).result
        = .ok (.call (.var "f" none) [.apply .plus [int 5, .var "x" none]])
      ∧ (fold .lenient
            (subst (fun _ _ => int 1)
              (.call (.var "f" none) [.apply .plus [int 5, .var "x" none]]))).result
        = (fold .lenient
            (subst (fun _ _ => int 1)
              (.call (.var "f" none)
                [.apply .plus [.apply .minus [int 7, int 2], .var "x" none]]))).result :=
  ⟨rfl, (fold_confluent_with_subst .lenient _ _ rfl).1 _⟩

end Expr

end VmToolchain
