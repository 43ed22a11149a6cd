import Mathlib.Data.List.Forall2
import Mathlib.Data.Set.List
import VmToolchain.Proofs.Results

/-! What the folding pass does to a tree. A node whose operands are folded stays, or it is arithmetic
over literals alone and gives way to a literal that stands for the very same typed value. So a
relation that holds across this one step, and that survives inside larger trees, holds between a
folded tree and the tree it comes from.
-/

namespace VmToolchain

-----------------------------------------------------------------------------------------
-- The rules of arithmetic keep constants under their own category
-----------------------------------------------------------------------------------------

namespace TypedValue

/-- A constant, if there is one, under its own category. -/
def Consistent (value : TypedValue) : Prop :=
  ∀ constant, value.constant? = some constant → value.category = constant.category

/-- A consistent value with a constant is that constant as a literal has it. -/
theorem Consistent.eq_known {value : TypedValue} {constant : Constant} (h : value.Consistent)
    (found : value.constant? = some constant)
    : value = known constant := by
  obtain ⟨constant?, category⟩ := value
  dsimp only at found
  subst found
  have same : category = constant.category := h constant rfl
  rw [same, known]

end TypedValue

namespace Operator

theorem hasRules_of_isArithmetic {op : Operator} (h : op.isArithmetic = true)
    : op.hasRules = true := by
  cases op <;> simp_all [isArithmetic, hasRules]

/-- Arithmetic gives integers under the integral category, or no constant at all. -/
theorem foldIntegers_consistent {op : Operator} {compute : Int64 → Int64 → Int64}
    {left right value : TypedValue} (h : op.foldIntegers compute left right = .ok value)
    : value.Consistent := by
  unfold foldIntegers at h
  split at h
  · obtain ⟨m, _, h⟩ := bind_eq_ok.mp h
    obtain ⟨n, _, h⟩ := bind_eq_ok.mp h
    cases h
    intro constant found
    cases found
    rfl
  · cases h
    intro constant found
    simp [TypedValue.unknown] at found

/-- The fold rule of an arithmetic operator keeps constants under their own category. -/
theorem fold_consistent {op : Operator} {operands : List TypedValue} {value : TypedValue}
    (arithmetic : op.isArithmetic = true) (h : op.fold operands = .ok value)
    : value.Consistent := by
  cases op with
  | plus | minus =>
      obtain ⟨pair, _, h⟩ := bind_eq_ok.mp h
      exact foldIntegers_consistent h
  | assignment | arrow | functionCall => simp [isArithmetic] at arithmetic

end Operator

-----------------------------------------------------------------------------------------
-- One folded node
-----------------------------------------------------------------------------------------

namespace Expr

/-- An application has a value when its operator has rules, its operands have values and the
operator comes to a value on them.
-/
theorem evaluate_apply_eq_ok {policy : Policy} {op : Operator} {operands : List Expr}
    {value : TypedValue}
    : (evaluate policy (.apply op operands)).result = .ok value
      ↔ op.hasRules = true
        ∧ ∃ values verdict,
            (evaluateAll policy operands).result = .ok values
            ∧ op.conclude policy values = .ok (verdict, value) := by
  rw [evaluate_apply_result]
  constructor
  · intro h
    split at h
    · next rules =>
        obtain ⟨values, evaluated, h⟩ := bind_eq_ok.mp h
        obtain ⟨⟨verdict, _⟩, concluded, rfl⟩ := map_eq_ok.mp h
        exact ⟨rules, values, verdict, evaluated, concluded⟩
    · contradiction
  · rintro ⟨rules, values, verdict, evaluated, concluded⟩
    rw [if_pos rules]
    exact bind_eq_ok.mpr ⟨values, evaluated, map_eq_ok.mpr ⟨_, concluded, rfl⟩⟩

/-- The value of an application is what the fold rule gives on the values of its operands. -/
theorem exists_fold_of_evaluate {policy : Policy} {op : Operator} {operands : List Expr}
    {value : TypedValue} (h : (evaluate policy (.apply op operands)).result = .ok value)
    : ∃ values, (evaluateAll policy operands).result = .ok values ∧ op.fold values = .ok value := by
  obtain ⟨_, values, verdict, evaluated, concluded⟩ := evaluate_apply_eq_ok.mp h
  obtain ⟨_, _, folded⟩ := Operator.conclude_eq_ok.mp concluded
  exact ⟨values, evaluated, folded⟩

/-- The value of arithmetic is consistent, whatever its operands are. -/
theorem evaluate_apply_consistent {policy : Policy} {op : Operator} {operands : List Expr}
    {value : TypedValue} (arithmetic : op.isArithmetic = true)
    (h : (evaluate policy (.apply op operands)).result = .ok value)
    : value.Consistent := by
  obtain ⟨values, _, folded⟩ := exists_fold_of_evaluate h
  exact Operator.fold_consistent arithmetic folded

/-- What a folded node can be: the rebuilt application, or, for arithmetic over literals, the
literal of its value.
-/
theorem collapse_eq_ok {policy : Policy} {op : Operator} {operands : List Expr} {folded : Expr}
    (h : (collapse policy op operands).result = .ok folded)
    : folded = .apply op operands
      ∨ op.isArithmetic = true
        ∧ operands.all isLiteral = true
        ∧ ∃ constant,
            folded = .literal constant
            ∧ (evaluate policy (.apply op operands)).result = .ok (.known constant) := by
  unfold collapse at h
  split at h
  · next closed =>
      obtain ⟨arithmetic, literals⟩ := Bool.and_eq_true_iff.mp closed
      rw [Traced.result_bind] at h
      obtain ⟨value, evaluated, h⟩ := bind_eq_ok.mp h
      split at h
      · next constant found =>
          cases h
          have same := (evaluate_apply_consistent arithmetic evaluated).eq_known found
          exact Or.inr ⟨arithmetic, literals, constant, rfl, same ▸ evaluated⟩
      · cases h
        exact Or.inl rfl
  · cases h
    exact Or.inl rfl

/-- Arithmetic over literals gives way to the literal of its value. -/
theorem collapse_of_known {policy : Policy} {op : Operator} {operands : List Expr}
    {constant : Constant} (arithmetic : op.isArithmetic = true)
    (literals : operands.all isLiteral = true)
    (evaluated : (evaluate policy (.apply op operands)).result = .ok (.known constant))
    : (collapse policy op operands).result = .ok (.literal constant) := by
  have closed : (op.isArithmetic && operands.all isLiteral) = true :=
    Bool.and_eq_true_iff.mpr ⟨arithmetic, literals⟩
  rw [collapse, if_pos closed, Traced.result_bind]
  exact bind_eq_ok.mpr ⟨_, evaluated, rfl⟩

/-- A node that cannot be folded has no value, and for the same reason. -/
theorem evaluate_error_of_collapse_error {policy : Policy} {op : Operator} {operands : List Expr}
    {error : FoldError} (h : (collapse policy op operands).result = .error error)
    : (evaluate policy (.apply op operands)).result = .error error := by
  unfold collapse at h
  split at h
  · rw [Traced.result_bind] at h
    rcases bind_eq_error.mp h with failed | ⟨value, _, h⟩
    · exact failed
    · split at h <;> contradiction
  · contradiction

/-- A literal is an expression that is one. -/
theorem isLiteral_iff {e : Expr} : e.isLiteral = true ↔ ∃ constant, e = .literal constant := by
  cases e <;> simp [isLiteral, literal?]

/-- Operands that are all literals are the literals of some constants. -/
theorem exists_map_literal {operands : List Expr} (literals : operands.all isLiteral = true)
    : ∃ constants : List Constant, constants.map literal = operands := by
  have range : operands ∈ { es | ∀ e ∈ es, e ∈ Set.range literal } := by
    intro e member
    obtain ⟨constant, rfl⟩ := isLiteral_iff.mp (List.all_eq_true.mp literals e member)
    exact Set.mem_range_self constant
  rwa [← Set.range_list_map] at range

/-- Folding leaves literals alone. -/
theorem foldAll_map_literal (policy : Policy) (constants : List Constant)
    : (foldAll policy (constants.map literal)).result = .ok (constants.map literal) := by
  induction constants with
  | nil => rfl
  | cons constant constants ih =>
      rw [List.map_cons, foldAll_cons_result, ih]
      rfl

-----------------------------------------------------------------------------------------
-- The whole tree
-----------------------------------------------------------------------------------------

/-- A relation that the steps of the pass respect: it relates the literal of a collapsed node to the
node, and it carries over to calls and applications from their parts. Lambdas and applications
without rules are never rewritten, so reflexivity is all that they need.
-/
structure FoldCongruence (policy : Policy) (related : Expr → Expr → Prop) : Prop where
  refl : ∀ e, related e e
  trans : ∀ {a b c}, related a b → related b c → related a c
  call
    : ∀ {callee callee' args args'},
        related callee' callee
        → List.Forall₂ related args' args
        → related (.call callee' args') (.call callee args)
  apply
    : ∀ {op operands operands'},
        op.hasRules = true
        → List.Forall₂ related operands' operands
        → related (.apply op operands') (.apply op operands)
  collapse
    : ∀ {op operands constant},
        op.isArithmetic = true
        → operands.all isLiteral = true
        → (evaluate policy (.apply op operands)).result = .ok (.known constant)
        → related (.literal constant) (.apply op operands)

namespace FoldCongruence

variable {policy : Policy} {related : Expr → Expr → Prop}

mutual

/-- A folded tree is related to the tree it comes from, by induction on the tree. -/
theorem related_of_fold (congruence : FoldCongruence policy related) (e : Expr) {folded : Expr}
    (h : (fold policy e).result = .ok folded)
    : related folded e := by
  cases e with
  | literal value | var name type | lambda params body =>
      cases h
      exact congruence.refl _
  | call callee args =>
      rw [fold_call_result] at h
      obtain ⟨callee', hc, h⟩ := bind_eq_ok.mp h
      obtain ⟨args', ha, rfl⟩ := map_eq_ok.mp h
      exact congruence.call (congruence.related_of_fold callee hc)
        (congruence.related_of_foldAll args ha)
  | apply op operands =>
      rw [fold_apply_result] at h
      split at h
      · next rules =>
          obtain ⟨operands', ho, h⟩ := bind_eq_ok.mp h
          have rebuilt : related (.apply op operands') (.apply op operands) :=
            congruence.apply rules (congruence.related_of_foldAll operands ho)
          rcases collapse_eq_ok h with rfl | ⟨arithmetic, literals, constant, rfl, evaluated⟩
          · exact rebuilt
          · -- The literal stands for the rebuilt node, and this for the node before folding.
            exact congruence.trans (congruence.collapse arithmetic literals evaluated) rebuilt
      · cases h
        exact congruence.refl _
termination_by sizeOf e

/-- Folded trees are related to the trees they come from, one by one. -/
theorem related_of_foldAll (congruence : FoldCongruence policy related) (es : List Expr)
    {folded : List Expr} (h : (foldAll policy es).result = .ok folded)
    : List.Forall₂ related folded es := by
  cases es with
  | nil =>
      cases h
      exact .nil
  | cons e rest =>
      rw [foldAll_cons_result] at h
      obtain ⟨e', he, h⟩ := bind_eq_ok.mp h
      obtain ⟨rest', hr, rfl⟩ := map_eq_ok.mp h
      exact .cons (congruence.related_of_fold e he) (congruence.related_of_foldAll rest hr)
termination_by sizeOf es

end

end FoldCongruence

end Expr

end VmToolchain
