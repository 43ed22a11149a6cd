import VmToolchain.Proofs.Folding.Rewriting

/-! The values of expression trees. Operands have their values one by one, and every constant that a
tree evaluates to stands under its own category. Values that come from elsewhere need not.
-/

namespace VmToolchain

-----------------------------------------------------------------------------------------
-- Trees and lists of trees
-----------------------------------------------------------------------------------------

/-- Steps for the members of a list succeed together when each of them does. -/
theorem mapM_eq_ok {ε α β : Type} {step : α → Except ε β} {items : List α} {values : List β}
    : items.mapM step = .ok values
      ↔ List.Forall₂ (fun item value => step item = .ok value) items values := by
  induction items generalizing values with
  | nil => simp [pure, Except.pure, eq_comm]
  | cons item rest ih =>
      rw [List.mapM_cons, bind_eq_ok, List.forall₂_cons_left_iff]
      simp only [bind_eq_ok, ih]
      constructor
      · rintro ⟨value, found, values, more, h⟩
        cases h
        exact ⟨value, values, found, more, rfl⟩
      · rintro ⟨value, values, found, more, rfl⟩
        exact ⟨value, found, values, more, rfl⟩

/-- Of two lists that are related member by member, each member of the first has its partner. -/
theorem exists_related {α β : Type} {R : α → β → Prop} {items : List α} {values : List β}
    (h : List.Forall₂ R items values) {item : α} (member : item ∈ items)
    : ∃ value ∈ values, R item value := by
  induction h with
  | nil => contradiction
  | @cons _ value _ _ head _ ih =>
      rcases List.mem_cons.mp member with rfl | member
      · exact ⟨value, List.mem_cons_self, head⟩
      · obtain ⟨value, within, related⟩ := ih member
        exact ⟨value, List.mem_cons_of_mem _ within, related⟩

namespace Expr

/-- Induction on a tree. The hypotheses for operands and arguments are told by membership, so no
second statement about lists is carried along.
-/
@[elab_as_elim]
theorem treeInduction {motive : Expr → Prop}
    (literal : ∀ value, motive (.literal value))
    (var : ∀ name type, motive (.var name type))
    (apply : ∀ op operands, (∀ e ∈ operands, motive e) → motive (.apply op operands))
    (call : ∀ callee args, motive callee → (∀ e ∈ args, motive e) → motive (.call callee args))
    (lambda : ∀ params body, motive body → motive (.lambda params body))
    (e : Expr)
    : motive e := by
  cases e with
  | literal value => exact literal value
  | var name type => exact var name type
  | apply op operands =>
      refine apply op operands (fun e member => ?_)
      exact treeInduction literal var apply call lambda e
  | call callee args =>
      refine call callee args (treeInduction literal var apply call lambda callee) ?_
      exact fun e member => treeInduction literal var apply call lambda e
  | lambda params body =>
      exact lambda params body (treeInduction literal var apply call lambda body)
termination_by sizeOf e

theorem evaluateAll_result (policy : Policy) (es : List Expr)
    : (evaluateAll policy es).result = es.mapM (fun e => (evaluate policy e).result) := by
  induction es with
  | nil => rfl
  | cons e rest ih =>
      rw [evaluateAll_cons_result, ih, List.mapM_cons]
      rfl

theorem foldAll_result (policy : Policy) (es : List Expr)
    : (foldAll policy es).result = es.mapM (fun e => (fold policy e).result) := by
  induction es with
  | nil => rfl
  | cons e rest ih =>
      rw [foldAll_cons_result, ih, List.mapM_cons]
      rfl

/-- Expressions have the values that they have one by one. -/
theorem evaluateAll_eq_ok {policy : Policy} {es : List Expr} {values : List TypedValue}
    : (evaluateAll policy es).result = .ok values
      ↔ List.Forall₂ (fun e value => (evaluate policy e).result = .ok value) es values := by
  rw [evaluateAll_result, mapM_eq_ok]

theorem exists_value_of_mem {policy : Policy} {es : List Expr} {values : List TypedValue}
    {e : Expr} (evaluated : (evaluateAll policy es).result = .ok values) (member : e ∈ es)
    : ∃ value ∈ values, (evaluate policy e).result = .ok value :=
  exists_related (evaluateAll_eq_ok.mp evaluated) member

theorem exists_expr_of_mem {policy : Policy} {es : List Expr} {values : List TypedValue}
    {value : TypedValue} (evaluated : (evaluateAll policy es).result = .ok values)
    (member : value ∈ values)
    : ∃ e ∈ es, (evaluate policy e).result = .ok value :=
  exists_related (R := fun value e => (evaluate policy e).result = .ok value)
    (.flip (evaluateAll_eq_ok.mp evaluated)) member

/-- Two values belong to two expressions. -/
theorem evaluateAll_eq_ok_pair {policy : Policy} {es : List Expr} {a b : TypedValue}
    : (evaluateAll policy es).result = .ok [a, b]
      ↔ ∃ left right,
          es = [left, right]
          ∧ (evaluate policy left).result = .ok a
          ∧ (evaluate policy right).result = .ok b := by
  rw [evaluateAll_eq_ok]
  constructor
  · intro operands
    obtain ⟨left, rest, hl, more, rfl⟩ := List.forall₂_cons_right_iff.mp operands
    obtain ⟨right, rest, hr, done, rfl⟩ := List.forall₂_cons_right_iff.mp more
    cases done
    exact ⟨left, right, rfl, hl, hr⟩
  · rintro ⟨left, right, rfl, hl, hr⟩
    exact .cons hl (.cons hr .nil)

end Expr

-----------------------------------------------------------------------------------------
-- Constants under their own category
-----------------------------------------------------------------------------------------

theorem Constant.category_ne_unknown (constant : Constant) : constant.category ≠ .unknown := by
  cases constant <;> exact nofun

namespace TypedValue

@[simp]
theorem isKnown_unknown (category : Category) : (unknown category).isKnown = false := rfl

theorem consistent_known (constant : Constant) : (known constant).Consistent := by
  intro found same
  cases same
  rfl

theorem consistent_unknown (category : Category) : (unknown category).Consistent := nofun

/-- A consistent value is what a literal has or what a variable has. -/
theorem Consistent.known_or_unknown {value : TypedValue} (h : value.Consistent)
    : (∃ constant, value = known constant) ∨ ∃ category, value = unknown category := by
  cases found : value.constant? with
  | some constant => exact Or.inl ⟨constant, h.eq_known found⟩
  | none =>
      obtain ⟨constant?, category⟩ := value
      cases found
      exact Or.inr ⟨category, rfl⟩

end TypedValue

namespace Operator

theorem operandPair_eq_ok {op : Operator} {operands : List TypedValue} {left right : TypedValue}
    : op.operandPair operands = .ok (left, right) ↔ operands = [left, right] := by
  unfold operandPair
  split <;> simp_all

theorem operandPair_eq_error {op : Operator} {operands : List TypedValue} {error : FoldError}
    (h : op.operandPair operands = .error error)
    : error = .arity op 2 operands.length := by
  unfold operandPair at h
  split at h <;> simp_all

/-- The type rule speaks of exactly two operands. -/
theorem pair_of_inferType {op : Operator} {operands : List TypedValue} {verdict : Category}
    (h : op.inferType operands = .ok verdict)
    : ∃ left right, operands = [left, right] := by
  cases op with
  | plus | minus | assignment =>
      obtain ⟨⟨left, right⟩, paired, _⟩ := bind_eq_ok.mp h
      exact ⟨left, right, operandPair_eq_ok.mp paired⟩
  | arrow | functionCall => contradiction

/-- Whatever the operator, its fold rule gives consistent values on consistent operands: arithmetic
makes its own, and an assignment hands on its first operand.
-/
theorem fold_keeps_consistent {op : Operator} {operands : List TypedValue} {value : TypedValue}
    (consistent : ∀ operand ∈ operands, operand.Consistent) (h : op.fold operands = .ok value)
    : value.Consistent := by
  cases op with
  | plus | minus => exact fold_consistent rfl h
  | assignment =>
      obtain ⟨⟨first, second⟩, paired, h⟩ := bind_eq_ok.mp h
      obtain rfl := operandPair_eq_ok.mp paired
      cases h
      exact consistent value List.mem_cons_self
  | arrow | functionCall => contradiction

theorem category_of_foldIntegers {op : Operator} {compute : Int64 → Int64 → Int64}
    {left right value : TypedValue} (h : op.foldIntegers compute left right = .ok value)
    : value.category = .integral := by
  unfold foldIntegers at h
  split at h
  · obtain ⟨m, _, h⟩ := bind_eq_ok.mp h
    obtain ⟨n, _, h⟩ := bind_eq_ok.mp h
    cases h
    rfl
  · cases h
    rfl

/-- Arithmetic that comes to a value calls it integral, whether or not it is known. -/
theorem category_of_fold {op : Operator} {operands : List TypedValue} {value : TypedValue}
    (arithmetic : op.isArithmetic = true) (h : op.fold operands = .ok value)
    : value.category = .integral := by
  cases op with
  | plus | minus =>
      obtain ⟨pair, _, h⟩ := bind_eq_ok.mp h
      exact category_of_foldIntegers h
  | assignment | arrow | functionCall => contradiction

/-- Where the type rule has a verdict on consistent operands, the fold rule has a value, or two
constants meet in arithmetic and one of them is a string. Just then the operands are all known and
the verdict is not.
-/
theorem folds_or_mismatch {op : Operator} {operands : List TypedValue} {verdict : Category}
    (consistent : ∀ operand ∈ operands, operand.Consistent)
    (inferred : op.inferType operands = .ok verdict)
    : (¬(verdict = .unknown ∧ operands.all TypedValue.isKnown = true)
        ∧ ∃ value, op.fold operands = .ok value)
      ∨ verdict = .unknown
        ∧ ∃ left right text,
            operands = [.known left, .known right]
            ∧ (left.category = .stringLike ∨ right.category = .stringLike)
            ∧ op.fold operands = .error (.notNumeric op (.str text)) := by
  obtain ⟨left, right, rfl⟩ := pair_of_inferType inferred
  have hl : left.Consistent := consistent left (by simp)
  have hr : right.Consistent := consistent right (by simp)
  cases op with
  | plus | minus =>
      cases inferred
      rcases hl.known_or_unknown with ⟨a, rfl⟩ | ⟨category, rfl⟩
      · rcases hr.known_or_unknown with ⟨b, rfl⟩ | ⟨category, rfl⟩
        · cases a with
          | str text => exact Or.inr ⟨rfl, _, _, text, rfl, Or.inl rfl, rfl⟩
          | int m =>
              cases b with
              | str text => exact Or.inr ⟨rfl, _, _, text, rfl, Or.inr rfl, rfl⟩
              | int n => exact Or.inl ⟨nofun, _, rfl⟩
        · exact Or.inl ⟨by simp, _, rfl⟩
      · exact Or.inl ⟨by simp, _, rfl⟩
  | assignment =>
      -- The verdict is the category of the value, which a constant always has.
      cases inferred
      refine Or.inl ⟨?_, left, rfl⟩
      rintro ⟨verdict, known⟩
      rcases hl.known_or_unknown with ⟨a, rfl⟩ | ⟨category, rfl⟩
      · exact a.category_ne_unknown verdict
      · simp at known
  | arrow | functionCall => contradiction

end Operator

namespace Expr

/-- Every value of a tree is consistent. -/
theorem evaluate_consistent {policy : Policy} {e : Expr} {value : TypedValue}
    (h : (evaluate policy e).result = .ok value)
    : value.Consistent := by
  induction e using treeInduction generalizing value with
  | literal constant =>
      cases h
      exact TypedValue.consistent_known constant
  | var name type => cases type <;> cases h <;> exact TypedValue.consistent_unknown _
  | apply op operands ih =>
      obtain ⟨values, evaluated, folded⟩ := exists_fold_of_evaluate h
      refine Operator.fold_keeps_consistent (fun operand member => ?_) folded
      obtain ⟨e, he, found⟩ := exists_expr_of_mem evaluated member
      exact ih e he found
  | call callee args =>
      rw [evaluate_call_result] at h
      contradiction
  | lambda params body => contradiction

theorem evaluateAll_consistent {policy : Policy} {es : List Expr} {values : List TypedValue}
    (h : (evaluateAll policy es).result = .ok values)
    : ∀ value ∈ values, value.Consistent := by
  intro value member
  obtain ⟨e, _, found⟩ := exists_expr_of_mem h member
  exact evaluate_consistent found

end Expr

-----------------------------------------------------------------------------------------
-- Values that are known
-----------------------------------------------------------------------------------------

namespace Operator

theorem isKnown_of_foldIntegers {op : Operator} {compute : Int64 → Int64 → Int64}
    {left right value : TypedValue} (h : op.foldIntegers compute left right = .ok value)
    : value.isKnown = true ↔ left.isKnown = true ∧ right.isKnown = true := by
  unfold foldIntegers at h
  split at h
  · next a b hl hr =>
      obtain ⟨m, _, h⟩ := bind_eq_ok.mp h
      obtain ⟨n, _, h⟩ := bind_eq_ok.mp h
      cases h
      simp [TypedValue.isKnown, hl, hr]
  · next missing =>
      cases h
      refine ⟨nofun, fun known => ?_⟩
      obtain ⟨a, hl⟩ := Option.isSome_iff_exists.mp known.1
      obtain ⟨b, hr⟩ := Option.isSome_iff_exists.mp known.2
      exact (missing a b hl hr).elim

/-- Arithmetic that comes to a value knows it when it knows all its operands. -/
theorem isKnown_of_fold {op : Operator} {operands : List TypedValue} {value : TypedValue}
    (arithmetic : op.isArithmetic = true) (h : op.fold operands = .ok value)
    : value.isKnown = true ↔ ∀ operand ∈ operands, operand.isKnown = true := by
  cases op with
  | plus | minus =>
      obtain ⟨⟨left, right⟩, paired, folded⟩ := bind_eq_ok.mp h
      rw [operandPair_eq_ok.mp paired, isKnown_of_foldIntegers folded]
      simp
  | assignment | arrow | functionCall => simp [isArithmetic] at arithmetic

end Operator

namespace Expr

/-- The expression has a value, and it is known. -/
def HasConstant (policy : Policy) (e : Expr) : Prop :=
  ∃ value, (evaluate policy e).result = .ok value ∧ value.isKnown = true

/-- The value of arithmetic is known when there is one and the operands are known. -/
theorem hasConstant_arithmetic_iff {policy : Policy} {op : Operator} {operands : List Expr}
    (arithmetic : op.isArithmetic = true)
    : HasConstant policy (.apply op operands)
      ↔ (∃ value, (evaluate policy (.apply op operands)).result = .ok value)
        ∧ ∀ e ∈ operands, HasConstant policy e := by
  constructor
  · rintro ⟨value, h, known⟩
    refine ⟨⟨value, h⟩, fun e member => ?_⟩
    obtain ⟨values, evaluated, folded⟩ := exists_fold_of_evaluate h
    obtain ⟨operand, hv, found⟩ := exists_value_of_mem evaluated member
    exact ⟨operand, found, (Operator.isKnown_of_fold arithmetic folded).mp known operand hv⟩
  · rintro ⟨⟨value, h⟩, constants⟩
    refine ⟨value, h, ?_⟩
    obtain ⟨values, evaluated, folded⟩ := exists_fold_of_evaluate h
    refine (Operator.isKnown_of_fold arithmetic folded).mpr (fun operand hv => ?_)
    obtain ⟨e, member, found⟩ := exists_expr_of_mem evaluated hv
    obtain ⟨same, again, known⟩ := constants e member
    cases found.symm.trans again
    exact known

end Expr

end VmToolchain
