import VmToolchain.Proofs.Folding.Residue

/-! When a whole tree folds to a literal: it holds nothing but literals and arithmetic, and it has a
value, which then is known. The pass goes up from the leaves and evaluation down from the root, and
they meet in the terms of the tree.
-/

namespace VmToolchain.Expr

-----------------------------------------------------------------------------------------
-- Trees of literals and arithmetic
-----------------------------------------------------------------------------------------

/-- The tree is built from literals and arithmetic alone, with any number of operands. -/
inductive LiteralArithmetic : Expr → Prop
  | literal (value : Constant) : LiteralArithmetic (.literal value)
  | apply {op : Operator} {operands : List Expr} (arithmetic : op.isArithmetic = true)
    (parts : ∀ e ∈ operands, LiteralArithmetic e)
    : LiteralArithmetic (.apply op operands)

theorem literalArithmetic_apply_iff {op : Operator} {operands : List Expr}
    : LiteralArithmetic (.apply op operands)
      ↔ op.isArithmetic = true ∧ ∀ e ∈ operands, LiteralArithmetic e := by
  constructor
  · intro h
    cases h with
    | apply arithmetic parts => exact ⟨arithmetic, parts⟩
  · rintro ⟨arithmetic, parts⟩
    exact .apply arithmetic parts

theorem literalArithmetic_of_literals {op : Operator} {operands : List Expr}
    (arithmetic : op.isArithmetic = true) (literals : operands.all isLiteral = true)
    : LiteralArithmetic (.apply op operands) := by
  refine .apply arithmetic (fun e member => ?_)
  obtain ⟨constant, rfl⟩ := isLiteral_iff.mp (List.all_eq_true.mp literals e member)
  exact .literal constant

theorem literalArithmetic_congr {left right : List Expr}
    (h : List.Forall₂ (fun folded e => LiteralArithmetic folded ↔ LiteralArithmetic e) left right)
    : (∀ e ∈ left, LiteralArithmetic e) ↔ ∀ e ∈ right, LiteralArithmetic e := by
  induction h with
  | nil => exact Iff.rfl
  | cons head _ ih => rw [List.forall_mem_cons, List.forall_mem_cons, head, ih]

/-- The steps of folding lead neither into these trees nor out of them. -/
theorem literalArithmetic_congruence (policy : Policy)
    : FoldCongruence policy (fun folded e => LiteralArithmetic folded ↔ LiteralArithmetic e) where
  refl _ := Iff.rfl
  trans := Iff.trans
  call _ _ := ⟨nofun, nofun⟩
  apply _ h := by
    rw [literalArithmetic_apply_iff, literalArithmetic_apply_iff, literalArithmetic_congr h]
  collapse arithmetic literals _ :=
    ⟨fun _ => literalArithmetic_of_literals arithmetic literals, fun _ => .literal _⟩

namespace LiteralArithmetic

variable {policy : Policy} {e : Expr}

theorem terms (h : LiteralArithmetic e) : ∀ term ∈ e.terms, term.isLiteral = true := by
  induction h with
  | literal value =>
      intro term member
      cases List.mem_singleton.mp member
      rfl
  | apply arithmetic _ ih =>
      intro term member
      obtain ⟨e, within, member⟩ := (mem_terms_apply arithmetic).mp member
      exact ih e within term member

/-- Such a tree knows its value if it has one, since all its terms do. -/
theorem isKnown {value : TypedValue} (h : LiteralArithmetic e)
    (evaluated : (evaluate policy e).result = .ok value)
    : value.isKnown = true := by
  have constants : ∀ term ∈ e.terms, HasConstant policy term := by
    intro term member
    obtain ⟨constant, rfl⟩ := isLiteral_iff.mp (h.terms term member)
    exact ⟨.known constant, rfl, rfl⟩
  obtain ⟨found, again, known⟩ := (hasConstant_iff_terms evaluated).mpr constants
  cases evaluated.symm.trans again
  exact known

/-- What is left of such a tree is a literal, as there is no assignment that it could stay for. -/
theorem isLiteral_of_settled (h : LiteralArithmetic e) (settled : Settled policy e)
    (known : HasConstant policy e)
    : e.isLiteral = true := by
  rcases settled.literal_or_assignment known with literal | ⟨term, member, assigned⟩
  · exact literal
  · obtain ⟨constant, rfl⟩ := isLiteral_iff.mp (h.terms term member)
    contradiction

end LiteralArithmetic

-----------------------------------------------------------------------------------------
-- Folding to a literal
-----------------------------------------------------------------------------------------

/-- Arithmetic over literals gives way to a literal, or it cannot be folded. -/
theorem isLiteral_of_collapse {policy : Policy} {op : Operator} {operands : List Expr}
    {folded : Expr} (arithmetic : op.isArithmetic = true)
    (literals : operands.all isLiteral = true)
    (h : (collapse policy op operands).result = .ok folded)
    : folded.isLiteral = true := by
  have closed : (op.isArithmetic && operands.all isLiteral) = true :=
    Bool.and_eq_true_iff.mpr ⟨arithmetic, literals⟩
  rw [collapse, if_pos closed, Traced.result_bind] at h
  obtain ⟨value, evaluated, h⟩ := bind_eq_ok.mp h
  have known := (literalArithmetic_of_literals arithmetic literals).isKnown evaluated
  obtain ⟨constant, found⟩ := Option.isSome_iff_exists.mp known
  rw [found] at h
  cases h
  rfl

/-- A tree folds to a literal exactly when it is built from literals and arithmetic alone and evaluates
to the constant of that literal. Arithmetic over literals has a known value or none at all, so the
pass never hands it back as it was.
-/
theorem fold_gives_literal_iff (policy : Policy) (e : Expr) (constant : Constant)
    : ((fold policy e).result = .ok (.literal constant)
        ↔ LiteralArithmetic e
          ∧ ∃ value,
              (evaluate policy e).result = .ok value ∧ value.constant? = some constant)
      ∧ ∀ op operands,
          op.isArithmetic = true
          → operands.all isLiteral = true
          → (∀ value,
              (evaluate policy (.apply op operands)).result = .ok value
              → value.constant? ≠ none)
            ∧ (collapse policy op operands).result ≠ .ok (.apply op operands) := by
  refine ⟨⟨?_, ?_⟩, ?_⟩
  · intro folds
    have kept := (literalArithmetic_congruence policy).related_of_fold e folds
    exact ⟨kept.mp (.literal constant), .known constant, (evaluate_of_fold folds).symm, rfl⟩
  · rintro ⟨closed, value, evaluated, found⟩
    -- Folding keeps the value and the kind of the tree, so what it leaves is settled and known.
    obtain ⟨folded, folds⟩ := exists_folded_of_evaluate evaluated
    have kept := (literalArithmetic_congruence policy).related_of_fold e folds
    have same := (evaluate_of_fold folds).trans evaluated
    have known : HasConstant policy folded :=
      ⟨value, same, Option.isSome_iff_exists.mpr ⟨constant, found⟩⟩
    have literal := (kept.mpr closed).isLiteral_of_settled (settled_of_fold folds) known
    obtain ⟨left, rfl⟩ := isLiteral_iff.mp literal
    cases same
    cases found
    exact folds
  · intro op operands arithmetic literals
    refine ⟨fun value evaluated missing => ?_, fun rebuilt => ?_⟩
    · have known := (literalArithmetic_of_literals arithmetic literals).isKnown evaluated
      rw [TypedValue.isKnown, missing] at known
      contradiction
    · have literal := isLiteral_of_collapse arithmetic literals rebuilt
      contradiction

/-- A difference with a sum in it folds to a literal. A sum without operands, in which no operand is
other than a literal, is not handed back.
-/
theorem fold_gives_literal_iff_of_nested_difference
    : (LiteralArithmetic (.apply .minus [.apply .plus [int 1, int 2], int 5])
        ∧ (evaluate .strict (.apply .minus [.apply .plus [int 1, int 2], int 5])).result
          = .ok (.known (.int (-2)))
        ∧ (fold .strict (.apply .minus [.apply .plus [int 1, int 2], int 5])).result
          = .ok (.literal (.int (-2))))
      ∧ (collapse .strict .plus []).result ≠ .ok (.apply .plus []) := by
  have closed : LiteralArithmetic (.apply .minus [.apply .plus [int 1, int 2], int 5]) :=
    .apply rfl
      (List.forall_mem_cons.mpr
        ⟨literalArithmetic_of_literals rfl rfl, List.forall_mem_singleton.mpr (.literal _)⟩)
  have difference := fold_gives_literal_iff .strict
    (.apply .minus [.apply .plus [int 1, int 2], int 5]) (.int (-2))
  exact ⟨⟨closed, rfl, difference.1.mpr ⟨closed, .known (.int (-2)), rfl, rfl⟩⟩,
    (difference.2 .plus [] rfl rfl).2⟩

end VmToolchain.Expr
