import VmToolchain.Proofs.Evaluation.Meaning

/-! What is known of a value before the variables are bound, and what is left of it afterwards. A
constant stays the same under every binding. A category stays the same if variables are bound to
literals of their declared types. Either is a relation between the values of two runs, and it holds of
whole trees because the fold rules respect it.
-/

namespace VmToolchain

-----------------------------------------------------------------------------------------
-- Relations that the fold rules respect
-----------------------------------------------------------------------------------------

namespace TypedValue

/-- The second value is the first, if that is known. -/
def KeepsConstant (before after : TypedValue) : Prop :=
  before.isKnown = true → after = before

/-- The second value has the category of the first, if that tells anything. -/
def KeepsCategory (before after : TypedValue) : Prop :=
  before.category ≠ .unknown → after.category = before.category

/-- A relation between values that literals are in with themselves and that the fold rules carry
over from their operands to their results.
-/
structure FoldRelation (related : TypedValue → TypedValue → Prop) : Prop where
  literal : ∀ constant, related (known constant) (known constant)
  fold
    : ∀ {op : Operator} {left right value left' right' value' : TypedValue},
        op.fold [left, right] = .ok value
        → op.fold [left', right'] = .ok value'
        → related left left'
        → related right right'
        → related value value'

/-- Arithmetic with a known result has known operands, so it computes the same once more. -/
theorem keepsConstant_foldRelation : FoldRelation KeepsConstant where
  literal _ _ := rfl
  fold {op _ _ _ _ _ _} before after first second := by
    intro known
    cases op with
    | plus | minus =>
        have operands := (Operator.isKnown_of_fold rfl before).mp known
        have hl := first (operands _ (by simp))
        have hr := second (operands _ (by simp))
        subst hl hr
        cases before.symm.trans after
        rfl
    | assignment =>
        cases before
        cases after
        exact first known
    | arrow | functionCall => contradiction

/-- Arithmetic is integral either way, and an assignment has the category of its value. -/
theorem keepsCategory_foldRelation : FoldRelation KeepsCategory where
  literal _ _ := rfl
  fold {op _ _ _ _ _ _} before after first second := by
    intro told
    cases op with
    | plus | minus =>
        have integral := Operator.category_of_fold rfl before
        have integral' := Operator.category_of_fold rfl after
        exact integral'.trans integral.symm
    | assignment =>
        cases before
        cases after
        exact first told
    | arrow | functionCall => contradiction

end TypedValue

-----------------------------------------------------------------------------------------
-- Trees before and after the binding of their variables
-----------------------------------------------------------------------------------------

namespace Expr

/-- A map on trees that replaces variables: literals stay, and applications are rebuilt from their
operands. Calls and lambdas have no values, so it is left open what becomes of them, and whether the
bodies of lambdas are entered.
-/
structure IsSubstitution (bind : Expr → Expr) : Prop where
  literal : ∀ value, bind (.literal value) = .literal value
  apply : ∀ op operands, bind (.apply op operands) = .apply op (operands.map bind)

theorem isSubstitution_subst (binding : Binding) : IsSubstitution (subst binding) where
  literal _ := rfl
  apply op operands := by rw [subst, substAll_eq_map]

/-- Every variable is replaced by a literal, and one that is declared with a type by a literal of the
type's category.
-/
def BindsToLiterals (bind : Expr → Expr) : Prop :=
  ∀ name type,
    ∃ constant,
      bind (.var name type) = .literal constant
      ∧ ∀ declared, type = some declared → constant.category = declared.category

/-- Where a relation holds between the value of each variable and the value of what replaces it, it
holds between the values of the tree before and after, by induction on the value.
-/
theorem related_of_substitution {policy : Policy} {related : TypedValue → TypedValue → Prop}
    (relation : TypedValue.FoldRelation related) {bind : Expr → Expr}
    (substitution : IsSubstitution bind)
    (var
      : ∀ {name type category after},
          (evaluate policy (.var name type)).result = .ok (.unknown category)
          → (evaluate policy (bind (.var name type))).result = .ok after
          → related (.unknown category) after)
    {e : Expr} {before after : TypedValue} (h : (evaluate policy e).result = .ok before)
    (bound : (evaluate policy (bind e)).result = .ok after)
    : related before after := by
  induction h using valueInduction generalizing after with
  | literal constant =>
      rw [substitution.literal] at bound
      cases bound
      exact relation.literal constant
  | var name type category h => exact var h bound
  | apply op left right a b value _ _ _ folded first second =>
      rw [substitution.apply] at bound
      obtain ⟨left', right', a', b', same, hl, hr, folded'⟩ := pair_of_evaluate bound
      cases same
      exact relation.fold folded folded' (first hl) (second hr)

/-- A literal of a variable's declared category keeps the category that the variable had. -/
theorem BindsToLiterals.keepsCategory {policy : Policy} {bind : Expr → Expr}
    (literals : BindsToLiterals bind) {name : String} {type : Option PrimitiveType}
    {category : Category} {after : TypedValue}
    (h : (evaluate policy (.var name type)).result = .ok (.unknown category))
    (bound : (evaluate policy (bind (.var name type))).result = .ok after)
    : TypedValue.KeepsCategory (.unknown category) after := by
  intro told
  obtain ⟨constant, replaced, fits⟩ := literals name type
  rw [replaced] at bound
  cases bound
  cases type with
  | none =>
      cases h
      contradiction
  | some declared =>
      cases h
      exact fits declared rfl

/-- What is known at compile time stays true when variables are bound. A tree with a known value has
the same value, under the same category, whatever replaces its variables, if it has one at all then.
Where each variable is replaced by a literal, which for a declared type is of its category, a tree
keeps its category, unless that was unknown.
-/
theorem evaluate_stable_under_substitution (policy : Policy) (bind : Expr → Expr)
    (substitution : IsSubstitution bind) (e : Expr) (before after : TypedValue)
    (h : (evaluate policy e).result = .ok before)
    (bound : (evaluate policy (bind e)).result = .ok after)
    : (∀ constant,
        before.constant? = some constant
        → after.constant? = some constant ∧ after.category = before.category)
      ∧ (BindsToLiterals bind
          → before.category ≠ .unknown
          → after.category = before.category) := by
  constructor
  · intro constant found
    have kept : after = before :=
      related_of_substitution TypedValue.keepsConstant_foldRelation substitution
        (fun _ _ => nofun) h bound (Option.isSome_iff_exists.mpr ⟨constant, found⟩)
    rw [kept]
    exact ⟨found, rfl⟩
  · intro literals
    exact related_of_substitution TypedValue.keepsCategory_foldRelation substitution
      literals.keepsCategory h bound

/-- The target of an assignment is bound to a string, and the sum around it keeps its value. A
difference of which only the category was known keeps that when both variables are bound.
-/
theorem evaluate_stable_under_substitution_of_target
    : ((evaluate .strict (.apply .plus [assign (.var "x" (some .int8)) (int 2), int 3])).result
          = .ok (.known (.int 5))
        ∧ (evaluate .strict
              (subst (fun _ _ => str "a")
                (.apply .plus [assign (.var "x" (some .int8)) (int 2), int 3]))).result
          = .ok (.known (.int 5))
        ∧ (TypedValue.known (.int 5)).constant? = some (.int 5)
        ∧ (TypedValue.known (.int 5)).category = .integral)
      ∧ (evaluate .strict (.apply .minus [.var "x" (some .int8), .var "y" none])).result
        = .ok (.unknown .integral)
      ∧ (evaluate .strict
            (subst (fun _ type => if type = some .string then str "a" else int 7)
              (.apply .minus [.var "x" (some .int8), .var "y" none]))).result
        = .ok (.known (.int 0))
      ∧ BindsToLiterals (subst (fun _ type => if type = some .string then str "a" else int 7))
      ∧ (TypedValue.known (.int 0)).category = .integral := by
  have literals
      : BindsToLiterals
          (subst (fun _ type => if type = some .string then str "a" else int 7)) := by
    intro name type
    rcases type with _ | _ | _
    · exact ⟨.int 7, rfl, nofun⟩
    · exact ⟨.int 7, rfl, fun declared same => by cases same; rfl⟩
    · exact ⟨.str "a", rfl, fun declared same => by cases same; rfl⟩
  have sum := evaluate_stable_under_substitution .strict (subst (fun _ _ => str "a"))
    (isSubstitution_subst _) (.apply .plus [assign (.var "x" (some .int8)) (int 2), int 3])
    (.known (.int 5)) (.known (.int 5)) rfl rfl
  have difference := evaluate_stable_under_substitution .strict
    (subst (fun _ type => if type = some .string then str "a" else int 7))
    (isSubstitution_subst _) (.apply .minus [.var "x" (some .int8), .var "y" none])
    (.unknown .integral) (.known (.int 0)) rfl rfl
  exact ⟨⟨rfl, rfl, sum.1 (.int 5) rfl⟩, rfl, rfl, literals, difference.2 literals nofun⟩

end Expr

end VmToolchain
