import VmToolchain.Proofs.Evaluation.Values
import VmToolchain.Proofs.Folding.Substitution

/-! What is left of a tree after folding. Apart from arithmetic and literals all nodes are still
there, in the same order, and the arithmetic that is left has not changed its shape. Its value may be
known even so: an assignment keeps its place, and the arithmetic around it stays as well.
-/

namespace VmToolchain.Expr

-----------------------------------------------------------------------------------------
-- Positions in a tree
-----------------------------------------------------------------------------------------

/-- The direct parts of a node, the callee of a call before its arguments. -/
def children : Expr → List Expr
  | .literal _ | .var _ _ => []
  | .apply _ operands => operands
  | .call callee args => callee :: args
  | .lambda _ body => [body]

/-- The direct parts that lie open. Lambdas and applications without rules are closed. -/
def openParts : Expr → List Expr
  | .literal _ | .var _ _ | .lambda _ _ => []
  | .apply op operands => if op.hasRules then operands else []
  | .call callee args => callee :: args

/-- The node at a position, which lists the numbers of the parts to go down to. -/
def at? (parts : Expr → List Expr) : Expr → List Nat → Option Expr
  | e, [] => some e
  | e, i :: path => (parts e)[i]?.bind (fun part => at? parts part path)

/-- A node stands at the root, or at a position in one of the parts. -/
theorem exists_at?_iff {parts : Expr → List Expr} {e node : Expr}
    : (∃ path, e.at? parts path = some node)
      ↔ node = e ∨ ∃ part ∈ parts e, ∃ path, part.at? parts path = some node := by
  constructor
  · intro h
    obtain ⟨path, found⟩ := h
    cases path with
    | nil =>
        cases found
        exact Or.inl rfl
    | cons i path =>
        obtain ⟨part, taken, found⟩ := Option.bind_eq_some_iff.mp found
        exact Or.inr ⟨part, List.mem_of_getElem? taken, path, found⟩
  · intro h
    rcases h with rfl | ⟨part, member, path, found⟩
    · exact ⟨[], rfl⟩
    · obtain ⟨i, taken⟩ := List.mem_iff_getElem?.mp member
      exact ⟨i :: path, by rw [at?, taken, Option.bind_some, found]⟩

/-- Induction on a tree by its direct parts, whatever node they belong to. -/
@[elab_as_elim]
theorem partInduction {motive : Expr → Prop}
    (node : ∀ e, (∀ part ∈ e.children, motive part) → motive e) (e : Expr)
    : motive e := by
  induction e using treeInduction with
  | literal value => exact node _ nofun
  | var name type => exact node _ nofun
  | apply op operands ih => exact node _ ih
  | call callee args hc ha => exact node _ (List.forall_mem_cons.mpr ⟨hc, ha⟩)
  | lambda params body ih => exact node _ (List.forall_mem_singleton.mpr ih)

mutual

/-- All nodes, each before its parts and the parts from left to right. -/
def preorder : Expr → List Expr
  | .literal value => [.literal value]
  | .var name type => [.var name type]
  | .apply op operands => .apply op operands :: preorderOfAll operands
  | .call callee args => .call callee args :: (preorder callee ++ preorderOfAll args)
  | .lambda params body => .lambda params body :: preorder body

def preorderOfAll : List Expr → List Expr
  | [] => []
  | e :: rest => preorder e ++ preorderOfAll rest

end

theorem preorderOfAll_eq_flatMap (es : List Expr) : preorderOfAll es = es.flatMap preorder := by
  induction es with
  | nil => rfl
  | cons e rest ih => rw [preorderOfAll, ih, List.flatMap_cons]

theorem preorder_eq_cons (e : Expr) : e.preorder = e :: e.children.flatMap preorder := by
  cases e <;> simp [preorder, children, preorderOfAll_eq_flatMap]

/-- The nodes are those that stand at some position, by induction on the tree. -/
theorem mem_preorder_iff {e node : Expr}
    : node ∈ e.preorder ↔ ∃ path, e.at? children path = some node := by
  induction e using partInduction with
  | node e ih =>
      rw [preorder_eq_cons, List.mem_cons, List.mem_flatMap, exists_at?_iff]
      exact or_congr_right (exists_congr (fun part => and_congr_right (ih part)))

-----------------------------------------------------------------------------------------
-- The nodes that folding has to keep
-----------------------------------------------------------------------------------------

/-- A node other than a literal and arithmetic, with what identifies it. -/
inductive Item where
  | var (name : String) (type : Option PrimitiveType)
  | apply (op : Operator) (operands : Nat)
  | call (args : Nat)
  | closed (content : Expr)

mutual

/-- The items in the order in which they are met from the root. Closed nodes are taken whole. -/
def items : Expr → List Item
  | .literal _ => []
  | .var name type => [.var name type]
  | .apply op operands =>
      if op.isArithmetic then itemsOfAll operands
      else if op.hasRules then .apply op operands.length :: itemsOfAll operands
      else [.closed (.apply op operands)]
  | .call callee args => .call args.length :: (items callee ++ itemsOfAll args)
  | .lambda params body => [.closed (.lambda params body)]

def itemsOfAll : List Expr → List Item
  | [] => []
  | e :: rest => items e ++ itemsOfAll rest

end

theorem itemsOfAll_congr {left right : List Expr}
    (h : List.Forall₂ (fun left right => items left = items right) left right)
    : itemsOfAll left = itemsOfAll right := by
  induction h with
  | nil => rfl
  | cons head _ ih => rw [itemsOfAll, itemsOfAll, head, ih]

theorem itemsOfAll_map_literal (constants : List Constant)
    : itemsOfAll (constants.map literal) = [] := by
  induction constants with
  | nil => rfl
  | cons constant constants ih => rw [List.map_cons, itemsOfAll, ih, items, List.append_nil]

/-- The steps of folding keep all items: only literals are operands of a node that collapses. -/
theorem items_congruence (policy : Policy)
    : FoldCongruence policy (fun folded e => folded.items = e.items) where
  refl _ := rfl
  trans := Eq.trans
  call hc ha := by rw [items, items, hc, itemsOfAll_congr ha, ha.length_eq]
  apply rules h := by
    rw [items, items, itemsOfAll_congr h, h.length_eq, if_pos rules, if_pos rules]
  collapse arithmetic literals _ := by
    obtain ⟨constants, rfl⟩ := exists_map_literal literals
    rw [items, items, if_pos arithmetic, itemsOfAll_map_literal]

/-- Where the first tree has an application, the second has one at the same position, of the same
operator and with as many operands.
-/
def AppliesAsIn (folded e : Expr) : Prop :=
  ∀ path op operands,
    folded.at? children path = some (.apply op operands)
    → ∃ before,
        e.at? children path = some (.apply op before) ∧ operands.length = before.length

theorem appliesAsIn_part {left right : List Expr} (h : List.Forall₂ AppliesAsIn left right)
    {i : Nat} {path : List Nat} {op : Operator} {operands : List Expr}
    (found : left[i]?.bind (fun part => part.at? children path) = some (.apply op operands))
    : ∃ before,
        right[i]?.bind (fun part => part.at? children path) = some (.apply op before)
        ∧ operands.length = before.length := by
  induction h generalizing i with
  | nil => simp at found
  | cons head _ ih =>
      cases i with
      | zero => exact head path op operands found
      | succ i => exact ih found

/-- The steps of folding keep the shape of the applications that are left. -/
theorem appliesAsIn_congruence (policy : Policy) : FoldCongruence policy AppliesAsIn where
  refl _ _ _ operands found := ⟨operands, found, rfl⟩
  trans hl hr path op operands found := by
    obtain ⟨middle, found, same⟩ := hl path op operands found
    obtain ⟨before, found, same'⟩ := hr path op middle found
    exact ⟨before, found, same.trans same'⟩
  call hc ha path op operands found := by
    cases path with
    | nil => cases found
    | cons i path => exact appliesAsIn_part (.cons hc ha) found
  apply {_ before _} _ h path op operands found := by
    cases path with
    | nil =>
        cases found
        exact ⟨before, rfl, h.length_eq⟩
    | cons i path => exact appliesAsIn_part h found
  collapse _ _ _ path op operands found := by
    cases path with
    | nil => cases found
    | cons i path => cases found

/-- Folding loses, repeats and reorders nothing but arithmetic: the items of the folded tree are
those of the tree, in the same order. Every application that is left stood at the same position
before, with the same operator and as many operands.
-/
theorem fold_keeps_items_and_operand_counts (policy : Policy) (e folded : Expr)
    (h : (fold policy e).result = .ok folded)
    : folded.items = e.items
      ∧ ∀ path op operands,
          folded.at? children path = some (.apply op operands)
          → ∃ before,
              e.at? children path = some (.apply op before)
              ∧ operands.length = before.length :=
  ⟨(items_congruence policy).related_of_fold e h,
    (appliesAsIn_congruence policy).related_of_fold e h⟩

/-- The sum in the argument of a call keeps its place and its two operands, one of which is an
assignment; beside and below the assignment, arithmetic is folded.
-/
theorem fold_keeps_items_and_operand_counts_of_argument
    : (fold .strict
          (.call (.var "f" none)
            [.apply .plus
              [assign (.var "x" none) (.apply .minus [int 7, int 2]),
                .apply .plus [int 1, int 1]]])).result
        = .ok
            (.call (.var "f" none) [.apply .plus [assign (.var "x" none) (int 5), int 2]])
      ∧ items
          (.call (.var "f" none) [.apply .plus [assign (.var "x" none) (int 5), int 2]])
        = items
            (.call (.var "f" none)
              [.apply .plus
                [assign (.var "x" none) (.apply .minus [int 7, int 2]),
                  .apply .plus [int 1, int 1]]])
      ∧ ∃ before,
          at? children
              (.call (.var "f" none)
                [.apply .plus
                  [assign (.var "x" none) (.apply .minus [int 7, int 2]),
                    .apply .plus [int 1, int 1]]])
              [1]
            = some (.apply .plus before)
          ∧ 2 = before.length := by
  have kept := fold_keeps_items_and_operand_counts .strict
    (.call (.var "f" none)
      [.apply .plus
        [assign (.var "x" none) (.apply .minus [int 7, int 2]),
          .apply .plus [int 1, int 1]]])
    (.call (.var "f" none) [.apply .plus [assign (.var "x" none) (int 5), int 2]]) rfl
  exact ⟨rfl, kept.1, kept.2 [1] .plus [assign (.var "x" none) (int 5), int 2] rfl⟩

-----------------------------------------------------------------------------------------
-- Trees that folding leaves as they are
-----------------------------------------------------------------------------------------

def Settled (policy : Policy) (e : Expr) : Prop :=
  (fold policy e).result = .ok e

theorem settled_of_fold {policy : Policy} {e folded : Expr}
    (h : (fold policy e).result = .ok folded)
    : Settled policy folded := by
  have again := (sameFolding_congruence policy).related_of_fold e h .var
  rw [subst_var, subst_var] at again
  exact again.trans h

namespace Settled

variable {policy : Policy}

theorem members {es : List Expr} (h : (foldAll policy es).result = .ok es)
    : ∀ e ∈ es, Settled policy e := by
  rw [foldAll_result, mapM_eq_ok] at h
  exact fun e member => List.forall₂_same.mp h e member

/-- A settled application was rebuilt from settled operands. -/
theorem rebuilt {op : Operator} {operands : List Expr} (rules : op.hasRules = true)
    (h : Settled policy (.apply op operands))
    : (foldAll policy operands).result = .ok operands
      ∧ (collapse policy op operands).result = .ok (.apply op operands) := by
  rw [Settled, fold_apply_result, if_pos rules] at h
  obtain ⟨folded, ho, hc⟩ := bind_eq_ok.mp h
  rcases collapse_eq_ok hc with same | ⟨_, _, _, same, _⟩
  · cases same
    exact ⟨ho, hc⟩
  · contradiction

/-- The open parts of a settled tree are settled. -/
theorem openParts {e : Expr} (h : Settled policy e)
    : ∀ part ∈ e.openParts, Settled policy part := by
  intro part member
  cases e with
  | literal _ | var _ _ | lambda _ _ => contradiction
  | apply op operands =>
      rw [Expr.openParts] at member
      split at member
      · next rules => exact members (rebuilt rules h).1 part member
      · contradiction
  | call callee args =>
      rw [Settled, fold_call_result] at h
      obtain ⟨callee', hc, h⟩ := bind_eq_ok.mp h
      obtain ⟨args', ha, same⟩ := map_eq_ok.mp h
      cases same
      rcases List.mem_cons.mp member with rfl | member
      · exact hc
      · exact members ha part member

theorem at? {e part : Expr} {path : List Nat} (h : Settled policy e)
    (found : e.at? Expr.openParts path = some part)
    : Settled policy part := by
  induction path generalizing e with
  | nil =>
      cases found
      exact h
  | cons i path ih =>
      obtain ⟨below, taken, found⟩ := Option.bind_eq_some_iff.mp found
      exact ih (h.openParts below (List.mem_of_getElem? taken)) found

end Settled

-----------------------------------------------------------------------------------------
-- Arithmetic that is left although its value is known
-----------------------------------------------------------------------------------------

mutual

/-- What the arithmetic at the root computes with: the nodes met through arithmetic alone. -/
def terms : Expr → List Expr
  | .apply op operands => if op.isArithmetic then termsOfAll operands else [.apply op operands]
  | .literal value => [.literal value]
  | .var name type => [.var name type]
  | .call callee args => [.call callee args]
  | .lambda params body => [.lambda params body]

def termsOfAll : List Expr → List Expr
  | [] => []
  | e :: rest => terms e ++ termsOfAll rest

end

theorem mem_termsOfAll {es : List Expr} {term : Expr}
    : term ∈ termsOfAll es ↔ ∃ e ∈ es, term ∈ e.terms := by
  induction es with
  | nil => simp [termsOfAll]
  | cons e rest ih => simp [termsOfAll, ih]

theorem mem_terms_apply {op : Operator} {operands : List Expr} {term : Expr}
    (arithmetic : op.isArithmetic = true)
    : term ∈ (apply op operands).terms ↔ ∃ e ∈ operands, term ∈ e.terms := by
  rw [terms, if_pos arithmetic, mem_termsOfAll]

/-- A tree that has a value knows it when the values of its terms are known. -/
theorem hasConstant_iff_terms {policy : Policy} {e : Expr} {value : TypedValue}
    (h : (evaluate policy e).result = .ok value)
    : HasConstant policy e ↔ ∀ term ∈ e.terms, HasConstant policy term := by
  induction e using treeInduction generalizing value with
  | literal _ | var _ _ | call _ _ _ _ | lambda _ _ _ => simp [terms]
  | apply op operands ih =>
      by_cases arithmetic : op.isArithmetic = true
      · obtain ⟨values, evaluated, _⟩ := exists_fold_of_evaluate h
        simp only [hasConstant_arithmetic_iff arithmetic, mem_terms_apply arithmetic]
        constructor
        · rintro ⟨_, constants⟩ term ⟨e, member, within⟩
          obtain ⟨operand, _, found⟩ := exists_value_of_mem evaluated member
          exact (ih e member found).mp (constants e member) term within
        · intro constants
          refine ⟨⟨value, h⟩, fun e member => ?_⟩
          obtain ⟨operand, _, found⟩ := exists_value_of_mem evaluated member
          exact (ih e member found).mpr (fun term within => constants term ⟨e, member, within⟩)
      · simp [terms, arithmetic]

/-- Where a value is known, the root is a literal, an assignment or arithmetic. -/
theorem HasConstant.root_cases {policy : Policy} {e : Expr} (h : HasConstant policy e)
    : e.isLiteral = true
      ∨ e.operator? = some .assignment
      ∨ ∃ op operands, op.isArithmetic = true ∧ e = .apply op operands := by
  obtain ⟨value, evaluated, known⟩ := h
  cases e with
  | literal constant => exact Or.inl rfl
  | var name type => cases type <;> cases evaluated <;> contradiction
  | call callee args =>
      rw [evaluate_call_result] at evaluated
      contradiction
  | lambda params body => contradiction
  | apply op operands =>
      obtain ⟨rules, _⟩ := evaluate_apply_eq_ok.mp evaluated
      cases op with
      | plus | minus => exact Or.inr (Or.inr ⟨_, _, rfl, rfl⟩)
      | assignment => exact Or.inr (Or.inl rfl)
      | arrow | functionCall => contradiction

theorem not_arithmetic_of_mem_terms {e : Expr} {op : Operator} {operands : List Expr}
    (member : .apply op operands ∈ e.terms)
    : op.isArithmetic = false := by
  induction e using treeInduction with
  | literal _ | var _ _ | call _ _ _ _ | lambda _ _ _ => simp [terms] at member
  | apply root parts ih =>
      by_cases arithmetic : root.isArithmetic = true
      · obtain ⟨e, within, member⟩ := (mem_terms_apply arithmetic).mp member
        exact ih e within member
      · rw [terms, if_neg arithmetic] at member
        cases List.mem_singleton.mp member
        exact Bool.eq_false_iff.mpr arithmetic

/-- Settled arithmetic with a known value has more than literals for operands. -/
theorem Settled.not_all_literals {policy : Policy} {op : Operator} {operands : List Expr}
    (settled : Settled policy (.apply op operands)) (arithmetic : op.isArithmetic = true)
    (known : HasConstant policy (.apply op operands))
    : ¬operands.all isLiteral = true := by
  intro literals
  obtain ⟨value, evaluated, known⟩ := known
  obtain ⟨constant, found⟩ := Option.isSome_iff_exists.mp known
  have same := (evaluate_apply_consistent arithmetic evaluated).eq_known found
  have gone := collapse_of_known arithmetic literals (same ▸ evaluated)
  have kept := (settled.rebuilt (Operator.hasRules_of_isArithmetic arithmetic)).2
  cases gone.symm.trans kept

/-- A settled tree with a known value is a literal, or an assignment is among its terms. The
induction follows an operand that is no literal, down to one that is no arithmetic.
-/
theorem Settled.literal_or_assignment {policy : Policy} {e : Expr} (settled : Settled policy e)
    (known : HasConstant policy e)
    : e.isLiteral = true ∨ ∃ term ∈ e.terms, term.operator? = some .assignment := by
  induction e using treeInduction with
  | literal value => exact Or.inl rfl
  | var _ _ | call _ _ _ _ | lambda _ _ _ =>
      rcases known.root_cases with h | h | ⟨_, _, _, h⟩ <;> cases h
  | apply op operands ih =>
      by_cases arithmetic : op.isArithmetic = true
      · have rules := Operator.hasRules_of_isArithmetic arithmetic
        have parts := Settled.members (settled.rebuilt rules).1
        have constants := ((hasConstant_arithmetic_iff arithmetic).mp known).2
        have more := settled.not_all_literals arithmetic known
        obtain ⟨operand, member, other⟩ : ∃ operand ∈ operands, ¬operand.isLiteral = true := by
          simpa using more
        rcases ih operand member (parts operand member) (constants operand member) with
          literal | ⟨term, within, assigned⟩
        · exact (other literal).elim
        · exact Or.inr ⟨term, (mem_terms_apply arithmetic).mpr ⟨operand, member, within⟩, assigned⟩
      · rcases known.root_cases with h | h | ⟨_, _, h, same⟩
        · contradiction
        · refine Or.inr ⟨.apply op operands, ?_, h⟩
          rw [terms, if_neg arithmetic]
          exact List.mem_singleton_self _
        · cases same
          contradiction

/-- An application that folding leaves in the open, outside lambdas and applications without rules,
has a known value just when it has a value at all, its terms are literals or assignments of known
values, and one of them is an assignment. So arithmetic with a known value is left only around
assignments.
-/
theorem residual_application_hasConstant_iff (policy : Policy) (e folded : Expr)
    (h : (fold policy e).result = .ok folded) (path : List Nat) (op : Operator)
    (operands : List Expr) (found : folded.at? openParts path = some (.apply op operands))
    : HasConstant policy (.apply op operands)
      ↔ (∃ value, (evaluate policy (.apply op operands)).result = .ok value)
        ∧ (∀ term ∈ (apply op operands).terms,
            term.isLiteral = true
            ∨ term.operator? = some .assignment ∧ HasConstant policy term)
        ∧ ∃ term ∈ (apply op operands).terms, term.operator? = some .assignment := by
  have settled : Settled policy (.apply op operands) := (settled_of_fold h).at? found
  constructor
  · intro known
    have ⟨value, evaluated, _⟩ := known
    refine ⟨⟨value, evaluated⟩, fun term member => ?_, ?_⟩
    · have constant := (hasConstant_iff_terms evaluated).mp known term member
      rcases constant.root_cases with literal | assigned | ⟨_, _, again, rfl⟩
      · exact Or.inl literal
      · exact Or.inr ⟨assigned, constant⟩
      · rw [not_arithmetic_of_mem_terms member] at again
        contradiction
    · rcases settled.literal_or_assignment known with literal | assigned
      · contradiction
      · exact assigned
  · rintro ⟨⟨value, evaluated⟩, constants, _⟩
    refine (hasConstant_iff_terms evaluated).mpr (fun term member => ?_)
    rcases constants term member with literal | ⟨_, constant⟩
    · obtain ⟨constant, rfl⟩ := isLiteral_iff.mp literal
      exact ⟨.known constant, rfl, rfl⟩
    · exact constant

/-- The argument of a call is folded in its left operand, and stays for the assignment in its right
one.
-/
theorem residual_application_hasConstant_iff_of_argument
    : (fold .strict
          (.call (.var "f" none)
            [.apply .plus
              [.apply .minus [int 4, int 2], assign (.var "y" none) (int 2)]])).result
        = .ok
            (.call (.var "f" none) [.apply .plus [int 2, assign (.var "y" none) (int 2)]])
      ∧ at? openParts
            (.call (.var "f" none) [.apply .plus [int 2, assign (.var "y" none) (int 2)]]) [1]
        = some (.apply .plus [int 2, assign (.var "y" none) (int 2)])
      ∧ ∃ term ∈ terms (.apply .plus [int 2, assign (.var "y" none) (int 2)]),
          term.operator? = some .assignment := by
  have known : HasConstant .strict (.apply .plus [int 2, assign (.var "y" none) (int 2)]) :=
    ⟨.known (.int 4), rfl, rfl⟩
  have folds : (fold .strict
      (.call (.var "f" none)
        [.apply .plus [.apply .minus [int 4, int 2], assign (.var "y" none) (int 2)]])).result
      = .ok (.call (.var "f" none) [.apply .plus [int 2, assign (.var "y" none) (int 2)]]) :=
    rfl
  refine ⟨folds, rfl, ?_⟩
  exact ((residual_application_hasConstant_iff .strict _ _ folds [1] .plus _ rfl).mp known).2.2

/-- A sum with an assignment in it is left as it is, although its value is known. -/
theorem fold_leaves_known_sum
    : (fold .lenient (.apply .plus [int 1, assign (.var "y" none) (int 2)])).result
        = .ok (.apply .plus [int 1, assign (.var "y" none) (int 2)])
      ∧ (evaluate .lenient (.apply .plus [int 1, assign (.var "y" none) (int 2)])).result
        = .ok (.known (.int 3)) :=
  ⟨rfl, rfl⟩

end VmToolchain.Expr
