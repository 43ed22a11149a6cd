import Mathlib.Data.Int.ModEq
import VmToolchain.Proofs.Folding.Residue

/-! What the value of a tree says about the tree. Whether it is known depends on the leaves that it is
made of, and not on the targets of assignments. An integer is the exact result, wrapped around once at
the end. A string was a literal, and assignments have handed it on.
-/

namespace VmToolchain

-----------------------------------------------------------------------------------------
-- One application
-----------------------------------------------------------------------------------------

theorem Constant.int?_eq_some_iff {constant : Constant} {n : Int64}
    : constant.int? = some n ↔ constant = .int n := by
  cases constant <;> simp [int?]

namespace Operator

/-- Arithmetic that comes to a value gives the result of two integers, or no constant at all. -/
theorem constant?_of_foldIntegers {op : Operator} {compute : Int64 → Int64 → Int64}
    {left right value : TypedValue} (h : op.foldIntegers compute left right = .ok value)
    : (left.constant? = none ∨ right.constant? = none) ∧ value.constant? = none
      ∨ ∃ m n,
          left.constant? = some (.int m)
          ∧ right.constant? = some (.int n)
          ∧ value.constant? = some (.int (compute m n)) := by
  unfold foldIntegers at h
  split at h
  · next a b hl hr =>
      obtain ⟨m, first, h⟩ := bind_eq_ok.mp h
      obtain ⟨n, second, h⟩ := bind_eq_ok.mp h
      cases h
      cases a <;> cases first
      cases b <;> cases second
      exact Or.inr ⟨m, n, hl, hr, rfl⟩
  · next missing =>
      cases h
      refine Or.inl ⟨?_, rfl⟩
      cases hl : left.constant? with
      | none => exact Or.inl rfl
      | some a =>
          cases hr : right.constant? with
          | none => exact Or.inr rfl
          | some b => exact (missing a b hl hr).elim

/-- The integer of arithmetic is computed from the integers of its operands. -/
theorem int?_of_foldIntegers {op : Operator} {compute : Int64 → Int64 → Int64}
    {left right value : TypedValue} (h : op.foldIntegers compute left right = .ok value)
    : value.constant?.bind Constant.int?
      = (left.constant?.bind Constant.int?).bind (fun m =>
          (right.constant?.bind Constant.int?).map (compute m)) := by
  rcases constant?_of_foldIntegers h with ⟨missing | missing, none⟩ | ⟨m, n, hl, hr, found⟩
  · simp [missing, none]
  · simp [missing, none]
  · simp [hl, hr, found, Constant.int?]

theorem ne_str_of_foldIntegers {op : Operator} {compute : Int64 → Int64 → Int64}
    {left right value : TypedValue} (h : op.foldIntegers compute left right = .ok value)
    (text : String)
    : value.constant? ≠ some (.str text) := by
  rcases constant?_of_foldIntegers h with ⟨_, none⟩ | ⟨m, n, _, _, found⟩
  · simp [none]
  · simp [found]

end Operator

namespace Expr

/-- An application with a value has two operands, and the fold rule gives the value on theirs. -/
theorem pair_of_evaluate {policy : Policy} {op : Operator} {operands : List Expr}
    {value : TypedValue} (h : (evaluate policy (.apply op operands)).result = .ok value)
    : ∃ left right a b,
        operands = [left, right]
        ∧ (evaluate policy left).result = .ok a
        ∧ (evaluate policy right).result = .ok b
        ∧ op.fold [a, b] = .ok value := by
  obtain ⟨_, values, verdict, evaluated, concluded⟩ := evaluate_apply_eq_ok.mp h
  obtain ⟨inferred, _, folded⟩ := Operator.conclude_eq_ok.mp concluded
  obtain ⟨a, b, rfl⟩ := Operator.pair_of_inferType inferred
  obtain ⟨left, right, rfl, hl, hr⟩ := evaluateAll_eq_ok_pair.mp evaluated
  exact ⟨left, right, a, b, rfl, hl, hr, folded⟩

/-- Induction on a tree that has a value: it is a leaf, or an application of two operands that have
values.
-/
@[elab_as_elim]
theorem valueInduction {policy : Policy}
    {motive : ∀ e value, (evaluate policy e).result = .ok value → Prop}
    (literal : ∀ constant, motive (.literal constant) (.known constant) rfl)
    (var : ∀ name type category h, motive (.var name type) (.unknown category) h)
    (apply : ∀ op left right a b value hl hr h,
      op.fold [a, b] = .ok value
      → motive left a hl
      → motive right b hr
      → motive (.apply op [left, right]) value h)
    {e : Expr} {value : TypedValue} (h : (evaluate policy e).result = .ok value)
    : motive e value h := by
  induction e using treeInduction generalizing value with
  | literal constant =>
      cases h
      exact literal constant
  | var name type => cases type <;> cases h <;> exact var name _ _ rfl
  | apply op operands ih =>
      obtain ⟨left, right, a, b, rfl, hl, hr, folded⟩ := pair_of_evaluate h
      exact apply op left right a b value hl hr h folded (ih left (by simp) hl)
        (ih right (by simp) hr)
  | call callee args =>
      rw [evaluate_call_result] at h
      contradiction
  | lambda params body => contradiction

-----------------------------------------------------------------------------------------
-- The leaves that a value is made of
-----------------------------------------------------------------------------------------

/-- The direct parts that the value of a node is made of: the operands of arithmetic, and the first
operand of an assignment, which is its value.
-/
def consulted : Expr → List Expr
  | .apply .plus operands | .apply .minus operands => operands
  | .apply .assignment operands => operands.take 1
  | _ => []

/-- A variable is reached from the root through such parts alone. -/
def ConsultsVariable (e : Expr) : Prop :=
  ∃ name type path, e.at? consulted path = some (.var name type)

theorem consultsVariable_iff {e : Expr}
    : e.ConsultsVariable
      ↔ (∃ name type, e = .var name type) ∨ ∃ part ∈ e.consulted, part.ConsultsVariable := by
  simp only [ConsultsVariable, exists_at?_iff (e := e)]
  constructor
  · intro reached
    obtain ⟨name, type, here⟩ := reached
    rcases here with same | ⟨part, member, path, found⟩
    · exact Or.inl ⟨name, type, same.symm⟩
    · exact Or.inr ⟨part, member, name, type, path, found⟩
  · intro reached
    rcases reached with ⟨name, type, same⟩ | ⟨part, member, name, type, path, found⟩
    · exact ⟨name, type, Or.inl same.symm⟩
    · exact ⟨name, type, Or.inr ⟨part, member, path, found⟩⟩

/-- A value is known when no variable has a part in it. -/
theorem isKnown_iff_of_evaluate {policy : Policy} {e : Expr} {value : TypedValue}
    (h : (evaluate policy e).result = .ok value)
    : value.isKnown = true ↔ ¬e.ConsultsVariable := by
  induction h using valueInduction with
  | literal constant =>
      rw [consultsVariable_iff]
      simp [consulted, TypedValue.isKnown, TypedValue.known]
  | var name type category =>
      rw [consultsVariable_iff]
      simp
  | apply op left right a b value _ _ _ folded first second =>
      rw [consultsVariable_iff]
      cases op with
      | plus | minus =>
          rw [Operator.isKnown_of_fold rfl folded]
          simp [consulted, first, second]
      | assignment =>
          cases folded
          simp [consulted, first]
      | arrow | functionCall => contradiction

-----------------------------------------------------------------------------------------
-- Exact integers
-----------------------------------------------------------------------------------------

/-- The integer that the tree comes to if nothing ever wraps around. An assignment stands for its
value.
-/
def exactValue? : Expr → Option Int
  | .literal (.int value) => some value.toInt
  | .apply .plus [left, right] => do return (← exactValue? left) + (← exactValue? right)
  | .apply .minus [left, right] => do return (← exactValue? left) - (← exactValue? right)
  | .apply .assignment [value, _] => exactValue? value
  | _ => none

/-- Wrapping around at every node comes to the same as wrapping around once. -/
theorem int?_of_evaluate {policy : Policy} {e : Expr} {value : TypedValue}
    (h : (evaluate policy e).result = .ok value)
    : value.constant?.bind Constant.int? = e.exactValue?.map Int64.ofInt := by
  induction h using valueInduction with
  | literal constant => cases constant <;> simp [TypedValue.known, Constant.int?, exactValue?]
  | var name type category => simp [TypedValue.unknown, exactValue?]
  | apply op left right a b value _ _ _ folded first second =>
      cases op with
      | plus =>
          rw [Operator.int?_of_foldIntegers folded, first, second, exactValue?]
          cases left.exactValue? <;> cases right.exactValue? <;> simp
      | minus =>
          rw [Operator.int?_of_foldIntegers folded, first, second, exactValue?]
          cases left.exactValue? <;> cases right.exactValue? <;> simp
      | assignment =>
          cases folded
          rw [first, exactValue?]
      | arrow | functionCall => contradiction

/-- An integer of 64 bits is congruent to exactly one of the integers that wrap around to it. -/
theorem ofInt_eq_iff_modEq {total : Int} {n : Int64}
    : Int64.ofInt total = n ↔ n.toInt ≡ total [ZMOD 2 ^ 64] := by
  rw [Int64.ofInt_eq_iff_bmod_eq_toInt]
  constructor
  · intro same
    rw [← same]
    exact Int.bmod_emod
  · intro congruent
    calc total.bmod (2 ^ 64)
        = (total % 2 ^ 64).bmod (2 ^ 64) := (Int.emod_bmod total (2 ^ 64)).symm
      _ = (n.toInt % 2 ^ 64).bmod (2 ^ 64) := by rw [congruent]
      _ = n.toInt.bmod (2 ^ 64) := Int.emod_bmod n.toInt (2 ^ 64)
      _ = n.toInt := n.toInt_bmod

-----------------------------------------------------------------------------------------
-- Strings
-----------------------------------------------------------------------------------------

/-- The tree is a literal of this text, or an assignment whose value is such a tree. -/
inductive HandsOn (text : String) : Expr → Prop where
  | literal : HandsOn text (.literal (.str text))
  | assignment {value : Expr} (target : Expr)
    : HandsOn text value → HandsOn text (.apply .assignment [value, target])

/-- A string only comes from a literal, through assignments. -/
theorem str_iff_of_evaluate {policy : Policy} {e : Expr} {value : TypedValue}
    (h : (evaluate policy e).result = .ok value) (text : String)
    : value.constant? = some (.str text) ↔ HandsOn text e := by
  induction h using valueInduction with
  | literal constant =>
      constructor
      · intro found
        cases found
        exact .literal
      · intro handed
        cases handed
        rfl
  | var name type category => exact ⟨nofun, nofun⟩
  | apply op left right a b value _ _ _ folded first _ =>
      cases op with
      | plus | minus =>
          exact ⟨fun found => (Operator.ne_str_of_foldIntegers folded text found).elim, nofun⟩
      | assignment =>
          cases folded
          rw [first]
          constructor
          · intro handed
            exact .assignment right handed
          · intro handed
            cases handed with
            | assignment _ handed => exact handed
      | arrow | functionCall => contradiction

-----------------------------------------------------------------------------------------
-- Values and trees
-----------------------------------------------------------------------------------------

/-- What it means for a tree to have a value. The value is known exactly when no variable is reached
through the operands of arithmetic and the values of assignments. It is an integer exactly when the
tree has an exact value, and then it is the one integer of 64 bits that is congruent to it. It is a
string exactly when the tree is a literal of this string or hands it on through assignments.
-/
theorem evaluate_exact_meaning (policy : Policy) (e : Expr) (value : TypedValue)
    (h : (evaluate policy e).result = .ok value)
    : (value.isKnown = true ↔ ¬∃ name type path, e.at? consulted path = some (.var name type))
      ∧ (∀ n,
          value.constant? = some (.int n)
          ↔ ∃ total,
              e.exactValue? = some total
              ∧ ∀ m : Int64, m.toInt ≡ total [ZMOD 2 ^ 64] ↔ m = n)
      ∧ ∀ text, value.constant? = some (.str text) ↔ HandsOn text e := by
  refine ⟨isKnown_iff_of_evaluate h, fun n => ?_, str_iff_of_evaluate h⟩
  have single : ∀ total,
      (∀ m : Int64, m.toInt ≡ total [ZMOD 2 ^ 64] ↔ m = n) ↔ Int64.ofInt total = n := by
    intro total
    simp only [← ofInt_eq_iff_modEq]
    exact ⟨fun only => (only n).mpr rfl, fun same m => same ▸ eq_comm⟩
  have integer : value.constant? = some (.int n) ↔ value.constant?.bind Constant.int? = some n := by
    simp [Option.bind_eq_some_iff, Constant.int?_eq_some_iff]
  simp only [single]
  rw [integer, int?_of_evaluate h, Option.map_eq_some_iff]

/-- A sum passes the largest integer twice on its way, and its last operand assigns to a variable. Its
value is known even so. A string passes through two assignments.
-/
theorem evaluate_exact_meaning_of_two_assignments
    : ((evaluate .strict
            (.apply .plus
              [.apply .minus [int 9223372036854775807, int (-1)],
                assign (.var "y" none) (int 9223372036854775807)])).result
          = .ok (.known (.int (-1)))
        ∧ (¬∃ name type path,
            at? consulted
                (.apply .plus
                  [.apply .minus [int 9223372036854775807, int (-1)],
                    assign (.var "y" none) (int 9223372036854775807)])
                path
              = some (.var name type))
        ∧ ∃ total,
            exactValue?
                (.apply .plus
                  [.apply .minus [int 9223372036854775807, int (-1)],
                    assign (.var "y" none) (int 9223372036854775807)])
              = some total
            ∧ ∀ m : Int64, m.toInt ≡ total [ZMOD 2 ^ 64] ↔ m = -1)
      ∧ (evaluate .lenient (assign (int 0) (assign (.var "t" none) (str "s")))).result
        = .ok (.known (.str "s"))
      ∧ HandsOn "s" (assign (int 0) (assign (.var "t" none) (str "s"))) := by
  have sum := evaluate_exact_meaning .strict
    (.apply .plus
      [.apply .minus [int 9223372036854775807, int (-1)],
        assign (.var "y" none) (int 9223372036854775807)])
    (.known (.int (-1))) rfl
  have text := evaluate_exact_meaning .lenient
    (assign (int 0) (assign (.var "t" none) (str "s"))) (.known (.str "s")) rfl
  exact ⟨⟨rfl, sum.1.mp rfl, (sum.2.1 (-1)).mp rfl⟩, rfl, (text.2.2 "s").mp rfl⟩

end Expr

end VmToolchain
