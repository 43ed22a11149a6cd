import VmToolchain.Expr.Json
import VmToolchain.Proofs.Json.Documents

/-! Integers as JSON numbers. The digits of an integer are a number, and the integer is read back
from them.
-/

namespace VmToolchain

open Json Lexer

theorem isDigit_of_mem_toDigits {n : Nat} {c : Char} (member : c ∈ Nat.toDigits 10 n)
    : c.isDigit = true :=
  Nat.isDigit_of_mem_toDigits (by decide) (by decide) member

theorem not_mem_toDigits {n : Nat} {c : Char} (other : c.isDigit = false)
    : c ∉ Nat.toDigits 10 n := by
  intro member
  rw [isDigit_of_mem_toDigits member] at other
  contradiction

/-- The digits of a positive number start with none that is zero. -/
theorem toDigits_eq_cons {n : Nat} (positive : 0 < n)
    : ∃ first rest, Nat.toDigits 10 n = first :: rest ∧ first ≠ '0' := by
  induction n using Nat.base_induction 10 (by decide) with
  | single n small =>
      refine ⟨n.digitChar, [], Nat.toDigits_of_lt_base small, ?_⟩
      simpa using Nat.ne_of_gt positive
  | digit n last small leading ih =>
      obtain ⟨first, rest, digits, nonzero⟩ := ih leading
      refine ⟨first, rest ++ Nat.toDigits 10 last, ?_, nonzero⟩
      rw [← Nat.toDigits_append_toDigits (by decide) leading small, digits, List.cons_append]

theorem toList_repr_ofNat (n : Nat) : (Int.ofNat n).repr.toList = Nat.toDigits 10 n :=
  Nat.toList_repr

theorem toList_repr_negSucc (n : Nat)
    : (Int.negSucc n).repr.toList = '-' :: Nat.toDigits 10 (n + 1) := by
  simp [Int.repr]

theorem isFraction_of_digits {chars : List Char} (digits : ∀ c ∈ chars, c.isDigit = true)
    : isFraction (chars.dropWhile Char.isDigit) = true := by
  induction chars with
  | nil => rfl
  | cons c rest ih =>
      obtain ⟨digit, digits⟩ := List.forall_mem_cons.mp digits
      rw [List.dropWhile_cons_of_pos digit]
      exact ih digits

theorem isNumber_toDigits (n : Nat) : isNumber (Nat.toDigits 10 n) = true := by
  rcases Nat.eq_zero_or_pos n with zero | positive
  · rw [zero, Nat.toDigits_zero]
    rfl
  · have all : ∀ c ∈ Nat.toDigits 10 n, c.isDigit = true := fun c => isDigit_of_mem_toDigits
    obtain ⟨first, rest, digits, nonzero⟩ := toDigits_eq_cons positive
    rw [digits] at all ⊢
    obtain ⟨digit, all⟩ := List.forall_mem_cons.mp all
    have unsigned : first ≠ '-' := by
      intro same
      rw [same] at digit
      contradiction
    simp [isNumber, unsigned, digit, isFraction_of_digits all]

/-- A sign in front of a number makes a number. -/
theorem isNumber_neg {chars : List Char} (unsigned : '-' ∉ chars)
    : isNumber ('-' :: chars) = isNumber chars := by
  cases chars with
  | nil => rfl
  | cons first rest =>
      have other : first ≠ '-' := (List.ne_of_not_mem_cons unsigned).symm
      simp [isNumber, other]

theorem all_isWordChar_toDigits (n : Nat) : (Nat.toDigits 10 n).all isWordChar = true := by
  rw [List.all_eq_true]
  intro c member
  have alphanum : c.isAlphanum = true :=
    Bool.or_eq_true_iff.mpr (.inr (isDigit_of_mem_toDigits member))
  simp [isWordChar, alphanum]

theorem isSpelled_ofInt (value : Int) : (Json.ofInt value).IsSpelled := by
  cases value with
  | ofNat n =>
      refine .number ?_ ?_ <;> rw [toList_repr_ofNat]
      · exact isNumber_toDigits n
      · exact all_isWordChar_toDigits n
  | negSucc n =>
      refine .number ?_ ?_ <;> rw [toList_repr_negSucc]
      · rw [isNumber_neg (not_mem_toDigits (by decide))]
        exact isNumber_toDigits (n + 1)
      · rw [List.all_cons, all_isWordChar_toDigits]
        rfl

theorem foldl_toDigits (n : Nat)
    : (Nat.toDigits 10 n).foldl (fun n c => 10 * n + (c.toNat - 48)) 0 = n :=
  Nat.ofDigitChars_ten_toDigits

theorem digits_toDigits (n : Nat)
    : ((Nat.toDigits 10 n).isEmpty || !(Nat.toDigits 10 n).all Char.isDigit) = false := by
  have all : (Nat.toDigits 10 n).all Char.isDigit = true :=
    List.all_eq_true.mpr (fun c => isDigit_of_mem_toDigits)
  simp [all, Nat.toDigits_ne_nil]

/-- An integer is read back from its digits. -/
theorem integerOf?_repr (value : Int64) : Constant.integerOf? value.toInt.repr = some value := by
  have least := value.le_toInt
  have most := value.toInt_lt
  have same := value.ofInt_toInt
  cases signed : value.toInt with
  | ofNat n =>
      rw [signed] at most same
      have small : n < 0x8000000000000000 := Int.ofNat_lt.mp most
      rw [Constant.integerOf?, toList_repr_ofNat]
      split
      case h_1 _ digits negative =>
        have sign : '-' ∈ Nat.toDigits 10 n := by
          rw [negative]
          exact List.mem_cons_self
        exact absurd sign (not_mem_toDigits rfl)
      case h_2 =>
        simp only [digits_toDigits, foldl_toDigits, Bool.false_eq_true, if_false,
          Option.bind_eq_bind, Option.bind_some]
        rw [if_pos small]
        exact congrArg some same
  | negSucc n =>
      rw [signed] at least same
      have small : n + 1 ≤ 0x8000000000000000 := by omega
      rw [Constant.integerOf?, toList_repr_negSucc]
      simp only [digits_toDigits, foldl_toDigits, Bool.false_eq_true, if_false, Option.bind_eq_bind,
        Option.bind_some]
      rw [if_pos ⟨Nat.succ_pos n, small⟩]
      exact congrArg some same

end VmToolchain
