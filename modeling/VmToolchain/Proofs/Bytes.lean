import Mathlib.Algebra.Group.Int.Defs
import Mathlib.Algebra.Group.Nat.Defs
import Mathlib.Data.List.Induction
import VmToolchain.Bytes

/-! Big-endian numbers have one layout of each width, and a cursor takes bytes from the front of
what is left: nothing is lost, repeated or passed over.
-/

namespace VmToolchain

-----------------------------------------------------------------------------------------
-- Numbers and their bytes
-----------------------------------------------------------------------------------------

@[simp]
theorem length_bigEndian (width value : Nat) : (bigEndian width value).length = width := by
  induction width generalizing value with
  | zero => rfl
  | succ width ih => simp [bigEndian, ih]

theorem ofBigEndian_concat (bytes : List UInt8) (byte : UInt8)
    : ofBigEndian (bytes ++ [byte]) = 256 * ofBigEndian bytes + byte.toNat := by
  simp [ofBigEndian]

/-- The number of so many bytes is below the power that they can count to, by induction from the
last byte.
-/
theorem ofBigEndian_lt (bytes : List UInt8) : ofBigEndian bytes < 256 ^ bytes.length := by
  induction bytes using List.reverseRecOn with
  | nil => simp [ofBigEndian]
  | append_singleton bytes byte ih =>
      have bound := byte.toNat_lt
      rw [ofBigEndian_concat, List.length_append, List.length_singleton, Nat.pow_succ]
      omega

/-- The bytes of a number that fits their width read back as the number, by induction on the
width.
-/
theorem ofBigEndian_bigEndian {width value : Nat} (fits : value < 256 ^ width)
    : ofBigEndian (bigEndian width value) = value := by
  induction width generalizing value with
  | zero =>
      have zero : value = 0 := by simpa using fits
      simp [zero, bigEndian, ofBigEndian]
  | succ width ih =>
      have quotient : value / 256 < 256 ^ width := by
        rw [Nat.pow_succ] at fits
        exact Nat.div_lt_of_lt_mul (by rwa [Nat.mul_comm])
      have byte : (value % 256).toUInt8.toNat = value % 256 :=
        UInt8.toNat_ofNat_of_lt' (Nat.mod_lt value (by decide))
      rw [bigEndian, ofBigEndian_concat, ih quotient, byte]
      exact Nat.div_add_mod value 256

/-- Any bytes are the layout of their number at their width, by induction from the last byte. -/
theorem bigEndian_ofBigEndian (bytes : List UInt8)
    : bigEndian bytes.length (ofBigEndian bytes) = bytes := by
  induction bytes using List.reverseRecOn with
  | nil => rfl
  | append_singleton bytes byte ih =>
      have bound := byte.toNat_lt
      have quotient : (256 * ofBigEndian bytes + byte.toNat) / 256 = ofBigEndian bytes := by omega
      have remainder : (256 * ofBigEndian bytes + byte.toNat) % 256 = byte.toNat := by omega
      rw [ofBigEndian_concat, List.length_append, List.length_singleton, bigEndian, quotient,
        remainder, ih]
      simp

/-- Small numbers of 32 bits are not negative. -/
theorem signed32_of_lt {value : Nat} (h : value < 2 ^ 31) : signed32 value = value := by
  rw [signed32]
  split
  · rfl
  · omega

/-- A number of 32 bits that is not negative is small. -/
theorem lt_of_signed32_nonneg {value : Nat} (bound : value < 2 ^ 32) (h : 0 ≤ signed32 value)
    : value < 2 ^ 31 := by
  rw [signed32] at h
  split at h
  · assumption
  · omega

/-- The number that the bits of an integer spell is read as the integer. -/
theorem signed32_toNat (value : Int32) : signed32 value.toUInt32.toNat = value.toInt := by
  have sign := value.toBitVec.toInt_eq_toNat_cond
  have bound := value.toBitVec.isLt
  rw [Int32.toInt_toBitVec] at sign
  change signed32 value.toBitVec.toNat = value.toInt
  rw [signed32, sign]
  split <;> split <;> omega

-----------------------------------------------------------------------------------------
-- Words in two's complement
-----------------------------------------------------------------------------------------

/-- The bytes of an integer in a word of this width, in two's complement and the most significant
first. Each byte is a digit to the base 256, and digits beyond the width are left out.
-/
def wordBytes (width : Nat) (value : Int) : List UInt8 :=
  ((List.range width).map (fun place => (value / 256 ^ place % 256).toNat.toUInt8)).reverse

theorem wordBytes_succ (width : Nat) (value : Int)
    : wordBytes (width + 1) value
      = wordBytes width (value / 256) ++ [(value % 256).toNat.toUInt8] := by
  have shifted (place : Nat) : value / 256 ^ (place + 1) = value / 256 / 256 ^ place := by
    rw [pow_succ', Int.ediv_ediv_of_nonneg (by decide)]
  simp [wordBytes, List.range_succ_eq_map, Function.comp_def, shifted]

/-- A number is laid out as the word of any integer from which it differs by a multiple of what the
width can count to, by induction on the width.
-/
theorem bigEndian_eq_wordBytes {width value : Nat} {number : Int}
    (same : (256 : Int) ^ width ∣ value - number)
    : bigEndian width value = wordBytes width number := by
  induction width generalizing value number with
  | zero => rfl
  | succ width ih =>
      obtain ⟨turns, apart⟩ := same
      have apart : (value : Int) = number + 256 * (256 ^ width * turns) := by
        rw [pow_succ'] at apart
        rw [← Int.mul_assoc, ← apart]
        omega
      have quotient : (256 : Int) ^ width ∣ (value / 256 : Nat) - number / 256 :=
        ⟨turns, by omega⟩
      have remainder : value % 256 = (number % 256).toNat := by omega
      rw [bigEndian, wordBytes_succ, ih quotient, remainder]

theorem bigEndian_natCast (width value : Nat) : bigEndian width value = wordBytes width value :=
  bigEndian_eq_wordBytes (by simp)

/-- The number that the bits of a word spell is laid out as the integer that they stand for. -/
theorem bigEndian_toNat {width : Nat} (word : BitVec (8 * width))
    : bigEndian width word.toNat = wordBytes width word.toInt := by
  apply bigEndian_eq_wordBytes
  have power : (256 : Int) ^ width = ((2 ^ (8 * width) : Nat) : Int) := by
    rw [pow_mul, Int.natCast_pow]
    rfl
  rw [BitVec.toInt_eq_toNat_cond, power]
  split
  · simp
  · exact ⟨1, by omega⟩

-----------------------------------------------------------------------------------------
-- Taking bytes from a cursor
-----------------------------------------------------------------------------------------

namespace Cursor

/-- Taking succeeds exactly when the rest starts with that many bytes; these are what is taken, and
the offset moves behind them.
-/
theorem take_eq_ok_iff {cursor next : Cursor} {count : Nat} {taken : List UInt8}
    : cursor.take count = .ok (taken, next)
      ↔ taken.length = count
        ∧ cursor.rest = taken ++ next.rest
        ∧ next.offset = cursor.offset + count := by
  constructor
  · intro h
    simp only [take] at h
    split at h
    · next enough =>
        cases h
        exact ⟨enough, (List.take_append_drop count cursor.rest).symm, rfl⟩
    · contradiction
  · rintro ⟨rfl, whole, moved⟩
    obtain ⟨offset, rest⟩ := next
    dsimp only at whole moved
    simp only [take, whole, List.take_left', List.drop_left', if_true, moved]

/-- Taking fails exactly when fewer bytes are left, and the shortfall tells how many. -/
theorem take_eq_error_iff {cursor : Cursor} {count : Nat} {shortfall : Shortfall}
    : cursor.take count = .error shortfall
      ↔ cursor.rest.length < count ∧ shortfall = ⟨cursor.offset, count, cursor.rest.length⟩ := by
  have enough : (cursor.rest.take count).length = count ↔ count ≤ cursor.rest.length := by
    rw [List.length_take]
    omega
  simp only [take, enough]
  split
  · next fits => simp [Nat.not_lt.mpr fits]
  · next short => simp [Nat.not_le.mp short, eq_comm]

/-- Bytes at the front of the rest can be taken. -/
theorem take_append (offset : Nat) (taken rest : List UInt8)
    : take ⟨offset, taken ++ rest⟩ taken.length = .ok (taken, ⟨offset + taken.length, rest⟩) :=
  take_eq_ok_iff.mpr ⟨rfl, rfl, rfl⟩

end Cursor

end VmToolchain
