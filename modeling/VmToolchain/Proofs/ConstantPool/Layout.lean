import VmToolchain.ConstantPool.Builder
import VmToolchain.Proofs.Bytes
import VmToolchain.Proofs.Results

/-! The layout of a constant pool. Constants are read back from where they are laid out, and the
size that is computed for a pool is the size of its payload, so that a pool whose payload is not too
large is pushed as it is.
-/

namespace VmToolchain

-----------------------------------------------------------------------------------------
-- One constant
-----------------------------------------------------------------------------------------

namespace Constant

/-- The length of a string, counted in bytes, is a number of 32 bits. -/
def Fits : Constant → Prop
  | .int _ => True
  | .str value => value.toByteArray.size < 2 ^ 32

theorem length_encode (constant : Constant) : constant.encode.length = constant.encodedSize := by
  cases constant with
  | int value => simp [encode, encodedSize]
  | str value =>
      simp [encode, encodedSize]
      omega

theorem encodedSize_pos (constant : Constant) : 0 < constant.encodedSize := by
  cases constant <;> simp only [encodedSize] <;> omega

theorem fits_of_encodedSize_le {constant : Constant} (h : constant.encodedSize ≤ maxPayload)
    : constant.Fits := by
  cases constant with
  | int value => trivial
  | str value =>
      simp only [encodedSize, maxPayload] at h
      simp only [Fits]
      omega

theorem fromUTF8?_toByteArray (value : String)
    : String.fromUTF8? value.toByteArray.data.toList.toByteArray = some value := by
  have same : value.toByteArray.data.toList.toByteArray = value.toByteArray :=
    ByteArray.ext (by simp)
  rw [same, String.fromUTF8?, dif_pos value.isValidUTF8]
  rfl

/-- A constant is read from the front of its layout, and the cursor stops right behind it. -/
theorem read_encode {constant : Constant} (fits : constant.Fits) (offset : Nat)
    (rest : List UInt8)
    : read ⟨offset, constant.encode ++ rest⟩
      = .ok (constant, ⟨offset + constant.encodedSize, rest⟩) := by
  cases constant with
  | int value =>
      have number : ofBigEndian (bigEndian 8 value.toUInt64.toNat) = value.toUInt64.toNat :=
        ofBigEndian_bigEndian value.toUInt64.toNat_lt
      have tag := Cursor.take_append offset [intTag] (bigEndian 8 value.toUInt64.toNat ++ rest)
      refine bind_eq_ok.mpr ⟨_, mapError_eq_ok.mpr tag, ?_⟩
      dsimp only
      -- Behind the tag of integers come eight bytes.
      rw [if_pos (by decide)]
      have bytes : Cursor.take ⟨offset + 1, bigEndian 8 value.toUInt64.toNat ++ rest⟩ 8
          = .ok (bigEndian 8 value.toUInt64.toNat, ⟨offset + 1 + 8, rest⟩) :=
        Cursor.take_eq_ok_iff.mpr ⟨length_bigEndian 8 _, rfl, rfl⟩
      refine bind_eq_ok.mpr ⟨_, mapError_eq_ok.mpr bytes, ?_⟩
      dsimp only
      rw [number]
      simp [encodedSize, pure, Except.pure]
  | str value =>
      have number : ofBigEndian (bigEndian 4 value.toByteArray.size) = value.toByteArray.size :=
        ofBigEndian_bigEndian fits
      have tag := Cursor.take_append offset [strTag]
        (bigEndian 4 value.toByteArray.size ++ value.toByteArray.data.toList ++ rest)
      refine bind_eq_ok.mpr ⟨_, mapError_eq_ok.mpr tag, ?_⟩
      dsimp only
      -- Behind the tag of strings comes a length, and then as many bytes of text.
      rw [if_neg (by decide), if_pos (by decide), List.append_assoc]
      have length : Cursor.take ⟨offset + 1,
            bigEndian 4 value.toByteArray.size ++ (value.toByteArray.data.toList ++ rest)⟩ 4
          = .ok (bigEndian 4 value.toByteArray.size,
              ⟨offset + 1 + 4, value.toByteArray.data.toList ++ rest⟩) :=
        Cursor.take_eq_ok_iff.mpr ⟨length_bigEndian 4 _, rfl, rfl⟩
      refine bind_eq_ok.mpr ⟨_, mapError_eq_ok.mpr length, ?_⟩
      dsimp only
      rw [number]
      have text : Cursor.take ⟨offset + 1 + 4, value.toByteArray.data.toList ++ rest⟩
            value.toByteArray.size
          = .ok (value.toByteArray.data.toList, ⟨offset + 1 + 4 + value.toByteArray.size, rest⟩) :=
        Cursor.take_eq_ok_iff.mpr ⟨rfl, rfl, rfl⟩
      refine bind_eq_ok.mpr ⟨_, mapError_eq_ok.mpr text, ?_⟩
      dsimp only
      rw [fromUTF8?_toByteArray, encodedSize]
      simp [pure, Except.pure]
      omega

end Constant

-----------------------------------------------------------------------------------------
-- The whole pool
-----------------------------------------------------------------------------------------

namespace ConstantPool

/-- Constants laid out one after the other are read in order behind those already read, by induction
on the constants.
-/
theorem readConstants_encode {constants : List Constant}
    (fits : ∀ constant ∈ constants, constant.Fits) (done : Array Constant) (offset : Nat)
    (rest : List UInt8)
    : ∃ next,
        readConstants constants.length done
            ⟨offset, constants.flatMap Constant.encode ++ rest⟩
          = .ok (done ++ constants.toArray, next)
        ∧ next.rest = rest := by
  induction constants generalizing done offset with
  | nil => exact ⟨⟨offset, rest⟩, by simp [readConstants], rfl⟩
  | cons constant constants ih =>
      have first := Constant.read_encode (fits constant (by simp)) offset
        (constants.flatMap Constant.encode ++ rest)
      obtain ⟨next, read, behind⟩ := ih (fun c hc => fits c (List.mem_cons_of_mem _ hc))
        (done.push constant) (offset + constant.encodedSize)
      refine ⟨next, ?_, behind⟩
      simp only [List.length_cons, List.flatMap_cons, List.append_assoc, readConstants, first, read]
      simp

/-- A pool is read back from its layout when the number of its constants and the lengths of its
strings are numbers of 32 bits.
-/
theorem decode_encode {constants : List Constant} (count : constants.length < 2 ^ 32)
    (fits : ∀ constant ∈ constants, constant.Fits)
    : decode (encode constants) = .ok ⟨constants.toArray⟩ := by
  have number : ofBigEndian (bigEndian 4 constants.length) = constants.length :=
    ofBigEndian_bigEndian count
  have first : (Cursor.start (encode constants)).take 4
      = .ok (bigEndian 4 constants.length, ⟨0 + 4, constants.flatMap Constant.encode⟩) :=
    Cursor.take_eq_ok_iff.mpr ⟨length_bigEndian 4 _, rfl, rfl⟩
  obtain ⟨next, read, behind⟩ := readConstants_encode fits #[] (0 + 4) []
  rw [List.append_nil] at read
  refine bind_eq_ok.mpr ⟨_, mapError_eq_ok.mpr first, ?_⟩
  dsimp only
  rw [number]
  refine bind_eq_ok.mpr ⟨_, read, ?_⟩
  simp [behind, pure, Except.pure]

theorem encodedSize_cons (constant : Constant) (constants : List Constant)
    : encodedSize (constant :: constants) = constant.encodedSize + encodedSize constants := rfl

theorem length_encode (constants : List Constant)
    : (encode constants).length = encodedSize constants := by
  induction constants with
  | nil => rfl
  | cons constant constants ih =>
      rw [encodedSize_cons, ← ih, ← constant.length_encode]
      simp only [encode, List.flatMap_cons, List.length_append, length_bigEndian]
      omega

theorem encodedSize_le_of_mem {constants : List Constant} {constant : Constant}
    (member : constant ∈ constants)
    : constant.encodedSize ≤ encodedSize constants := by
  induction constants with
  | nil => contradiction
  | cons first constants ih =>
      rw [encodedSize_cons]
      rcases List.mem_cons.mp member with rfl | later
      · exact Nat.le_add_right _ _
      · exact Nat.le_add_left_of_le (ih later)

theorem length_le_encodedSize (constants : List Constant)
    : constants.length ≤ encodedSize constants := by
  induction constants with
  | nil => exact Nat.zero_le _
  | cons constant constants ih =>
      have positive := constant.encodedSize_pos
      rw [encodedSize_cons, List.length_cons]
      omega

end ConstantPool

-----------------------------------------------------------------------------------------
-- Pools as payloads
-----------------------------------------------------------------------------------------

namespace PoolBuilder

theorem length_encode (builder : PoolBuilder) : builder.encode.length = builder.encodedSize :=
  ConstantPool.length_encode builder.constants

theorem size_le_maxConstants {pool : PoolBuilder} (fits : pool.encode.length ≤ maxPayload)
    : pool.size ≤ maxConstants := by
  have few := ConstantPool.length_le_encodedSize pool.constants
  rw [length_encode, encodedSize, maxPayload] at fits
  rw [size, maxConstants]
  omega

/-- Putting a pool that can be a payload into a module is pushing it. -/
theorem writeInto_of_valid {pool : PoolBuilder} (valid : pool.validate = .ok ())
    : pool.writeInto = (ModuleBuilder.push .constantPool pool.encode).adapt .moduleFile := by
  rw [writeInto, valid]
  rfl

/-- A pool that cannot be a payload is refused before the module is looked at. -/
theorem runOn_writeInto_of_invalid {pool : PoolBuilder} {error : EmitError}
    (invalid : pool.validate = .error error) (builder : ModuleBuilder)
    : pool.writeInto.runOn builder = (.error error, builder) := by
  rw [writeInto, invalid]
  rfl

theorem validate_of_fits {pool : PoolBuilder} (fits : pool.encode.length ≤ maxPayload)
    : pool.validate = .ok () := by
  have few := Nat.not_lt.mpr (size_le_maxConstants fits)
  have small := Nat.not_lt.mpr fits
  rw [length_encode] at small
  rw [validate, if_neg few, if_neg small]

end PoolBuilder

end VmToolchain
