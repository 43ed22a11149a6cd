import VmToolchain.Proofs.ConstantPool.Interning
import VmToolchain.Proofs.ConstantPool.Layout

/-! The reader of pools accepts exactly the documented layout. The layout is said here on its own, in
digits and characters, and not through the writer, which is shown to follow it.
-/

namespace VmToolchain

-----------------------------------------------------------------------------------------
-- The documented layout
-----------------------------------------------------------------------------------------

/-- Tag 0 and the value as a word of 64 bits, or tag 1, the length of the text as a word of 32 bits and
the text in UTF-8, character by character.
-/
def Constant.layout : Constant → List UInt8
  | .int value => 0 :: wordBytes 8 value.toInt
  | .str value =>
      1 :: wordBytes 4 value.utf8ByteSize ++ value.toList.flatMap String.utf8EncodeChar

/-- The number of constants as a word of 32 bits, then the constants in order. -/
def ConstantPool.layout (constants : List Constant) : List UInt8 :=
  wordBytes 4 constants.length ++ constants.flatMap Constant.layout

theorem Constant.encode_eq_layout (constant : Constant) : constant.encode = constant.layout := by
  cases constant with
  | int value =>
      rw [encode, layout, ← Int64.toInt_toBitVec, ← @bigEndian_toNat 8 value.toBitVec]
      rfl
  | str value =>
      have text : value.toByteArray.data.toList = value.toList.flatMap String.utf8EncodeChar := by
        rw [← String.utf8Encode_toList, List.utf8Encode]
        simp
      rw [encode, layout, bigEndian_natCast, text]
      rfl

theorem ConstantPool.encode_eq_layout (constants : List Constant)
    : encode constants = layout constants := by
  have entries : Constant.encode = Constant.layout := funext Constant.encode_eq_layout
  rw [encode, layout, bigEndian_natCast, entries]

-----------------------------------------------------------------------------------------
-- What is read is laid out
-----------------------------------------------------------------------------------------

namespace Constant

/-- Eight bytes behind the tag of integers are the layout of the integer that they spell. -/
theorem encode_int_of_bytes {bytes : List UInt8} (size : bytes.length = 8)
    : encode (.int (ofBigEndian bytes).toUInt64.toInt64) = intTag :: bytes := by
  have bound := ofBigEndian_lt bytes
  have same := bigEndian_ofBigEndian bytes
  rw [size] at bound same
  have number : (ofBigEndian bytes).toUInt64.toNat = ofBigEndian bytes :=
    UInt64.toNat_ofNat_of_lt' bound
  rw [encode, UInt64.toUInt64_toInt64, number, same]

theorem toByteArray_of_fromUTF8? {bytes : List UInt8} {value : String}
    (read : String.fromUTF8? bytes.toByteArray = some value)
    : value.toByteArray.data.toList = bytes := by
  rw [String.fromUTF8?] at read
  split at read
  · cases read
    simp [String.fromUTF8]
  · contradiction

/-- A length of four bytes and as many bytes of text behind the tag of strings are the layout of the
string that they spell.
-/
theorem encode_str_of_bytes {length bytes : List UInt8} {value : String}
    (size : length.length = 4) (whole : bytes.length = ofBigEndian length)
    (read : String.fromUTF8? bytes.toByteArray = some value)
    : Fits (.str value) ∧ encode (.str value) = strTag :: length ++ bytes := by
  have text := toByteArray_of_fromUTF8? read
  have count : value.toByteArray.size = ofBigEndian length := by
    rw [← whole, ← text]
    rfl
  have bound := ofBigEndian_lt length
  have same := bigEndian_ofBigEndian length
  rw [size] at bound same
  refine ⟨?_, ?_⟩
  · rw [Fits, count]
    exact bound
  · rw [encode, count, same, text]

/-- What is read as a constant is its layout, with what is left behind it. -/
theorem read_eq_ok {cursor next : Cursor} {constant : Constant}
    (h : read cursor = .ok (constant, next))
    : constant.Fits ∧ cursor.rest = constant.encode ++ next.rest := by
  obtain ⟨⟨tag, body⟩, first, h⟩ := bind_eq_ok.mp h
  obtain ⟨single, whole, _⟩ := Cursor.take_eq_ok_iff.mp (mapError_eq_ok.mp first)
  obtain ⟨byte, rfl⟩ := List.length_eq_one_iff.mp single
  have tag : (ofBigEndian [byte]).toUInt8 = byte := by simp [ofBigEndian]
  dsimp only at h
  rw [tag] at h
  -- Each tag fixes the form of what follows; any other tag is an error.
  split at h
  · next isInt =>
      subst isInt
      obtain ⟨⟨bytes, behind⟩, value, h⟩ := bind_eq_ok.mp h
      obtain ⟨size, tail, _⟩ := Cursor.take_eq_ok_iff.mp (mapError_eq_ok.mp value)
      cases h
      exact ⟨trivial, by rw [encode_int_of_bytes size, whole, tail]; rfl⟩
  split at h
  · next isStr =>
      subst isStr
      obtain ⟨⟨length, text⟩, number, h⟩ := bind_eq_ok.mp h
      obtain ⟨⟨bytes, behind⟩, value, h⟩ := bind_eq_ok.mp h
      obtain ⟨size, middle, _⟩ := Cursor.take_eq_ok_iff.mp (mapError_eq_ok.mp number)
      obtain ⟨count, tail, _⟩ := Cursor.take_eq_ok_iff.mp (mapError_eq_ok.mp value)
      dsimp only at h
      split at h
      · next valid =>
          cases h
          obtain ⟨fits, laid⟩ := encode_str_of_bytes size count valid
          exact ⟨fits, by rw [laid, whole, middle, tail]; simp⟩
      · contradiction
  · contradiction

end Constant

namespace ConstantPool

/-- What is read as so many constants is their layout, with what is left behind it, by induction on
their number.
-/
theorem readConstants_eq_ok {count : Nat} {done all : Array Constant} {cursor next : Cursor}
    (h : readConstants count done cursor = .ok (all, next))
    : ∃ constants : List Constant,
        constants.length = count
        ∧ all = done ++ constants.toArray
        ∧ (∀ constant ∈ constants, constant.Fits)
        ∧ cursor.rest = constants.flatMap Constant.encode ++ next.rest := by
  induction count generalizing done cursor with
  | zero =>
      cases h
      exact ⟨[], rfl, by simp, by simp, rfl⟩
  | succ count ih =>
      rw [readConstants] at h
      split at h
      · contradiction
      · next constant behind read =>
          obtain ⟨first, whole⟩ := Constant.read_eq_ok read
          obtain ⟨constants, length, rfl, fits, tail⟩ := ih h
          refine ⟨constant :: constants, by simp [length], by simp, ?_, ?_⟩
          · simpa using ⟨first, fits⟩
          · rw [whole, tail, List.flatMap_cons, List.append_assoc]

/-- The reader accepts only layouts of pools. -/
theorem eq_encode_of_decode {payload : List UInt8} {constants : List Constant}
    (h : decode payload = .ok ⟨constants.toArray⟩)
    : constants.length < 2 ^ 32
      ∧ (∀ constant ∈ constants, constant.Fits)
      ∧ payload = encode constants := by
  obtain ⟨⟨count, body⟩, first, h⟩ := bind_eq_ok.mp h
  obtain ⟨⟨all, rest⟩, read, h⟩ := bind_eq_ok.mp h
  obtain ⟨size, whole, _⟩ := Cursor.take_eq_ok_iff.mp (mapError_eq_ok.mp first)
  obtain ⟨found, length, rfl, fits, tail⟩ := readConstants_eq_ok read
  dsimp only at h
  split at h
  · next ended =>
      -- The count is the number of constants read, so it spells a number of 32 bits.
      have same : found = constants := by simpa [pure, Except.pure] using h
      subst same
      have bound := ofBigEndian_lt count
      have number := bigEndian_ofBigEndian count
      rw [size, ← length] at bound number
      refine ⟨bound, fits, ?_⟩
      rw [encode, number, ← List.append_nil (found.flatMap _), ← List.isEmpty_iff.mp ended, ← tail]
      exact whole
  · contradiction

end ConstantPool

-----------------------------------------------------------------------------------------
-- The whole reader
-----------------------------------------------------------------------------------------

/-- The reader accepts exactly the documented layout: a payload is read as some constants, repeated or
not, exactly when their number and the lengths of their texts have 32 bits and the payload is laid
out for them. Where they are distinct, it is what a pool writes to which they were added in order.
-/
theorem ConstantPool.decode_eq_ok_iff_layout (constants : List Constant)
    : (∀ payload,
        decode payload = .ok ⟨constants.toArray⟩
        ↔ constants.length < 2 ^ 32
          ∧ (∀ text, .str text ∈ constants → text.utf8ByteSize < 2 ^ 32)
          ∧ payload = layout constants)
      ∧ (constants.Nodup → (PoolBuilder.empty.internAll constants).encode = layout constants) := by
  refine ⟨?_, ?_⟩
  · intro payload
    rw [← encode_eq_layout]
    constructor
    · intro h
      obtain ⟨count, fits, same⟩ := eq_encode_of_decode h
      exact ⟨count, fun text member => fits _ member, same⟩
    · rintro ⟨count, texts, rfl⟩
      apply decode_encode count
      intro constant member
      cases constant with
      | int value => trivial
      | str text => exact texts text member
  · intro distinct
    rw [PoolBuilder.encode, PoolBuilder.internAll_constants, eraseDups_of_nodup distinct,
      encode_eq_layout]

/-- A negative integer, and a letter of two bytes. -/
theorem ConstantPool.decode_eq_ok_iff_layout_of_two
    : [Constant.int (-2), .str "é"].Nodup
      ∧ decode
          [0, 0, 0, 2, 0, 255, 255, 255, 255, 255, 255, 255, 254, 1, 0, 0, 0, 2, 195, 169]
        = .ok ⟨#[.int (-2), .str "é"]⟩
      ∧ (PoolBuilder.empty.internAll [.int (-2), .str "é"]).encode
        = [0, 0, 0, 2, 0, 255, 255, 255, 255, 255, 255, 255, 254, 1, 0, 0, 0, 2, 195, 169] := by
  have laid : layout [.int (-2), .str "é"]
      = [0, 0, 0, 2, 0, 255, 255, 255, 255, 255, 255, 255, 254, 1, 0, 0, 0, 2, 195, 169] := by
    rw [← encode_eq_layout]
    decide
  obtain ⟨accepts, written⟩ := decode_eq_ok_iff_layout [.int (-2), .str "é"]
  refine ⟨by decide, (accepts _).mpr ⟨by decide, ?_, laid.symm⟩, (written (by decide)).trans laid⟩
  intro text member
  simp only [List.mem_cons, reduceCtorEq, Constant.str.injEq, List.not_mem_nil, or_false,
    false_or] at member
  subst member
  decide

end VmToolchain
