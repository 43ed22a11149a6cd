import VmToolchain.Proofs.ConstantPool.Interning
import VmToolchain.Proofs.ConstantPool.Layout
import VmToolchain.Proofs.ModuleFile.Building

/-! Ids survive the way of a pool through a module file. Interning, the two layouts one inside the
other, and the two readers are put together here.
-/

namespace VmToolchain

namespace PoolBuilder

/-- A pool whose payload is not too large is put into any builder that holds none. -/
theorem writeInto_eq_push {pool : PoolBuilder} {builder : ModuleBuilder}
    (fits : pool.encode.length ≤ maxPayload)
    (absent : builder.contains .constantPool = false)
    : ∃ filled,
        pool.writeInto.runOn builder = (.ok (), filled)
        ∧ (ModuleBuilder.push .constantPool pool.encode).runOn builder = (.ok (), filled) := by
  have pushed := ModuleBuilder.push_eq_ok_iff.mpr ⟨fits, absent, rfl⟩
  refine ⟨_, ?_, pushed⟩
  rw [writeInto_of_valid (validate_of_fits fits), Building.runOn_adapt, pushed]
  rfl

theorem decode_encode {pool : PoolBuilder} (fits : pool.encode.length ≤ maxPayload)
    : ConstantPool.decode pool.encode = .ok ⟨pool.constants.toArray⟩ := by
  apply ConstantPool.decode_encode
  · exact Nat.lt_succ_of_le (size_le_maxConstants fits)
  · intro constant member
    rw [length_encode] at fits
    exact Constant.fits_of_encodedSize_le
      (Nat.le_trans (ConstantPool.encodedSize_le_of_mem member) fits)

/-- Ids survive the whole way. Whatever calls are made on a new pool, if its payload is not too large
and the module holds no pool yet, then it is written, the module's file is read back, and the pool
in it has the distinct constants of the calls in the order of their first use. Their number has 32
bits, and every id that a call was answered with still finds the constant of the call.
-/
theorem ids_survive_module_file (calls : List PoolCall) (builder : ModuleBuilder)
    (reachable : builder.Reachable) (absent : builder.contains .constantPool = false)
    (fits : (empty.callAll calls).2.encode.length ≤ maxPayload)
    : ∃ filled file pool,
        (empty.callAll calls).2.writeInto.runOn builder = (.ok (), filled)
        ∧ ModuleFile.decode .refuse filled.finish.encode = .ok file
        ∧ ConstantPool.ofModule file = .ok pool
        ∧ pool.constants.toList = (calls.filterMap PoolCall.constant?).eraseDups
        ∧ pool.size ≤ maxConstants
        ∧ List.Forall₂ (Answers pool.get?) calls (empty.callAll calls).1 := by
  obtain ⟨filled, written, pushed⟩ := writeInto_eq_push fits absent
  have valid := (reachable.of_push pushed).wellFormed.finish_valid
  have found := ModuleBuilder.payload?_of_push pushed
  refine ⟨filled, filled.finish, ⟨(empty.callAll calls).2.constants.toArray⟩, written,
    ModuleFile.decode_encode .refuse valid, ?_, ?_, size_le_maxConstants fits, ?_⟩
  · rw [ConstantPool.ofModule, found]
    exact decode_encode fits
  · have start : empty.constants = [].eraseDups := rfl
    exact callAll_constants start calls
  · have lookup : ConstantPool.get? ⟨(empty.callAll calls).2.constants.toArray⟩
        = ((empty.callAll calls).2.constants[·]?) :=
      funext (fun id => List.getElem?_toArray)
    rw [lookup]
    exact empty.callAll_answers calls

/-- An integer, a string, the integer again and an unknown value, into a module with a header. -/
theorem ids_survive_module_file_of_four_calls
    : ModuleBuilder.new.contains .constantPool = false
      ∧ (empty.callAll
          [.intern (.int 7), .internValue (.known (.str "a")), .intern (.int 7),
            .internValue (.unknown .integral)]).1
        = [some 0, some 1, some 0, none]
      ∧ (empty.callAll
          [.intern (.int 7), .internValue (.known (.str "a")), .intern (.int 7),
            .internValue (.unknown .integral)]).2.encode.length
        ≤ maxPayload
      ∧ ∃ filled file pool,
          (empty.callAll
              [.intern (.int 7), .internValue (.known (.str "a")), .intern (.int 7),
                .internValue (.unknown .integral)]).2.writeInto.runOn
              .new
            = (.ok (), filled)
          ∧ ModuleFile.decode .refuse filled.finish.encode = .ok file
          ∧ ConstantPool.ofModule file = .ok pool
          ∧ pool.constants.toList = [.int 7, .str "a"] := by
  have fits : (empty.callAll
        [.intern (.int 7), .internValue (.known (.str "a")), .intern (.int 7),
          .internValue (.unknown .integral)]).2.encode.length
      ≤ maxPayload := by decide
  obtain ⟨filled, file, pool, written, read, decoded, constants, _⟩ :=
    ids_survive_module_file _ .new .new rfl fits
  exact ⟨rfl, by decide, fits, filled, file, pool, written, read, decoded, constants⟩

end PoolBuilder

end VmToolchain
