import VmToolchain.Proofs.Command.FoldReport
import VmToolchain.Proofs.ConstantPool.IdSurvival
import VmToolchain.Proofs.Store

/-! The module that the fold command writes. It holds the current header and one pool, and this has the
literals of the folded tree, each once, in the order in which they are met from the root.
-/

namespace VmToolchain

-----------------------------------------------------------------------------------------
-- Literals by position
-----------------------------------------------------------------------------------------

namespace Expr

theorem literalsOfAll_eq_flatMap (es : List Expr) : literalsOfAll es = es.flatMap literals := by
  induction es with
  | nil => rfl
  | cons e rest ih => rw [literalsOfAll, ih, List.flatMap_cons]

theorem literals_eq_append (e : Expr)
    : e.literals = e.literal?.toList ++ e.children.flatMap literals := by
  cases e <;> simp [literals, literal?, children, literalsOfAll_eq_flatMap]

/-- The literals are found among the nodes in their order, whatever node they stand in. -/
theorem literals_eq_filterMap (e : Expr) : e.literals = e.preorder.filterMap literal? := by
  induction e using partInduction with
  | node e ih =>
      rw [literals_eq_append, preorder_eq_cons, List.flatMap_congr ih]
      cases found : e.literal? with
      | none => simp [found, List.filterMap_flatMap]
      | some constant => simp [found, List.filterMap_flatMap]

end Expr

-----------------------------------------------------------------------------------------
-- The module with a pool
-----------------------------------------------------------------------------------------

namespace PoolBuilder

theorem push_of_writeInto {pool : PoolBuilder} {builder filled : ModuleBuilder}
    (h : pool.writeInto.runOn builder = (.ok (), filled))
    : (ModuleBuilder.push .constantPool pool.encode).runOn builder = (.ok (), filled) := by
  cases validated : pool.validate with
  | error error =>
      rw [runOn_writeInto_of_invalid validated] at h
      cases h
  | ok =>
      rw [writeInto_of_valid validated, Building.runOn_adapt] at h
      obtain ⟨succeeded, left⟩ := Prod.mk.inj h
      exact Prod.ext (mapError_eq_ok.mp succeeded) left

/-- A new module with a pool holds the current header and the pool, and it is read back so. -/
theorem decode_of_writeInto_new {pool : PoolBuilder} {filled : ModuleBuilder}
    (h : pool.writeInto.runOn .new = (.ok (), filled))
    : ModuleFile.decode .refuse filled.finish.encode
        = .ok ⟨[⟨.fileHeader, FileHeader.current.encode⟩, ⟨.constantPool, pool.encode⟩]⟩
      ∧ ConstantPool.decode pool.encode = .ok ⟨pool.constants.toArray⟩ := by
  have pushed := push_of_writeInto h
  have valid := (ModuleBuilder.Reachable.new.of_push pushed).wellFormed.finish_valid
  obtain ⟨fits, _, rfl⟩ := ModuleBuilder.push_eq_ok_iff.mp pushed
  exact ⟨ModuleFile.decode_encode .refuse valid, decode_encode fits⟩

end PoolBuilder

-----------------------------------------------------------------------------------------
-- Runs that write
-----------------------------------------------------------------------------------------

namespace Command

variable {store after : Store} {terminal : Bool} {options : FoldOptions} {output : String}
  {e folded : Expr} {text : String}

/-- Where the constants are written, they are in the pool of a new module, and the file is there
afterwards.
-/
theorem writePool_run_eq_ok {count : Nat}
    (h : (writePool Store.access e output).run store = (.ok count, after))
    : ∃ filled,
        (poolOf e).writeInto.runOn .new = (.ok (), filled)
        ∧ store.write output filled.finish.encode = .ok after
        ∧ count = (poolOf e).size := by
  unfold writePool at h
  cases filled : (poolOf e).writeInto.runOn .new with
  | mk answer builder =>
      cases answer with
      | error error =>
          simp only [filled] at h
          cases h
      | ok =>
          cases written : store.write output builder.finish.encode with
          | error error =>
              simp [filled, Store.access, written] at h
              cases h
          | ok next =>
              simp [filled, Store.access, written] at h
              cases h
              exact ⟨builder, rfl, written, rfl⟩

/-- A command that names a file for the constants and succeeds has reported and written them. -/
theorem foldExpr_run_of_success {outcome : Outcome} (named : options.output? = some output)
    (ran : (foldExpr Store.access terminal options e).run store = (outcome, after))
    (success : outcome.status = 0)
    : ∃ folded text count,
        (foldText (startSession terminal options) e).1 = .ok (folded, text)
        ∧ (writePool Store.access folded output).run store = (.ok count, after)
        ∧ outcome
          = .success text
              (foldTrace terminal options e
                ++ "wrote " ++ output ++ " (" ++ count.repr ++ " constants)\n") := by
  cases reported : (foldText (startSession terminal options) e).1 with
  | error error =>
      rw [foldExpr_of_error reported] at ran
      cases ran
      contradiction
  | ok report =>
      obtain ⟨folded, text⟩ := report
      rw [foldExpr_of_output reported named, StateT.run_bind] at ran
      cases written : (writePool Store.access folded output).run store with
      | mk result next =>
          rw [written] at ran
          cases result with
          | error failure =>
              cases ran
              contradiction
          | ok count =>
              cases ran
              exact ⟨folded, text, count, rfl, written, rfl⟩

theorem poolOf_constants (e : Expr)
    : (poolOf e).constants = (e.preorder.filterMap Expr.literal?).eraseDups := by
  rw [poolOf, PoolBuilder.internAll_constants, Expr.literals_eq_filterMap]

theorem mem_poolOf_iff {e : Expr} {constant : Constant}
    : constant ∈ (poolOf e).constants
      ↔ ∃ path, e.at? Expr.children path = some (.literal constant) := by
  rw [poolOf_constants, List.mem_eraseDups, List.mem_filterMap, ← Expr.mem_preorder_iff]
  constructor
  · intro h
    obtain ⟨node, member, found⟩ := h
    cases node with
    | literal value =>
        cases found
        exact member
    | var _ _ | apply _ _ | call _ _ | lambda _ _ => contradiction
  · intro member
    exact ⟨.literal constant, member, rfl⟩

/-- The module that is written holds exactly the literals that folding leaves. Where a command that
names a file for them succeeds, the file is there afterwards, and it is read as a module of the
current header and a pool. The constants of the pool are the literals that stand anywhere in the
folded tree, each once and in the order in which they are first met from the root, and their number
is reported.
-/
theorem written_module_holds_residual_literals (store after : Store) (terminal : Bool)
    (options : FoldOptions) (output : String) (named : options.output? = some output) (e : Expr)
    (outcome : Outcome)
    (ran : (foldExpr Store.access terminal options e).run store = (outcome, after))
    (success : outcome.status = 0)
    : ∃ folded bytes file payload pool text trace,
        (e.fold options.policy).result = .ok folded
        ∧ store.write output bytes = .ok after
        ∧ after.read output = .ok bytes
        ∧ ModuleFile.decode .refuse bytes = .ok file
        ∧ file.chunks = [⟨.fileHeader, FileHeader.current.encode⟩, ⟨.constantPool, payload⟩]
        ∧ ConstantPool.ofModule file = .ok pool
        ∧ pool.constants.toList = (folded.preorder.filterMap Expr.literal?).eraseDups
        ∧ pool.constants.toList.Nodup
        ∧ (∀ constant,
            constant ∈ pool.constants.toList
            ↔ ∃ path, folded.at? Expr.children path = some (.literal constant))
        ∧ outcome
          = .success text
              (trace ++ "wrote " ++ output ++ " (" ++ pool.size.repr ++ " constants)\n") := by
  obtain ⟨folded, text, count, reported, wrote, shown⟩ :=
    foldExpr_run_of_success named ran success
  obtain ⟨filled, pooled, written, rfl⟩ := writePool_run_eq_ok wrote
  obtain ⟨read, decoded⟩ := PoolBuilder.decode_of_writeInto_new pooled
  refine ⟨folded, filled.finish.encode, _, (poolOf folded).encode,
    ⟨(poolOf folded).constants.toArray⟩, text, foldTrace terminal options e,
    (foldText_eq_ok_iff.mp reported).1, written, Store.read_of_write written, read, rfl, ?_, ?_,
    (poolOf folded).nodup, fun constant => mem_poolOf_iff, shown⟩
  · exact decoded
  · exact poolOf_constants folded

/-- A lambda is called with a sum, with an arrow between a string and an integer, and with the value
of the sum. The literal of the lambda comes first, and what comes again is not kept again.
-/
theorem written_module_holds_residual_literals_of_call
    : ∃ outcome after bytes file pool,
        (foldExpr Store.access false ⟨"e.json", .strict, 0, some "./out", .never⟩
            (.call (.lambda ["p"] (.str "a"))
              [.apply .plus [.int 1, .int 2], .apply .arrow [.str "a", .int 9], .int 3])).run
            (Store.startingAt ["w"])
          = (outcome, after)
        ∧ outcome.status = 0
        ∧ after.read "./out" = .ok bytes
        ∧ ModuleFile.decode .refuse bytes = .ok file
        ∧ ConstantPool.ofModule file = .ok pool
        ∧ pool.constants.toList = [.str "a", .int 3, .int 9] := by
  have success : ((foldExpr Store.access false ⟨"e.json", .strict, 0, some "./out", .never⟩
        (.call (.lambda ["p"] (.str "a"))
          [.apply .plus [.int 1, .int 2], .apply .arrow [.str "a", .int 9], .int 3])).run
      (Store.startingAt ["w"])).1.status = 0 := by
    decide +kernel
  cases ran : (foldExpr Store.access false ⟨"e.json", .strict, 0, some "./out", .never⟩
      (.call (.lambda ["p"] (.str "a"))
        [.apply .plus [.int 1, .int 2], .apply .arrow [.str "a", .int 9], .int 3])).run
      (Store.startingAt ["w"]) with
  | mk outcome after =>
      rw [ran] at success
      obtain ⟨folded, bytes, file, _, pool, _, _, folds, _, found, read, _, pooled, constants, _⟩ :=
        written_module_holds_residual_literals _ after false _ "./out" rfl _ outcome ran success
      cases folds
      exact ⟨outcome, after, bytes, file, pool, rfl, success, found, read, pooled, constants⟩

end Command

end VmToolchain
