import VmToolchain.ModuleFile.Dump
import VmToolchain.Proofs.Json.Numerals
import VmToolchain.Proofs.Text.Quoting
import VmToolchain.Rule

/-! How values and errors are shown. Nothing that is shown of them holds a control character, and
what is shown of a value tells which value it is: the category by its last letter, and what stands
before it by its first.
-/

namespace VmToolchain

open Text

-----------------------------------------------------------------------------------------
-- Control characters
-----------------------------------------------------------------------------------------

@[simp]
theorem Operator.noControls_name (op : Operator) : NoControls op.name := by
  cases op <;> decide

@[simp]
theorem Category.noControls_name (category : Category) : NoControls category.name := by
  cases category <;> decide

@[simp]
theorem RuleKind.noControls_name (rule : RuleKind) : NoControls rule.name := by
  cases rule <;> decide

@[simp]
theorem ChunkKind.noControls_name (kind : ChunkKind) : NoControls kind.name := by
  cases kind <;> decide

@[simp]
theorem Constant.noControls_display (constant : Constant) : NoControls constant.display := by
  cases constant with
  | int value => exact noControls_repr_int value.toInt
  | str value => exact noControls_quoted value

@[simp]
theorem TypedValue.noControls_display (value : TypedValue) : NoControls value.display := by
  obtain ⟨constant?, category⟩ := value
  cases constant? <;> simp +decide [display]

theorem FoldError.noControls_message (error : FoldError) : NoControls error.message := by
  unfold message
  cases error with
  | notImplemented op rule => simp +decide
  | arity op expected actual => simp +decide
  | notNumeric op value => simp +decide
  | typeMismatch op categories =>
      have names : NoControls (", ".intercalate (categories.map Category.name)) :=
        noControls_intercalate categories (by decide) Category.noControls_name
      simp +decide [names]

/-- A header that cannot be read is told of without any of its bytes. -/
theorem FileHeader.noControls_message_of_decode {payload : List UInt8} {error : ModuleError}
    (h : decode payload = .error error)
    : NoControls error.message := by
  unfold ModuleError.message
  unfold decode at h
  split at h
  · cases h
    simp +decide
  · split at h
    · cases h
      decide
    · dsimp only at h
      split at h
      · cases h
        simp +decide
      · contradiction

theorem Chunk.noControls_preview (chunk : Chunk) : NoControls chunk.preview := by
  have bytes : NoControls (" ".intercalate ((chunk.payload.take previewSize).map
      (fun byte => String.ofList (hexByte byte)))) :=
    noControls_intercalate _ (by decide) noControls_hexByte
  refine noControls_append.mpr ⟨bytes, ?_⟩
  split <;> decide

-----------------------------------------------------------------------------------------
-- Telling values apart
-----------------------------------------------------------------------------------------

theorem toList_quoted (text : String)
    : (quoted text).toList = '\"' :: (text.toList.flatMap quotedChar ++ ['\"']) := by
  rw [quoted, String.toList_ofList, List.cons_append]

theorem not_mem_repr_int {c : Char} (digit : c.isDigit = false) (sign : c ≠ '-') (n : Int)
    : c ∉ n.repr.toList := by
  cases n with
  | ofNat n =>
      rw [toList_repr_ofNat]
      exact not_mem_toDigits digit
  | negSucc n =>
      rw [toList_repr_negSucc]
      exact List.not_mem_cons_of_ne_of_not_mem sign (not_mem_toDigits digit)

namespace Constant

/-- Only strings are shown with a quotation mark. -/
theorem repr_ne_quoted (n : Int) (text : String) : n.repr ≠ quoted text := by
  intro same
  have mark : '\"' ∈ n.repr.toList := by
    rw [same, toList_quoted]
    exact List.mem_cons_self
  exact not_mem_repr_int rfl (by decide) n mark

theorem display_inj {constant other : Constant}
    : constant.display = other.display ↔ constant = other := by
  cases constant with
  | int m =>
      cases other with
      | int n =>
          refine ⟨fun same => ?_, congrArg display⟩
          have read := congrArg integerOf? same
          rw [display, display, integerOf?_repr, integerOf?_repr, Option.some.injEq] at read
          rw [read]
      | str text => exact iff_of_false (repr_ne_quoted m.toInt text) (by simp)
  | str text =>
      cases other with
      | int n => exact iff_of_false (repr_ne_quoted n.toInt text).symm (by simp)
      | str other => rw [display, display, quoted_inj, str.injEq]

/-- No constant is shown as an unknown value is. -/
theorem display_ne_mark (constant : Constant) : constant.display ≠ "?" := by
  intro same
  cases constant with
  | int n =>
      have mark : '?' ∈ n.toInt.repr.toList := by
        rw [show n.toInt.repr = "?" from same]
        exact List.mem_cons_self
      exact not_mem_repr_int rfl (by decide) n.toInt mark
  | str text =>
      have chars : (quoted text).toList = "?".toList := congrArg String.toList same
      rw [toList_quoted] at chars
      cases chars

/-- Values that are known are told from each other and from the unknown one. -/
theorem display?_inj {constant? other? : Option Constant}
    : constant?.elim "?" display = other?.elim "?" display ↔ constant? = other? := by
  cases constant? with
  | none =>
      cases other? with
      | none => exact iff_of_true rfl rfl
      | some other => exact iff_of_false other.display_ne_mark.symm (by simp)
  | some constant =>
      cases other? with
      | none => exact iff_of_false constant.display_ne_mark (by simp)
      | some other =>
          rw [Option.some.injEq]
          exact display_inj

end Constant

/-- The names of the categories end in different letters. -/
theorem Category.name_getLast?_inj {category other : Category}
    : category.name.toList.getLast? = other.name.toList.getLast? ↔ category = other := by
  cases category <;> cases other <;> decide

namespace TypedValue

theorem display_eq (value : TypedValue)
    : value.display
      = value.constant?.elim "?" Constant.display ++ ": " ++ value.category.name := by
  unfold display
  cases value.constant? <;> rfl

/-- The last letter is that of the category. -/
theorem getLast?_display (value : TypedValue)
    : value.display.toList.getLast? = value.category.name.toList.getLast? := by
  have named : value.category.name.toList ≠ [] := by
    cases value.category <;> decide
  rw [display, String.toList_append, List.getLast?_append_of_ne_nil _ named]

/-- What is shown of a value tells which value it is. -/
theorem display_inj {value other : TypedValue} : value.display = other.display ↔ value = other := by
  refine ⟨fun same => ?_, congrArg display⟩
  have category : value.category = other.category := by
    rw [← Category.name_getLast?_inj, ← getLast?_display, ← getLast?_display, same]
  rw [display_eq, display_eq, category, String.append_left_inj, String.append_left_inj,
    Constant.display?_inj] at same
  cases value
  cases other
  exact congrArg₂ mk same category

end TypedValue

end VmToolchain
