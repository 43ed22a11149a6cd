import Mathlib.Data.List.Basic
import VmToolchain.Text.Basic

/-! Texts without control characters, and lines. Numbers, names and all that is quoted are free of
control characters, so they can neither end a line nor open a colour sequence. Lines that hold no
line feed are found again where a text made of them is split at its line feeds.
-/

namespace VmToolchain.Text

-----------------------------------------------------------------------------------------
-- Texts without control characters
-----------------------------------------------------------------------------------------

/-- No character of the text comes before the blank, where the control characters are. -/
def NoControls (text : String) : Prop :=
  ∀ c ∈ text.toList, ' ' ≤ c

instance (text : String) : Decidable (NoControls text) :=
  List.decidableBAll (fun c => ' ' ≤ c) text.toList

theorem NoControls.not_mem {text : String} (h : NoControls text) {control : Char}
    (low : control < ' ')
    : control ∉ text.toList := by
  intro member
  exact absurd (h control member) (Char.not_le.mpr low)

@[simp]
theorem noControls_append {left right : String}
    : NoControls (left ++ right) ↔ NoControls left ∧ NoControls right := by
  simp only [NoControls, String.toList_append, List.forall_mem_append]

theorem noControls_ofList {chars : List Char}
    : NoControls (String.ofList chars) ↔ ∀ c ∈ chars, ' ' ≤ c := by
  rw [NoControls, String.toList_ofList]

theorem noControls_intercalate {α : Type} {separator : String} (items : List α) {text : α → String}
    (between : NoControls separator) (h : ∀ item, NoControls (text item))
    : NoControls (separator.intercalate (items.map text)) := by
  induction items with
  | nil => exact (by decide : NoControls "")
  | cons item rest ih =>
      cases rest with
      | nil => exact h item
      | cons next rest =>
          rw [List.map_cons, List.map_cons, String.intercalate_cons_cons, noControls_append,
            noControls_append]
          exact ⟨⟨h item, between⟩, ih⟩

/-- What holds of each digit of a base holds of all that is written with them. -/
theorem forall_mem_toDigits {base : Nat} (large : 1 < base) {p : Char → Prop}
    (h : ∀ digit < base, p digit.digitChar) (n : Nat)
    : ∀ c ∈ Nat.toDigits base n, p c := by
  induction n using Nat.base_induction base large with
  | single n small =>
      rw [Nat.toDigits_of_lt_base small, List.forall_mem_singleton]
      exact h n small
  | digit n last small leading ih =>
      rw [← Nat.toDigits_append_toDigits large leading small, List.forall_mem_append,
        Nat.toDigits_of_lt_base small, List.forall_mem_singleton]
      exact ⟨ih, h last small⟩

@[simp]
theorem noControls_repr (n : Nat) : NoControls n.repr := by
  rw [NoControls, Nat.toList_repr]
  exact forall_mem_toDigits (by decide) (by decide) n

@[simp]
theorem noControls_repr_int (n : Int) : NoControls n.repr := by
  cases n with
  | ofNat n => exact noControls_repr n
  | negSucc n => exact noControls_append.mpr ⟨by decide, noControls_repr (n + 1)⟩

theorem noControls_repeated {c : Char} (visible : ' ' ≤ c) (count : Nat)
    : NoControls (repeated count c) := by
  rw [repeated, noControls_ofList]
  intro found member
  rw [List.eq_of_mem_replicate member]
  exact visible

theorem noControls_padRight {text : String} (h : NoControls text) (width : Nat)
    : NoControls (padRight width text) :=
  noControls_append.mpr ⟨h, noControls_repeated (by decide) _⟩

theorem noControls_padLeft {fill : Char} {text : String} (visible : ' ' ≤ fill)
    (h : NoControls text) (width : Nat)
    : NoControls (padLeft fill width text) :=
  noControls_append.mpr ⟨noControls_repeated visible _, h⟩

theorem forall_mem_hexByte {p : Char → Prop} (h : ∀ value < 16, p (hexDigit value)) (byte : UInt8)
    : ∀ c ∈ hexByte byte, p c := by
  have high : byte.toNat / 16 < 16 := by
    have := byte.toNat_lt
    omega
  intro c member
  rcases List.mem_pair.mp member with rfl | rfl
  · exact h _ high
  · exact h _ (Nat.mod_lt _ (by decide))

theorem noControls_hexByte (byte : UInt8) : NoControls (String.ofList (hexByte byte)) :=
  noControls_ofList.mpr (forall_mem_hexByte (by decide) byte)

-----------------------------------------------------------------------------------------
-- Lines
-----------------------------------------------------------------------------------------

/-- The text holds no line feed. -/
def OnOneLine (text : String) : Prop :=
  '\n' ∉ text.toList

instance (text : String) : Decidable (OnOneLine text) :=
  inferInstanceAs (Decidable ('\n' ∉ text.toList))

theorem NoControls.onOneLine {text : String} (h : NoControls text) : OnOneLine text :=
  h.not_mem (by decide)

theorem onOneLine_append {left right : String}
    : OnOneLine (left ++ right) ↔ OnOneLine left ∧ OnOneLine right := by
  simp only [OnOneLine, String.toList_append, List.mem_append, not_or]

/-- A text with a line feed behind each of the lines. -/
def terminated (lines : List String) : String :=
  String.join (lines.map (· ++ "\n"))

theorem terminated_cons (line : String) (rest : List String)
    : terminated (line :: rest) = line ++ "\n" ++ terminated rest := by
  rw [terminated, List.map_cons, String.join_cons, terminated]

theorem terminated_append (first later : List String)
    : terminated (first ++ later) = terminated first ++ terminated later := by
  rw [terminated, List.map_append, String.join_append, terminated, terminated]

/-- Split at its line feeds, such a text falls into its lines and nothing behind them, by induction
on the lines.
-/
theorem splitOn_terminated {lines : List String} (h : ∀ line ∈ lines, OnOneLine line)
    : (terminated lines).toList.splitOn '\n' = lines.map String.toList ++ [[]] := by
  induction lines with
  | nil => rfl
  | cons line rest ih =>
      obtain ⟨head, tail⟩ := List.forall_mem_cons.mp h
      have chars : (terminated (line :: rest)).toList
          = line.toList ++ '\n' :: (terminated rest).toList := by
        rw [terminated_cons, String.toList_append, String.toList_append, List.append_assoc]
        rfl
      rw [chars, List.splitOn_append_cons_self_of_not_mem head, ih tail]
      rfl

/-- Texts made of lines are equal when their lines are. -/
theorem terminated_inj {lines others : List String} (h : ∀ line ∈ lines, OnOneLine line)
    (h' : ∀ line ∈ others, OnOneLine line)
    : terminated lines = terminated others ↔ lines = others := by
  refine ⟨fun same => ?_, congrArg terminated⟩
  have pieces : lines.map String.toList ++ [[]] = others.map String.toList ++ [[]] := by
    rw [← splitOn_terminated h, same, splitOn_terminated h']
  exact List.map_injective_iff.mpr (fun _ _ => String.toList_inj.mp)
    (List.append_cancel_right pieces)

end VmToolchain.Text
