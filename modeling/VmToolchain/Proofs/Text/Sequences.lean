import VmToolchain.Palette
import VmToolchain.Proofs.Text.Lines

/-! Colour sequences in texts, and texts without them. What is quoted, counted or padded holds no
escape character, so the only sequences in an output are those that colour it.
-/

namespace VmToolchain.Text

-----------------------------------------------------------------------------------------
-- Deleting sequences
-----------------------------------------------------------------------------------------

/-- What follows a colour sequence, if the text starts with one: an escape character, a bracket, digits
and the letter m.
-/
def afterSequence? : List Char → Option (List Char)
  | '\x1b' :: '[' :: rest =>
      match rest.dropWhile Char.isDigit with
      | 'm' :: rest => some rest
      | _ => none
  | _ => none

theorem length_afterSequence? {chars rest : List Char} (h : afterSequence? chars = some rest)
    : rest.length < chars.length := by
  unfold afterSequence? at h
  split at h
  · next body =>
      split at h
      · next found =>
          cases h
          have short := (List.dropWhile_suffix Char.isDigit (l := body)).length_le
          rw [found] at short
          simp only [List.length_cons] at short ⊢
          omega
      · contradiction
  · contradiction

/-- The text without its colour sequences. -/
def withoutSequences : List Char → List Char
  | [] => []
  | c :: rest =>
      match _h : afterSequence? (c :: rest) with
      | some behind => withoutSequences behind
      | none => c :: withoutSequences rest
termination_by chars => chars.length
decreasing_by
  · exact length_afterSequence? _h
  · simp

def uncolored (text : String) : String :=
  String.ofList (withoutSequences text.toList)

/-- A character other than the escape character stays. -/
theorem withoutSequences_cons {c : Char} (plain : c ≠ '\x1b') (rest : List Char)
    : withoutSequences (c :: rest) = c :: withoutSequences rest := by
  have none : afterSequence? (c :: rest) = none := by
    unfold afterSequence?
    split
    · next same => exact (plain (List.head_eq_of_cons_eq same)).elim
    · rfl
  rw [withoutSequences]
  split
  · next found => cases none.symm.trans found
  · rfl

theorem withoutSequences_append {text : List Char} (plain : '\x1b' ∉ text) (rest : List Char)
    : withoutSequences (text ++ rest) = text ++ withoutSequences rest := by
  induction text with
  | nil => rfl
  | cons c text ih =>
      have first : c ≠ '\x1b' := (List.ne_of_not_mem_cons plain).symm
      have others := List.not_mem_of_not_mem_cons plain
      rw [List.cons_append, withoutSequences_cons first, ih others, List.cons_append]

/-- A sequence goes, whatever stands behind it. -/
theorem withoutSequences_sequence {digits : List Char}
    (numeric : ∀ c ∈ digits, c.isDigit = true) (rest : List Char)
    : withoutSequences ('\x1b' :: '[' :: (digits ++ 'm' :: rest)) = withoutSequences rest := by
  have found : afterSequence? ('\x1b' :: '[' :: (digits ++ 'm' :: rest)) = some rest := by
    have behind : (digits ++ 'm' :: rest).dropWhile Char.isDigit = 'm' :: rest := by
      rw [List.dropWhile_append_of_pos numeric]
      rfl
    simp only [afterSequence?, behind]
  rw [withoutSequences]
  split
  · next again =>
      cases found.symm.trans again
      rfl
  · next none => cases found.symm.trans none

/-- What only begins like a sequence stays. -/
example : uncolored "\x1b[34mPLUS\x1b[0m \x1b[3" = "PLUS \x1b[3" := by cbv

-----------------------------------------------------------------------------------------
-- Coloured texts and plain ones
-----------------------------------------------------------------------------------------

/-- A text in which no sequence can begin. -/
def IsPlain (text : String) : Prop :=
  '\x1b' ∉ text.toList

instance (text : String) : Decidable (IsPlain text) :=
  inferInstanceAs (Decidable ('\x1b' ∉ text.toList))

/-- Without its sequences the first text is the second, whatever stands behind it. -/
def Uncolors (text plain : String) : Prop :=
  ∀ rest, withoutSequences (text.toList ++ rest) = plain.toList ++ withoutSequences rest

namespace Uncolors

theorem eq {text plain : String} (h : Uncolors text plain) : uncolored text = plain := by
  have whole := h []
  rw [List.append_nil, withoutSequences, List.append_nil] at whole
  rw [uncolored, whole, String.ofList_toList]

theorem of_plain {text : String} (plain : IsPlain text) : Uncolors text text :=
  fun rest => withoutSequences_append plain rest

/-- A text without control characters is as it would be without colours. -/
theorem of_noControls {text : String} (h : NoControls text) : Uncolors text text :=
  of_plain (h.not_mem (by decide))

theorem append {left right text plain : String} (first : Uncolors left text)
    (second : Uncolors right plain)
    : Uncolors (left ++ right) (text ++ plain) := by
  intro rest
  rw [String.toList_append, String.toList_append, List.append_assoc, first, second,
    List.append_assoc]

theorem feed : Uncolors "\n" "\n" :=
  of_plain (by decide)

theorem blank : Uncolors " " " " :=
  of_plain (by decide)

/-- A part that is left out under some condition. -/
theorem optional {text plain : String} (h : Uncolors text plain) (omitted : Prop)
    [Decidable omitted]
    : Uncolors (if omitted then "" else text) (if omitted then "" else plain) := by
  split
  · exact of_plain (by decide)
  · exact h

/-- Texts put together from parts, by induction on the parts. -/
theorem join {α : Type} (items : List α) {text plain : α → String}
    (h : ∀ item, Uncolors (text item) (plain item))
    : Uncolors (String.join (items.map text)) (String.join (items.map plain)) := by
  induction items with
  | nil => exact fun _ => rfl
  | cons item rest ih =>
      rw [List.map_cons, List.map_cons, String.join_cons, String.join_cons]
      exact (h item).append ih

end Uncolors

end VmToolchain.Text

-----------------------------------------------------------------------------------------
-- Colours
-----------------------------------------------------------------------------------------

namespace VmToolchain.Palette

open Text

variable (palette : Palette)

/-- A sequence stands for nothing in the plain text. -/
theorem uncolors_sequence {code : String} (numeric : code.toList.all Char.isDigit = true)
    : Uncolors (palette.sequence code) (plain.sequence code) := by
  intro rest
  obtain ⟨enabled⟩ := palette
  cases enabled with
  | false => rfl
  | true => simp [sequence, plain, withoutSequences_sequence (List.all_eq_true.mp numeric)]

/-- What is selected before a text is reset behind it. -/
theorem uncolors_selected {code text : String} (numeric : code.toList.all Char.isDigit = true)
    (h : NoControls text)
    : Uncolors (palette.sequence code ++ text ++ palette.reset)
        (plain.sequence code ++ text ++ plain.reset) :=
  ((palette.uncolors_sequence numeric).append (.of_noControls h)).append
    (palette.uncolors_sequence rfl)

theorem uncolors_kind {text : String} (h : NoControls text)
    : Uncolors (palette.kind text) (plain.kind text) :=
  palette.uncolors_selected rfl h

theorem uncolors_value {text : String} (h : NoControls text)
    : Uncolors (palette.value text) (plain.value text) :=
  palette.uncolors_selected rfl h

theorem uncolors_muted {text : String} (h : NoControls text)
    : Uncolors (palette.muted text) (plain.muted text) :=
  palette.uncolors_selected rfl h

end VmToolchain.Palette
