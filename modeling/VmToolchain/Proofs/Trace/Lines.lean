import VmToolchain.Proofs.Json.Numerals
import VmToolchain.Proofs.Trace.Printing

/-! How the lines of a trace look. What an event shows never starts with a blank, so the blanks
before a line are those of its depth. The line of a failure can be told from all others by its
characters alone.
-/

namespace VmToolchain

-----------------------------------------------------------------------------------------
-- Characters at the start of a text
-----------------------------------------------------------------------------------------

namespace Text

/-- The text has a first character, and it is one of these. -/
def OpensWith (accepted : Char → Bool) (text : String) : Prop :=
  text.toList.head?.any accepted = true

theorem opensWith_of_toList {accepted : Char → Bool} {text : String} {first : Char}
    {rest : List Char} (chars : text.toList = first :: rest) (h : accepted first = true)
    : OpensWith accepted text := by
  rw [OpensWith, chars]
  exact h

theorem OpensWith.toList {accepted : Char → Bool} {text : String} (h : OpensWith accepted text)
    : ∃ first rest, text.toList = first :: rest ∧ accepted first = true := by
  unfold OpensWith at h
  cases chars : text.toList with
  | nil =>
      rw [chars] at h
      contradiction
  | cons first rest =>
      rw [chars] at h
      exact ⟨first, rest, rfl, h⟩

theorem OpensWith.append {accepted : Char → Bool} {left : String} (h : OpensWith accepted left)
    (right : String)
    : OpensWith accepted (left ++ right) := by
  obtain ⟨first, rest, chars, found⟩ := h.toList
  have longer : (left ++ right).toList = first :: (rest ++ right.toList) := by
    rw [String.toList_append, chars, List.cons_append]
  exact opensWith_of_toList longer found

theorem OpensWith.mono {accepted wider : Char → Bool} {text : String} (h : OpensWith accepted text)
    (widens : ∀ c, accepted c = true → wider c = true)
    : OpensWith wider text := by
  obtain ⟨first, rest, chars, found⟩ := h.toList
  exact opensWith_of_toList chars (widens first found)

/-- A coloured text opens with an escape character, and one without colour as it did before. -/
theorem OpensWith.selected {accepted : Char → Bool} {text : String} (h : OpensWith accepted text)
    (escape : accepted '\x1b' = true) (palette : Palette) (code : String)
    : OpensWith accepted (palette.sequence code ++ text ++ palette.reset) := by
  refine OpensWith.append ?_ palette.reset
  obtain ⟨enabled⟩ := palette
  cases enabled with
  | false =>
      have plain : Palette.sequence ⟨false⟩ code ++ text = text := String.empty_append
      rwa [plain]
  | true =>
      have colored : OpensWith accepted "\x1b[" := escape
      exact ((colored.append code).append "m").append text

end Text

open Text

/-- A character with which a value can be shown, in colour or without: a digit or a sign, a
quotation mark, or the mark of an unknown value.
-/
def opensValue (c : Char) : Bool :=
  c.isDigit || ['-', '\"', '?', '\x1b'].contains c

def isBlank (c : Char) : Bool :=
  c == ' '

def notBlank (c : Char) : Bool :=
  !isBlank c

theorem notBlank_of_opensValue (c : Char) (h : opensValue c = true) : notBlank c = true := by
  rw [notBlank, Bool.not_eq_true', isBlank, beq_eq_false_iff_ne]
  rintro rfl
  contradiction

theorem opensValue_of_isDigit {c : Char} (digit : c.isDigit = true) : opensValue c = true :=
  Bool.or_eq_true_iff.mpr (Or.inl digit)

theorem Constant.opensWith_display (constant : Constant)
    : OpensWith opensValue constant.display := by
  cases constant with
  | str text => exact opensWith_of_toList (String.toList_ofList) rfl
  | int value =>
      rw [display]
      cases value.toInt with
      | negSucc n => exact opensWith_of_toList (toList_repr_negSucc n) rfl
      | ofNat n =>
          rcases Nat.eq_zero_or_pos n with rfl | positive
          · exact rfl
          · obtain ⟨first, rest, digits, _⟩ := toDigits_eq_cons positive
            have member : first ∈ Nat.toDigits 10 n := digits ▸ List.mem_cons_self
            exact opensWith_of_toList ((toList_repr_ofNat n).trans digits)
              (opensValue_of_isDigit (isDigit_of_mem_toDigits member))

theorem TypedValue.opensWith_display (value : TypedValue) : OpensWith opensValue value.display := by
  rw [display, String.append_assoc]
  refine OpensWith.append ?_ _
  cases value.constant? with
  | none => exact rfl
  | some constant => exact constant.opensWith_display

theorem Operator.opensWith_name (op : Operator) : OpensWith notBlank op.name := by
  cases op <;> rfl

/-- Whatever an event shows, it does not start with a blank. -/
theorem TraceEvent.opensWith_text (palette : Palette) (event : TraceEvent)
    : OpensWith notBlank (event.text palette) := by
  have kind (op : Operator) : OpensWith notBlank (palette.kind op.name) :=
    op.opensWith_name.selected rfl palette "34"
  cases event with
  | enter op => exact (kind op).append _
  | leaf value =>
      exact (value.opensWith_display.selected rfl palette "2").mono notBlank_of_opensValue
  | apply op operands verdict result =>
      exact (((((kind op).append _).append _).append _).append _).append _
  | failure op error => exact (op.opensWith_name.append _).append _

-----------------------------------------------------------------------------------------
-- Blanks before a line
-----------------------------------------------------------------------------------------

/-- The number of blanks that a line starts with. -/
def indentation (line : String) : Nat :=
  (line.toList.takeWhile isBlank).length

/-- The line of an event at a depth. -/
def TraceEvent.lineAt (palette : Palette) (depth : Nat) (event : TraceEvent) : String :=
  TracePrinter.indent depth ++ event.text palette

theorem toList_indent_append (depth : Nat) (text : String)
    : (TracePrinter.indent depth ++ text).toList
      = List.replicate (2 * depth) ' ' ++ text.toList := by
  rw [String.toList_append, TracePrinter.indent, Text.repeated, String.toList_ofList]

/-- A line is indented by its depth and no more. -/
theorem indentation_lineAt (palette : Palette) (depth : Nat) (event : TraceEvent)
    : indentation (event.lineAt palette depth) = 2 * depth := by
  obtain ⟨first, rest, chars, ink⟩ := (event.opensWith_text palette).toList
  have stop : ¬isBlank first = true := by simpa [notBlank] using ink
  rw [indentation, TraceEvent.lineAt, toList_indent_append, chars,
    List.takeWhile_append_of_pos (by simp [isBlank]), List.takeWhile_cons_of_neg stop]
  simp

/-- Behind the blanks of a line stands what the event shows. -/
theorem dropWhile_lineAt (palette : Palette) (depth : Nat) (event : TraceEvent)
    : (event.lineAt palette depth).toList.dropWhile isBlank = (event.text palette).toList := by
  obtain ⟨first, rest, chars, ink⟩ := (event.opensWith_text palette).toList
  have stop : ¬isBlank first = true := by simpa [notBlank] using ink
  rw [TraceEvent.lineAt, toList_indent_append, chars,
    List.dropWhile_append_of_pos (by simp [isBlank]), List.dropWhile_cons_of_neg stop]

-----------------------------------------------------------------------------------------
-- Failures and other lines
-----------------------------------------------------------------------------------------

/-- The line of a failure, which is never coloured. -/
def failureLine (depth : Nat) (op : Operator) (error : FoldError) : String :=
  TracePrinter.indent depth ++ (op.name ++ " failed: " ++ error.message)

/-- The line says of an operator that it failed, at some depth and for some reason. -/
def IsFailureLine (line : String) : Prop :=
  ∃ depth op error, line = failureLine depth op error

/-- The line says at this depth what an operator came to. -/
def IsApplicationLine (palette : Palette) (depth : Nat) (line : String) : Prop :=
  ∃ op operands verdict result,
    line
    = TracePrinter.indent depth
        ++ TracePrinter.applicationLine palette op operands verdict result

def TraceEvent.isFailure : TraceEvent → Bool
  | .failure _ _ => true
  | .enter _ | .leaf _ | .apply _ _ _ _ => false

/-- A word, a blank and something else: this is where lines that name an operator differ. -/
theorem dropWhile_word {word : String} (solid : word.toList.all notBlank = true) (rest : List Char)
    : (word.toList ++ ' ' :: rest).dropWhile notBlank = ' ' :: rest := by
  rw [List.dropWhile_append_of_pos (List.all_eq_true.mp solid), List.dropWhile_cons_of_neg]
  decide

theorem all_notBlank_kind (palette : Palette) (op : Operator)
    : (palette.kind op.name).toList.all notBlank = true := by
  obtain ⟨enabled⟩ := palette
  cases enabled <;> cases op <;> rfl

theorem all_notBlank_name (op : Operator) : op.name.toList.all notBlank = true := by
  cases op <;> rfl

/-- What a failure shows: the operator's name, and behind it the blank and the letter that no other
line has there.
-/
theorem toList_failure (op : Operator) (error : FoldError)
    : ∃ rest,
        (op.name ++ " failed: " ++ error.message).toList = op.name.toList ++ ' ' :: 'f' :: rest :=
  ⟨"ailed: ".toList ++ error.message.toList, by simp⟩

theorem TracePrinter.toList_applicationLine (palette : Palette) (op : Operator)
    (operands : List TypedValue) (verdict : Category) (result : TypedValue)
    : ∃ rest,
        (applicationLine palette op operands verdict result).toList
        = (palette.kind op.name).toList ++ ' ' :: '(' :: rest := by
  simp only [applicationLine, String.toList_append, List.append_assoc]
  exact ⟨_, rfl⟩

theorem ne_failure_of_word {word text : String} {c : Char} {rest : List Char}
    (solid : word.toList.all notBlank = true)
    (chars : text.toList = word.toList ++ ' ' :: c :: rest)
    (other : c ≠ 'f') (op : Operator) (error : FoldError)
    : text ≠ op.name ++ " failed: " ++ error.message := by
  intro same
  obtain ⟨behind, failure⟩ := toList_failure op error
  have words : word.toList ++ ' ' :: c :: rest = op.name.toList ++ ' ' :: 'f' :: behind := by
    rw [← chars, same, failure]
  have tails := congrArg (List.dropWhile notBlank) words
  rw [dropWhile_word solid, dropWhile_word (all_notBlank_name op)] at tails
  cases tails
  exact other rfl

/-- Only a failure shows what a failure shows. -/
theorem TraceEvent.text_ne_failure {event : TraceEvent} (other : event.isFailure = false)
    (palette : Palette) (op : Operator) (error : FoldError)
    : event.text palette ≠ op.name ++ " failed: " ++ error.message := by
  cases event with
  | enter entered =>
      have chars : (text palette (.enter entered)).toList
          = (palette.kind entered.name).toList ++ ' ' :: '.' :: ['.', '.'] := by
        rw [text, String.toList_append]
        rfl
      exact ne_failure_of_word (all_notBlank_kind palette entered) chars (by decide) op error
  | leaf value =>
      -- A value starts with none of the letters that a name starts with.
      intro same
      obtain ⟨first, rest, chars, found⟩ :=
        (value.opensWith_display.selected rfl palette "2").toList
      obtain ⟨behind, failure⟩ := toList_failure op error
      have same : (palette.muted value.display).toList
          = op.name.toList ++ ' ' :: 'f' :: behind := by
        rw [← failure, ← same, text]
      rw [Palette.muted, chars] at same
      cases op <;> cases same <;> contradiction
  | apply applied operands verdict result =>
      obtain ⟨rest, chars⟩ :=
        TracePrinter.toList_applicationLine palette applied operands verdict result
      exact ne_failure_of_word (all_notBlank_kind palette applied) chars (by decide) op error
  | failure _ _ => contradiction

theorem failureLine_eq_lineAt (palette : Palette) (depth : Nat) (op : Operator) (error : FoldError)
    : failureLine depth op error = TraceEvent.lineAt palette depth (.failure op error) := rfl

theorem isFailureLine_lineAt_iff {palette : Palette} {depth : Nat} {event : TraceEvent}
    : IsFailureLine (event.lineAt palette depth) ↔ event.isFailure = true := by
  constructor
  · rintro ⟨other, op, error, same⟩
    rw [failureLine_eq_lineAt palette] at same
    have texts : (event.text palette).toList
        = (TraceEvent.text palette (.failure op error)).toList := by
      rw [← dropWhile_lineAt palette depth, same, dropWhile_lineAt]
    cases failed : event.isFailure with
    | true => rfl
    | false =>
        exact (event.text_ne_failure failed palette op error (String.toList_inj.mp texts)).elim
  · intro failed
    cases event with
    | failure op error => exact ⟨depth, op, error, rfl⟩
    | enter _ | leaf _ | apply _ _ _ _ => contradiction

theorem IsApplicationLine.indentation {palette : Palette} {depth : Nat} {line : String}
    (h : IsApplicationLine palette depth line)
    : indentation line = 2 * depth := by
  obtain ⟨op, operands, verdict, result, rfl⟩ := h
  exact indentation_lineAt palette depth (.apply op operands verdict result)

theorem IsApplicationLine.not_failure {palette : Palette} {depth : Nat} {line : String}
    (h : IsApplicationLine palette depth line)
    : ¬IsFailureLine line := by
  obtain ⟨op, operands, verdict, result, rfl⟩ := h
  intro failed
  have shown
      : IsFailureLine (TraceEvent.lineAt palette depth (.apply op operands verdict result)) :=
    failed
  exact Bool.false_ne_true (isFailureLine_lineAt_iff.mp shown)

theorem indentation_failureLine (depth : Nat) (op : Operator) (error : FoldError)
    : indentation (failureLine depth op error) = 2 * depth :=
  indentation_lineAt .plain depth (.failure op error)

end VmToolchain
