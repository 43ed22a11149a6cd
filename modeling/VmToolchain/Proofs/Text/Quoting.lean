import VmToolchain.Proofs.Text.Lines

/-! Quoted texts can be read back. In quotes a character stands for itself or is shown by an escape,
and where one character ends can be told without looking at what comes behind. Which characters are
shown by their code points does not matter for this.
-/

namespace VmToolchain.Text

/-- The characters that are shown by a letter behind a backslash, with their letters. -/
def letteredEscapes : List (Char × Char) :=
  [('\x00', '0'), ('\t', 't'), ('\r', 'r'), ('\n', 'n'), ('\"', '\"'), ('\\', '\\')]

/-- The three forms a character takes inside quotes. -/
theorem quotedChar_cases (c : Char)
    : (∃ letter, (c, letter) ∈ letteredEscapes ∧ quotedChar c = ['\\', letter])
      ∨ quotedChar c = codePointEscape c
      ∨ c ≠ '\\' ∧ isPrintable c = true ∧ quotedChar c = [c] := by
  by_cases lettered : c ∈ letteredEscapes.map Prod.fst
  · refine Or.inl ?_
    simp only [letteredEscapes, List.map_cons, List.map_nil, List.mem_cons, List.not_mem_nil,
      or_false] at lettered
    rcases lettered with rfl | rfl | rfl | rfl | rfl | rfl <;> exact ⟨_, by decide, rfl⟩
  · simp only [letteredEscapes, List.map_cons, List.map_nil, List.mem_cons, List.not_mem_nil,
      or_false, not_or] at lettered
    obtain ⟨null, tab, ret, feed, quote, backslash⟩ := lettered
    rw [quotedChar, if_neg null, if_neg tab, if_neg ret, if_neg feed, if_neg quote,
      if_neg backslash]
    split
    · exact Or.inr (Or.inl rfl)
    · next visible =>
        rw [Bool.or_eq_true, not_or] at visible
        exact Or.inr (Or.inr ⟨backslash, by simpa using visible.2, rfl⟩)

-----------------------------------------------------------------------------------------
-- Control characters
-----------------------------------------------------------------------------------------

theorem le_of_mem_codePointEscape {c shown : Char} (member : shown ∈ codePointEscape c)
    : ' ' ≤ shown := by
  have digits : ∀ d ∈ Nat.toDigits 16 c.toNat, ' ' ≤ d :=
    forall_mem_toDigits (by decide) (by decide) c.toNat
  simp only [codePointEscape, List.mem_append, List.mem_cons, List.not_mem_nil, or_false] at member
  rcases member with ((rfl | rfl | rfl) | digit) | rfl
  · decide
  · decide
  · decide
  · exact digits shown digit
  · decide

theorem le_of_isPrintable {c : Char} (h : isPrintable c = true) : ' ' ≤ c := by
  have hidden : ∀ point < 32, invisiblePoints.contains point = true := by decide
  refine Char.not_lt.mp (fun low => ?_)
  have control := hidden c.toNat low
  rw [isPrintable, control] at h
  contradiction

/-- In quotes a control character is shown by a letter or by its code point. -/
theorem le_of_mem_quotedChar {c shown : Char} (member : shown ∈ quotedChar c) : ' ' ≤ shown := by
  rcases quotedChar_cases c with ⟨letter, escape, form⟩ | form | ⟨_, visible, form⟩
  · have letters : ∀ escape ∈ letteredEscapes, ' ' ≤ escape.2 := by decide
    rw [form] at member
    rcases List.mem_pair.mp member with rfl | rfl
    · decide
    · exact letters _ escape
  · exact le_of_mem_codePointEscape (form ▸ member)
  · rw [form] at member
    rw [List.mem_singleton.mp member]
    exact le_of_isPrintable visible

@[simp]
theorem noControls_quoted (text : String) : NoControls (quoted text) := by
  rw [quoted, noControls_ofList]
  intro shown member
  simp only [List.cons_append, List.mem_cons, List.mem_append, List.mem_flatMap, List.not_mem_nil,
    or_false] at member
  rcases member with rfl | ⟨c, _, inside⟩ | rfl
  · decide
  · exact le_of_mem_quotedChar inside
  · decide

-----------------------------------------------------------------------------------------
-- Reading back
-----------------------------------------------------------------------------------------

/-- The number with these hexadecimal digits. -/
def hexNumber (digits : List Char) : Nat :=
  digits.foldl (fun value c => 16 * value + (hexValue? c).getD 0) 0

theorem hexNumber_toDigits (n : Nat) : hexNumber (Nat.toDigits 16 n) = n := by
  have digit : ∀ value < 16, (hexValue? value.digitChar).getD 0 = value := by decide
  induction n using Nat.base_induction 16 (by decide) with
  | single n small =>
      rw [Nat.toDigits_of_lt_base small, hexNumber, List.foldl_cons, List.foldl_nil, digit n small,
        Nat.mul_zero, Nat.zero_add]
  | digit n last small leading ih =>
      have before : (Nat.toDigits 16 n).foldl _ 0 = n := ih
      rw [← Nat.toDigits_append_toDigits (by decide) leading small,
        Nat.toDigits_of_lt_base small, hexNumber, List.foldl_append, before, List.foldl_cons,
        List.foldl_nil, digit last small]

/-- The first character of what stands inside quotes, and what comes behind it. -/
def readChar? : List Char → Option (Char × List Char)
  | [] => none
  | '\\' :: 'u' :: '\x7b' :: rest =>
      let digits := rest.takeWhile (· != '\x7d')
      some (Char.ofNat (hexNumber digits), (rest.drop digits.length).tail)
  | '\\' :: letter :: rest =>
      (letteredEscapes.find? (fun escape => escape.2 == letter)).map (fun escape => (escape.1, rest))
  | c :: rest => some (c, rest)

theorem readChar?_codePointEscape (c : Char) (rest : List Char)
    : readChar? (codePointEscape c ++ rest) = some (c, rest) := by
  have chars : codePointEscape c ++ rest
      = '\\' :: 'u' :: '\x7b' :: (Nat.toDigits 16 c.toNat ++ '\x7d' :: rest) := by
    simp [codePointEscape]
  have digits : ∀ d ∈ Nat.toDigits 16 c.toNat, (d != '\x7d') = true :=
    forall_mem_toDigits (by decide) (by decide) c.toNat
  have taken : (Nat.toDigits 16 c.toNat ++ '\x7d' :: rest).takeWhile (· != '\x7d')
      = Nat.toDigits 16 c.toNat := by
    rw [List.takeWhile_append_of_pos digits, List.takeWhile_cons_of_neg (by decide),
      List.append_nil]
  rw [chars, readChar?, taken, hexNumber_toDigits, Char.ofNat_toNat, List.drop_left, List.tail_cons]

/-- A character is read back from any of its forms, whatever stands behind it. -/
theorem readChar?_quotedChar (c : Char) (rest : List Char)
    : readChar? (quotedChar c ++ rest) = some (c, rest) := by
  rcases quotedChar_cases c with ⟨letter, escape, form⟩ | form | ⟨plain, _, form⟩
  · rw [form]
    simp only [letteredEscapes, List.mem_cons, List.not_mem_nil, or_false, Prod.mk.injEq] at escape
    rcases escape with ⟨rfl, rfl⟩ | ⟨rfl, rfl⟩ | ⟨rfl, rfl⟩ | ⟨rfl, rfl⟩ | ⟨rfl, rfl⟩ | ⟨rfl, rfl⟩
      <;> rfl
  · rw [form, readChar?_codePointEscape]
  · rw [form, List.singleton_append]
    unfold readChar?
    split
    · contradiction
    · next same => exact absurd (List.head_eq_of_cons_eq same) plain
    · next same => exact absurd (List.head_eq_of_cons_eq same) plain
    · next same =>
        cases same
        rfl

/-- Two texts that are the same in quotes are the same, by induction on the first. -/
theorem flatMap_quotedChar_inj {chars others : List Char}
    : chars.flatMap quotedChar = others.flatMap quotedChar ↔ chars = others := by
  refine ⟨fun same => ?_, congrArg (List.flatMap quotedChar)⟩
  have read (c : Char) (rest : List Char)
      : readChar? ((c :: rest).flatMap quotedChar) = some (c, rest.flatMap quotedChar) := by
    rw [List.flatMap_cons, readChar?_quotedChar]
  induction chars generalizing others with
  | nil =>
      cases others with
      | nil => rfl
      | cons d others =>
          have absurdity := read d others
          rw [← same] at absurdity
          contradiction
  | cons c rest ih =>
      cases others with
      | nil =>
          have absurdity := read c rest
          rw [same] at absurdity
          contradiction
      | cons d others =>
          have first := read c rest
          rw [same, read d others] at first
          simp only [Option.some.injEq, Prod.mk.injEq] at first
          obtain ⟨rfl, behind⟩ := first
          rw [ih behind.symm]

theorem quoted_inj {text other : String} : quoted text = quoted other ↔ text = other := by
  rw [quoted, quoted, String.ofList_inj, List.append_cancel_right_eq, List.cons_inj_right,
    flatMap_quotedChar_inj, String.toList_inj]

end VmToolchain.Text
