import VmToolchain.Json.Token

/-! Reading tokens back from written text. A text that is written piece by piece is followed by the
state in which it leaves the lexer: between two tokens, behind a word that may still go on, or
inside a string literal.
-/

namespace VmToolchain

/-- The bytes of a text. -/
def Text.utf8 (text : String) : List UInt8 :=
  text.toByteArray.data.toList

theorem Text.utf8_eq_flatMap (text : String)
    : utf8 text = text.toList.flatMap String.utf8EncodeChar := by
  rw [utf8, ← String.utf8Encode_toList, List.utf8Encode]
  simp

theorem Text.utf8_append (text more : String) : utf8 (text ++ more) = utf8 text ++ utf8 more := by
  simp [utf8]

theorem Text.utf8_push (text : String) (c : Char)
    : utf8 (text.push c) = utf8 text ++ String.utf8EncodeChar c := by
  rw [utf8, String.toByteArray_push, List.utf8Encode_singleton]
  simp [utf8]

namespace Json

open Text

-----------------------------------------------------------------------------------------
-- Characters as bytes
-----------------------------------------------------------------------------------------

theorem toNat_ofUInt8 (byte : UInt8) : (Char.ofUInt8 byte).toNat = byte.toNat :=
  UInt8.toNat_toUInt32 byte

/-- A character of ASCII is one byte, and the lexer sees the character in it. -/
theorem utf8EncodeChar_of_ascii {c : Char} (ascii : c.toNat < 128)
    : ∃ byte, String.utf8EncodeChar c = [byte] ∧ Char.ofUInt8 byte = c := by
  refine ⟨UInt8.ofNat c.toNat, ?_, ?_⟩
  · have small : c.val.toNat ≤ 0x7f := Nat.le_of_lt_succ ascii
    rw [String.utf8EncodeChar, if_pos small]
    rfl
  · have same : (Char.ofUInt8 (UInt8.ofNat c.toNat)).toNat = c.toNat := by
      rw [toNat_ofUInt8, UInt8.toNat_ofNat_of_lt']
      exact Nat.lt_trans ascii (by decide)
    exact Char.toNat_inj.mp same

/-- All bytes of any other character lie beyond ASCII. -/
theorem le_of_mem_utf8EncodeChar {c : Char} {byte : UInt8} (wide : ¬c.toNat < 128)
    (member : byte ∈ String.utf8EncodeChar c)
    : 128 ≤ byte.toNat := by
  have large : ¬c.val.toNat ≤ 0x7f := fun small => wide (Nat.lt_succ_of_le small)
  rw [String.utf8EncodeChar, if_neg large] at member
  split at member
  · simp only [List.mem_cons, List.not_mem_nil, or_false] at member
    rcases member with rfl | rfl <;> simp only [UInt8.toNat_ofNat'] <;> omega
  · split at member
    · simp only [List.mem_cons, List.not_mem_nil, or_false] at member
      rcases member with rfl | rfl | rfl <;> simp only [UInt8.toNat_ofNat'] <;> omega
    · simp only [List.mem_cons, List.not_mem_nil, or_false] at member
      rcases member with rfl | rfl | rfl | rfl <;> simp only [UInt8.toNat_ofNat'] <;> omega

/-- Bytes that stand for themselves in a string literal. -/
def IsPlainByte (byte : UInt8) : Prop :=
  Char.ofUInt8 byte ≠ '\"' ∧ Char.ofUInt8 byte ≠ '\\' ∧ ¬byte < 0x20

/-- A character that is not escaped is written in such bytes. -/
theorem isPlainByte_of_mem {c : Char} {byte : UInt8} (quote : c ≠ '\"') (backslash : c ≠ '\\')
    (control : ¬c.toNat < 0x20) (member : byte ∈ String.utf8EncodeChar c)
    : IsPlainByte byte := by
  have size := toNat_ofUInt8 byte
  by_cases ascii : c.toNat < 128
  · obtain ⟨only, encoded, seen⟩ := utf8EncodeChar_of_ascii ascii
    rw [encoded, List.mem_singleton] at member
    subst member
    rw [seen] at size
    rw [IsPlainByte, seen, UInt8.lt_iff_toNat_lt, ← size]
    exact ⟨quote, backslash, control⟩
  · have large := le_of_mem_utf8EncodeChar ascii member
    refine ⟨fun same => ?_, fun same => ?_, fun small => ?_⟩
    · rw [same] at size
      have quote : '\"'.toNat = 34 := rfl
      omega
    · rw [same] at size
      have backslash : '\\'.toNat = 92 := rfl
      omega
    · have below := UInt8.lt_iff_toNat_lt.mp small
      have bound : (0x20 : UInt8).toNat = 32 := rfl
      omega

-----------------------------------------------------------------------------------------
-- The state behind a text
-----------------------------------------------------------------------------------------

namespace Lexer

theorem run?_append (lexer : Lexer) (bytes more : List UInt8)
    : lexer.run? (bytes ++ more) = (lexer.run? bytes).bind (fun next => next.run? more) := by
  induction bytes generalizing lexer with
  | nil => rfl
  | cons byte rest ih =>
      rw [List.cons_append, run?, run?]
      cases lexer.step? byte with
      | none => rfl
      | some next => exact ih next

/-- The text leaves the lexer in this state. -/
def After (text : String) (lexer : Lexer) : Prop :=
  ({} : Lexer).run? (utf8 text) = some lexer

theorem After.append {text more : String} {lexer next : Lexer} (h : After text lexer)
    (read : lexer.run? (utf8 more) = some next)
    : After (text ++ more) next := by
  rw [After, utf8_append, run?_append, h]
  exact read

theorem After.push {text : String} {c : Char} {lexer next : Lexer} (h : After text lexer)
    (read : lexer.run? (String.utf8EncodeChar c) = some next)
    : After (text.push c) next := by
  rw [After, utf8_push, run?_append, h]
  exact read

/-- The text ends behind the last of these tokens. -/
def Between (text : String) (tokens : List (Token (Option String))) : Prop :=
  After text ⟨tokens.reverse, .between⟩

theorem between_empty : Between "" [] := rfl

/-- A character of ASCII is one step. -/
theorem run?_ascii (lexer : Lexer) {c : Char} (ascii : c.toNat < 128)
    : ∃ byte, Char.ofUInt8 byte = c ∧ lexer.run? (String.utf8EncodeChar c) = lexer.step? byte := by
  obtain ⟨byte, encoded, seen⟩ := utf8EncodeChar_of_ascii ascii
  refine ⟨byte, seen, ?_⟩
  rw [encoded, run?]
  cases lexer.step? byte <;> rfl

end Lexer

open Lexer

/-- Behind the last token, or behind a word that is complete, a character that cannot go on with a
word is read as between tokens.
-/
theorem after_push_of_tokens? {text : String} {tokens : List (Token (Option String))}
    (h : tokens? (utf8 text) = some tokens) {c : Char} {next : Lexer} (ascii : c.toNat < 128)
    (other : isWordChar c = false) (read : stepBetween? tokens.reverse c = some next)
    : After (text.push c) next := by
  obtain ⟨lexer, after, finished⟩ := Option.bind_eq_some_iff.mp h
  obtain ⟨byte, seen, step⟩ := lexer.run?_ascii ascii
  refine After.push after (step.trans ?_)
  obtain ⟨earlier, mode⟩ := lexer
  cases mode with
  | between =>
      simp only [finish?, Option.some.injEq] at finished
      rw [step?, seen, ← read, ← finished, List.reverse_reverse]
  | word chars =>
      obtain ⟨token, found, same⟩ := Option.map_eq_some_iff.mp finished
      rw [← same, List.reverse_reverse] at read
      simp [step?, seen, other, found, read]
  | text _ | escape _ | unit _ _ _ => contradiction

theorem tokens?_of_between {text : String} {tokens : List (Token (Option String))}
    (h : Between text tokens)
    : tokens? (utf8 text) = some tokens := by
  refine Option.bind_eq_some_iff.mpr ⟨_, h, ?_⟩
  rw [finish?, List.reverse_reverse]

-----------------------------------------------------------------------------------------
-- Punctuation and words
-----------------------------------------------------------------------------------------

theorem ascii_of_punctuation? {c : Char} {token : Token (Option String)}
    (mark : punctuation? c = some token)
    : c.toNat < 128 ∧ isWordChar c = false := by
  unfold punctuation? at mark
  split at mark
  case h_7 => contradiction
  all_goals decide

/-- A bracket, a comma or a colon is a token of its own. -/
theorem between_push {text : String} {tokens : List (Token (Option String))}
    (h : tokens? (utf8 text) = some tokens) {c : Char} {token : Token (Option String)}
    (mark : punctuation? c = some token)
    : Between (text.push c) (tokens ++ [token]) := by
  obtain ⟨ascii, other⟩ := ascii_of_punctuation? mark
  refine after_push_of_tokens? h ascii other ?_
  simp [stepBetween?, mark]

theorem ne_of_isWordChar {c other : Char} (letter : isWordChar c = true)
    (mark : isWordChar other = false)
    : c ≠ other := by
  intro same
  rw [same, mark] at letter
  contradiction

/-- A character of words starts none of the other tokens. -/
theorem stepBetween?_of_isWordChar {c : Char} (letter : isWordChar c = true)
    (tokens : List (Token (Option String)))
    : stepBetween? tokens c = some ⟨tokens, .word [c]⟩ := by
  have mark : punctuation? c = none := by
    cases found : punctuation? c with
    | none => rfl
    | some token =>
        rw [(ascii_of_punctuation? found).2] at letter
        contradiction
  have blank : isBlank c = false := by
    simp [isBlank, ne_of_isWordChar letter (show isWordChar ' ' = false by decide),
      ne_of_isWordChar letter (show isWordChar '\t' = false by decide),
      ne_of_isWordChar letter (show isWordChar '\n' = false by decide),
      ne_of_isWordChar letter (show isWordChar '\r' = false by decide)]
  have quote : c ≠ '\"' := ne_of_isWordChar letter (by decide)
  simp [stepBetween?, mark, blank, quote, letter]

theorem ascii_of_isAlphanum {c : Char} (h : c.isAlphanum = true) : c.toNat < 128 := by
  rcases Bool.or_eq_true_iff.mp h with alpha | digit
  · rcases Bool.or_eq_true_iff.mp alpha with upper | lower
    · have most := (of_decide_eq_true upper).2
      exact Nat.lt_of_le_of_lt (UInt32.le_iff_toNat_le.mp most) (by decide)
    · have most := of_decide_eq_true (Bool.and_eq_true_iff.mp lower).2
      exact Nat.lt_of_le_of_lt (UInt32.le_iff_toNat_le.mp most) (by decide)
  · have most := of_decide_eq_true (Bool.and_eq_true_iff.mp digit).2
    exact Nat.lt_of_le_of_lt (UInt32.le_iff_toNat_le.mp most) (by decide)

theorem ascii_of_isWordChar {c : Char} (letter : isWordChar c = true) : c.toNat < 128 := by
  simp only [isWordChar, Bool.or_eq_true, beq_iff_eq] at letter
  rcases letter with ((alphanum | rfl) | rfl) | rfl
  · exact ascii_of_isAlphanum alphanum
  · decide
  · decide
  · decide

/-- Inside a word, its characters are collected. -/
theorem run?_word {chars : List Char} (letters : chars.all isWordChar = true)
    (tokens : List (Token (Option String))) (read : List Char)
    : Lexer.run? ⟨tokens, .word read⟩ (chars.flatMap String.utf8EncodeChar)
      = some ⟨tokens, .word (chars.reverse ++ read)⟩ := by
  induction chars generalizing read with
  | nil => rfl
  | cons c rest ih =>
      rw [List.all_cons, Bool.and_eq_true_iff] at letters
      obtain ⟨byte, seen, step⟩ :=
        Lexer.run?_ascii ⟨tokens, .word read⟩ (ascii_of_isWordChar letters.1)
      rw [List.flatMap_cons, run?_append, step]
      simp [step?, seen, letters.1, ih letters.2]

/-- A word is a token once it is complete. -/
theorem tokens?_append_word {text word : String} {tokens : List (Token (Option String))}
    (h : Between text tokens) (letters : word.toList.all isWordChar = true)
    {token : Token (Option String)} (found : wordToken? word.toList = some token)
    : tokens? (utf8 (text ++ word)) = some (tokens ++ [token]) := by
  have read : Lexer.run? ⟨tokens.reverse, .between⟩ (utf8 word)
      = some ⟨tokens.reverse, .word word.toList.reverse⟩ := by
    rw [utf8_eq_flatMap]
    cases chars : word.toList with
    | nil =>
        rw [chars] at found
        contradiction
    | cons c rest =>
        rw [chars, List.all_cons, Bool.and_eq_true_iff] at letters
        obtain ⟨byte, seen, step⟩ :=
          Lexer.run?_ascii ⟨tokens.reverse, .between⟩ (ascii_of_isWordChar letters.1)
        rw [List.flatMap_cons, run?_append, step, step?, seen,
          stepBetween?_of_isWordChar letters.1]
        simp [run?_word letters.2]
  refine Option.bind_eq_some_iff.mpr ⟨_, After.append h read, ?_⟩
  simp [finish?, found]

-----------------------------------------------------------------------------------------
-- String literals
-----------------------------------------------------------------------------------------

/-- The characters that are written as a backslash and one more character. -/
def lettered : List Char :=
  ['\"', '\\', '\x08', '\t', '\n', '\x0c', '\r']

/-- What the lexer finds of a character in a string literal: the other controls are written with the
digits of their code point.
-/
def pieces (c : Char) : List TextPiece :=
  if c.toNat < 0x20 ∧ c ∉ lettered then [.unit c.toNat] else (String.utf8EncodeChar c).map .byte

theorem escapedChar_of_not_mem {c : Char} (other : c ∉ lettered)
    : escapedChar c
      = if c.toNat < 0x20 then ['\\', 'u', '0', '0'] ++ hexByte c.toNat.toUInt8 else [c] := by
  simp only [lettered, List.mem_cons, List.not_mem_nil, or_false, not_or] at other
  simp [escapedChar, other]

/-- Bytes that stand for themselves are collected. -/
theorem run?_plain {bytes : List UInt8} (plain : ∀ byte ∈ bytes, IsPlainByte byte)
    (tokens : List (Token (Option String))) (read : List TextPiece)
    : Lexer.run? ⟨tokens, .text read⟩ bytes
      = some ⟨tokens, .text ((bytes.map .byte).reverse ++ read)⟩ := by
  induction bytes generalizing read with
  | nil => rfl
  | cons byte rest ih =>
      obtain ⟨⟨quote, backslash, control⟩, plain⟩ := List.forall_mem_cons.mp plain
      simp [run?, step?, quote, backslash, control, ih plain]

theorem hexValue?_hexDigit : ∀ value < 16, hexValue? (hexDigit value) = some value := by
  decide

theorem ascii_hexDigit : ∀ value < 16, (hexDigit value).toNat < 128 := by
  decide

/-- The last two digits of an escape end it. -/
theorem run?_hexDigits {high low : Nat} (hh : high < 16) (hl : low < 16)
    (tokens : List (Token (Option String))) (read : List TextPiece)
    : Lexer.run? ⟨tokens, .unit read 1 0⟩
          ([hexDigit high, hexDigit low].flatMap String.utf8EncodeChar)
      = some ⟨tokens, .text (.unit (16 * high + low) :: read)⟩ := by
  obtain ⟨first, seen, step⟩ :=
    Lexer.run?_ascii ⟨tokens, .unit read 1 0⟩ (ascii_hexDigit high hh)
  obtain ⟨second, seen', step'⟩ :=
    Lexer.run?_ascii ⟨tokens, .unit read 0 high⟩ (ascii_hexDigit low hl)
  have more : Lexer.step? ⟨tokens, .unit read 1 0⟩ first = some ⟨tokens, .unit read 0 high⟩ := by
    simp [step?, seen, hexValue?_hexDigit high hh]
  rw [List.flatMap_cons, List.flatMap_singleton, run?_append, step, more, Option.bind_some, step']
  simp [step?, seen', hexValue?_hexDigit low hl]

/-- Inside a string literal the lexer finds a character again, however it is written. -/
theorem run?_escapedChar (c : Char) (tokens : List (Token (Option String)))
    (read : List TextPiece)
    : Lexer.run? ⟨tokens, .text read⟩ ((escapedChar c).flatMap String.utf8EncodeChar)
      = some ⟨tokens, .text ((pieces c).reverse ++ read)⟩ := by
  by_cases letter : c ∈ lettered
  · simp only [lettered, List.mem_cons, List.not_mem_nil, or_false] at letter
    rcases letter with rfl | rfl | rfl | rfl | rfl | rfl | rfl <;> rfl
  · rw [escapedChar_of_not_mem letter, pieces]
    by_cases control : c.toNat < 0x20
    · have byte : c.toNat.toUInt8.toNat = c.toNat := by
        simp
        omega
      have high : c.toNat / 16 < 16 := by omega
      have low : c.toNat % 16 < 16 := by omega
      have whole : 16 * (c.toNat / 16) + c.toNat % 16 = c.toNat := by omega
      have digits := run?_hexDigits high low tokens read
      have lead : Lexer.run? ⟨tokens, .text read⟩
            (['\\', 'u', '0', '0'].flatMap String.utf8EncodeChar)
          = some ⟨tokens, .unit read 1 0⟩ := rfl
      rw [if_pos control, if_pos ⟨control, letter⟩, List.flatMap_append, run?_append, lead,
        Option.bind_some, hexByte, byte, digits, whole]
      rfl
    · have plain : ∀ byte ∈ String.utf8EncodeChar c, IsPlainByte byte := by
        intro byte member
        refine isPlainByte_of_mem ?_ ?_ control member
        · intro same
          exact letter (by simp [lettered, same])
        · intro same
          exact letter (by simp [lettered, same])
      rw [if_neg control, if_neg (fun numbered => control numbered.1), List.flatMap_singleton,
        run?_plain plain]

theorem spellBytes?_bytes (bytes : List UInt8) (spelled : ByteArray) (rest : List TextPiece)
    : spellBytes? spelled (bytes.map .byte ++ rest)
      = spellBytes? (spelled ++ bytes.toByteArray) rest := by
  induction bytes generalizing spelled with
  | nil => simp
  | cons byte more ih =>
      have joined : (byte :: more).toByteArray = [byte].toByteArray ++ more.toByteArray :=
        List.toByteArray_append (l := [byte])
      rw [List.map_cons, List.cons_append, spellBytes?, ih, joined, ← ByteArray.append_assoc,
        ByteArray.append_toByteArray_singleton]

/-- A unit below the surrogates is a character alone, whatever follows it. -/
theorem spellBytes?_unit {value : Nat} (small : value < 0xd800) (spelled : ByteArray)
    (rest : List TextPiece)
    : spellBytes? spelled (.unit value :: rest)
      = spellBytes? (spelled ++ [Char.ofNat value].utf8Encode) rest := by
  have high : isHighSurrogate value = false := by
    simp [isHighSurrogate]
    omega
  have low : isLowSurrogate value = false := by
    simp [isLowSurrogate]
    omega
  rw [← String.toByteArray_singleton]
  rcases rest with _ | ⟨_ | _, _⟩ <;> simp [spellBytes?, high, low]

/-- The pieces of a character spell the character. -/
theorem spellBytes?_pieces (c : Char) (spelled : ByteArray) (rest : List TextPiece)
    : spellBytes? spelled (pieces c ++ rest) = spellBytes? (spelled ++ [c].utf8Encode) rest := by
  unfold pieces
  split
  case isTrue numbered =>
    have small : c.toNat < 0xd800 := Nat.lt_trans numbered.1 (by decide)
    rw [List.singleton_append, spellBytes?_unit small, Char.ofNat_toNat]
  case isFalse =>
    rw [spellBytes?_bytes, List.utf8Encode_singleton]

theorem spellBytes?_flatMap_pieces (chars : List Char) (spelled : ByteArray)
    : spellBytes? spelled (chars.flatMap pieces) = some (spelled ++ chars.utf8Encode) := by
  induction chars generalizing spelled with
  | nil => simp [spellBytes?]
  | cons c rest ih =>
      rw [List.flatMap_cons, spellBytes?_pieces, ih, ByteArray.append_assoc, ← List.utf8Encode_cons]

theorem spell?_flatMap_pieces (text : String)
    : spell? (text.toList.flatMap pieces) = some text := by
  rw [spell?, spellBytes?_flatMap_pieces, ByteArray.empty_append, String.utf8Encode_toList,
    Option.bind_some, String.fromUTF8?, dif_pos text.isValidUTF8]
  rfl

theorem after_foldl_push {out : String} {lexer next : Lexer} {chars : List Char}
    (h : After out lexer) (read : lexer.run? (chars.flatMap String.utf8EncodeChar) = some next)
    : After (chars.foldl String.push out) next := by
  induction chars generalizing out lexer with
  | nil =>
      cases read
      exact h
  | cons c rest ih =>
      rw [List.flatMap_cons, run?_append] at read
      obtain ⟨middle, first, read⟩ := Option.bind_eq_some_iff.mp read
      exact ih (h.push first) read

/-- The lexer collects the characters of a literal one by one. -/
theorem after_foldl_escapedChar {out : String} {tokens : List (Token (Option String))}
    {read : List TextPiece} (h : After out ⟨tokens, .text read⟩) (chars : List Char)
    : After (chars.foldl (fun out c => (escapedChar c).foldl String.push out) out)
        ⟨tokens, .text ((chars.flatMap pieces).reverse ++ read)⟩ := by
  induction chars generalizing out read with
  | nil => exact h
  | cons c rest ih =>
      have next := ih (after_foldl_push h (run?_escapedChar c tokens read))
      rw [List.flatMap_cons, List.reverse_append, List.append_assoc]
      exact next

/-- A written literal is one token, which holds the text. -/
theorem between_writeLiteral {out : String} {tokens : List (Token (Option String))}
    (h : tokens? (utf8 out) = some tokens) (text : String)
    : Between (writeLiteral out text) (tokens ++ [.text (some text)]) := by
  have opened : After (out.push '\"') ⟨tokens.reverse, .text []⟩ :=
    after_push_of_tokens? h (by decide) (by decide) rfl
  refine After.push (after_foldl_escapedChar opened text.toList) ?_
  have close : Lexer.run? ⟨tokens.reverse, .text ((text.toList.flatMap pieces).reverse ++ [])⟩
        (String.utf8EncodeChar '\"')
      = some ⟨.text (spell? ((text.toList.flatMap pieces).reverse ++ []).reverse) :: tokens.reverse,
          .between⟩ := rfl
  rw [close, List.append_nil, List.reverse_reverse, spell?_flatMap_pieces]
  simp

end Json

end VmToolchain
