import Mathlib.Data.List.Forall2
import VmToolchain.Command.Basic

/-! Which texts name a chunk and its file. The part before the first equals sign must spell the name
of a kind, where ASCII letters may be of either case and a hyphen may stand for a line; all behind
the sign is the path.
-/

namespace VmToolchain

-----------------------------------------------------------------------------------------
-- Spellings of a name
-----------------------------------------------------------------------------------------

namespace Text

/-- The first character is an ASCII capital, and the second is its small form. -/
def IsCapitalOf (capital small : Char) : Prop :=
  'A' ≤ capital ∧ capital ≤ 'Z' ∧ small.toNat = capital.toNat + 32

/-- The characters are the same up to the case of ASCII letters. -/
def SameUpToCase (a b : Char) : Prop :=
  a = b ∨ IsCapitalOf a b ∨ IsCapitalOf b a

end Text

namespace ChunkKind

/-- The character may be written for this letter of a kind's name: a letter in either case, and a
hyphen for a line.
-/
def StandsFor (written letter : Char) : Prop :=
  Text.SameUpToCase written letter ∨ written = '-' ∧ letter = '_'

/-- The name is that of the kind, character by character. -/
def SpelledAs (kind : ChunkKind) (name : String) : Prop :=
  List.Forall₂ StandsFor name.toList kind.name.toList

/-- Only small ASCII letters are raised. -/
theorem toNat_normalizeChar (c : Char)
    : (normalizeChar c).toNat
      = if c.toNat = 45 then 95
        else if 97 ≤ c.toNat ∧ c.toNat ≤ 122 then c.toNat - 32
        else c.toNat := by
  by_cases hyphen : c = '-'
  · subst hyphen
    rfl
  · have other : c.toNat ≠ 45 := fun same => hyphen (Char.toNat_inj.mp same)
    rw [normalizeChar, if_neg hyphen, if_neg other]
    split
    · next small =>
        have capitals : ∀ n < 26, (Char.ofNat (97 + n)).toUpper.toNat = 65 + n := by decide
        have raised := capitals (c.toNat - 97) (by omega)
        rw [Nat.add_sub_cancel' small.1, Char.ofNat_toNat] at raised
        omega
    · next other =>
        have kept : c.toUpper = c := dif_neg other
        rw [kept]

/-- For a letter of a kind's name, the characters that are read as it are those that may be written
for it.
-/
theorem normalizeChar_eq_iff {c letter : Char}
    (h : 65 ≤ letter.toNat ∧ letter.toNat ≤ 90 ∨ letter.toNat = 95)
    : normalizeChar c = letter ↔ StandsFor c letter := by
  have numbers : StandsFor c letter
      ↔ (c.toNat = letter.toNat
          ∨ (65 ≤ c.toNat ∧ c.toNat ≤ 90 ∧ letter.toNat = c.toNat + 32)
          ∨ (65 ≤ letter.toNat ∧ letter.toNat ≤ 90 ∧ c.toNat = letter.toNat + 32))
        ∨ c.toNat = 45 ∧ letter.toNat = 95 := by
    rw [StandsFor, Text.SameUpToCase, ← Char.toNat_inj, ← Char.toNat_inj, ← Char.toNat_inj]
    exact Iff.rfl
  rw [← Char.toNat_inj, toNat_normalizeChar, numbers]
  split
  · omega
  · split <;> omega

theorem letters_of_name (kind : ChunkKind)
    : ∀ letter ∈ kind.name.toList,
        65 ≤ letter.toNat ∧ letter.toNat ≤ 90 ∨ letter.toNat = 95 := by
  have checked : kind.name.toList.all (fun letter =>
      decide (65 ≤ letter.toNat ∧ letter.toNat ≤ 90 ∨ letter.toNat = 95)) = true := by
    cases kind <;> rfl
  intro letter member
  exact of_decide_eq_true (List.all_eq_true.mp checked letter member)

/-- A name is read as the letters of a kind exactly when it spells them. -/
theorem map_normalizeChar_eq_iff {kind : ChunkKind} {name : String}
    : name.toList.map normalizeChar = kind.name.toList ↔ kind.SpelledAs name := by
  have pointwise {chars letters : List Char}
      (h : ∀ letter ∈ letters, 65 ≤ letter.toNat ∧ letter.toNat ≤ 90 ∨ letter.toNat = 95)
      : chars.map normalizeChar = letters ↔ List.Forall₂ StandsFor chars letters := by
    induction letters generalizing chars with
    | nil => rw [List.map_eq_nil_iff, List.forall₂_nil_right_iff]
    | cons letter rest ih =>
        obtain ⟨head, tail⟩ := List.forall_mem_cons.mp h
        rw [List.map_eq_cons_iff, List.forall₂_cons_right_iff]
        simp only [normalizeChar_eq_iff head, ih tail]
        constructor
        · rintro ⟨c, chars, rfl, first, later⟩
          exact ⟨c, chars, first, later, rfl⟩
        · rintro ⟨c, chars, first, later, rfl⟩
          exact ⟨c, chars, rfl, first, later⟩
  exact pointwise kind.letters_of_name

/-- A name belongs to a kind when it spells the kind's own. -/
theorem ofName?_eq_some_iff {name : String} {kind : ChunkKind}
    : ofName? name = some kind ↔ kind.SpelledAs name := by
  rw [← map_normalizeChar_eq_iff]
  constructor
  · intro found
    have same := List.find?_some found
    exact (eq_of_beq same).symm
  · intro same
    rw [ofName?, same]
    cases kind <;> decide

end ChunkKind

-----------------------------------------------------------------------------------------
-- A name and a path
-----------------------------------------------------------------------------------------

namespace ChunkSpec

/-- The text is a spelling of the kind's name, an equals sign and the path, which is not empty. The
spelling itself holds no such sign.
-/
def WrittenAs (spec : ChunkSpec) (text : String) : Prop :=
  spec.path ≠ ""
  ∧ ∃ name, '=' ∉ name.toList ∧ spec.kind.SpelledAs name ∧ text = name ++ "=" ++ spec.path

/-- The parts of a text on both sides of its first equals sign. -/
theorem separated_iff {text name path : String}
    : '=' ∉ name.toList ∧ text = name ++ "=" ++ path
      ↔ text.toList.takeWhile (· != '=') = name.toList
        ∧ text.toList.dropWhile (· != '=') = '=' :: path.toList := by
  constructor
  · rintro ⟨free, rfl⟩
    have chars : (name ++ "=" ++ path).toList = name.toList ++ '=' :: path.toList := by
      rw [String.toList_append, String.toList_append, List.append_assoc]
      rfl
    have before : ∀ c ∈ name.toList, (c != '=') = true := by
      intro c member
      rw [bne_iff_ne]
      rintro rfl
      exact free member
    rw [chars, List.takeWhile_append_of_pos before, List.dropWhile_append_of_pos before]
    simp
  · rintro ⟨before, behind⟩
    constructor
    · intro member
      rw [← before] at member
      have other := List.all_eq_true.mp List.all_takeWhile _ member
      contradiction
    · have whole := List.takeWhile_append_dropWhile (p := (· != '=')) (l := text.toList)
      rw [before, behind] at whole
      rw [← String.toList_inj, ← whole, String.toList_append, String.toList_append,
        List.append_assoc]
      rfl

theorem dropWhile_eq_cons {chars rest : List Char} {first : Char}
    (h : chars.dropWhile (· != '=') = first :: rest)
    : first = '=' := by
  have stop := List.head?_dropWhile_not (· != '=') chars
  rw [h] at stop
  simpa using stop

/-- What reading takes from a text that it accepts. -/
theorem parse_eq_ok_iff {text : String} {spec : ChunkSpec}
    : parse text = .ok spec
      ↔ spec.path ≠ ""
        ∧ ChunkKind.ofName? (String.ofList (text.toList.takeWhile (· != '='))) = some spec.kind
        ∧ text.toList.dropWhile (· != '=') = '=' :: spec.path.toList := by
  unfold parse
  split
  · next none => simp [none]
  · next first path behind =>
      obtain rfl := dropWhile_eq_cons behind
      rw [behind]
      dsimp only
      cases ChunkKind.ofName? (String.ofList (text.toList.takeWhile (· != '='))) with
      | none => simp
      | some kind =>
          cases path with
          | nil =>
              refine iff_of_false (by simp) ?_
              rintro ⟨nonempty, _, chars⟩
              have empty := (List.tail_eq_of_cons_eq chars).symm
              exact nonempty (String.toList_eq_nil_iff.mp empty)
          | cons c rest =>
              obtain ⟨wanted, file⟩ := spec
              constructor
              · intro accepted
                cases accepted
                exact ⟨by simp [← String.toList_inj], rfl, by rw [String.toList_ofList]⟩
              · rintro ⟨_, same, chars⟩
                cases same
                have path : c :: rest = file.toList := List.tail_eq_of_cons_eq chars
                have same : String.ofList (c :: rest) = file := by
                  rw [path, String.ofList_toList]
                rw [← same]
                rfl

/-- Reading accepts just what is written, and takes from it what is written there. -/
theorem parse_eq_ok_iff_writtenAs {text : String} {spec : ChunkSpec}
    : parse text = .ok spec ↔ spec.WrittenAs text := by
  rw [parse_eq_ok_iff, WrittenAs]
  refine and_congr_right (fun _ => ?_)
  constructor
  · rintro ⟨named, behind⟩
    have before := (String.toList_ofList (l := text.toList.takeWhile (· != '='))).symm
    obtain ⟨free, whole⟩ := separated_iff.mpr ⟨before, behind⟩
    exact ⟨_, free, ChunkKind.ofName?_eq_some_iff.mp named, whole⟩
  · rintro ⟨name, free, spelled, whole⟩
    obtain ⟨before, behind⟩ := separated_iff.mp ⟨free, whole⟩
    refine ⟨?_, behind⟩
    rw [before, String.ofList_toList]
    exact ChunkKind.ofName?_eq_some_iff.mpr spelled

/-- Chunk specifications are read exactly. A text is accepted with a kind and a path just when the
path is not empty and stands behind a spelling of the kind's name and an equals sign. No text is
written for two specifications, and the path of one that is accepted is all that comes behind the
first equals sign, with the signs in it.
-/
theorem parse_accepts_exactly_written (text : String)
    : (∀ kind path, parse text = .ok ⟨kind, path⟩ ↔ WrittenAs ⟨kind, path⟩ text)
      ∧ (∀ spec other : ChunkSpec, spec.WrittenAs text → other.WrittenAs text → spec = other)
      ∧ ∀ name rest spec,
          '=' ∉ name.toList
          → text = name ++ "=" ++ rest
          → parse text = .ok spec
          → spec.path = rest := by
  refine ⟨fun _ _ => parse_eq_ok_iff_writtenAs, ?_, ?_⟩
  · intro spec other first second
    rw [← parse_eq_ok_iff_writtenAs] at first second
    cases first.symm.trans second
    rfl
  · intro name rest spec free whole accepted
    obtain ⟨_, _, behind⟩ := parse_eq_ok_iff.mp accepted
    rw [(separated_iff.mp ⟨free, whole⟩).2] at behind
    exact (String.toList_inj.mp (List.tail_eq_of_cons_eq behind)).symm

theorem parse_accepts_exactly_written_of_two_signs
    : '=' ∉ "Jump-TABLE".toList
      ∧ parse "Jump-TABLE=a=b" = .ok ⟨.jumpTable, "a=b"⟩
      ∧ WrittenAs ⟨.jumpTable, "a=b"⟩ "Jump-TABLE=a=b"
      ∧ ∀ spec, parse "Jump-TABLE=a=b" = .ok spec → spec.path = "a=b" := by
  obtain ⟨accepts, _, behind⟩ := parse_accepts_exactly_written "Jump-TABLE=a=b"
  refine ⟨by decide, by decide, (accepts _ _).mp (by decide), fun spec => ?_⟩
  exact behind "Jump-TABLE" "a=b" spec (by decide) (by decide)

/-- A letter beyond ASCII is not read as its ASCII capital. -/
example : parse "inſtructions=a" = .error (.unknownKind "inſtructions") := by
  decide

end ChunkSpec

end VmToolchain
