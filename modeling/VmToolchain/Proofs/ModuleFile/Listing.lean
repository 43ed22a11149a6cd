import Mathlib.Data.List.Forall2
import VmToolchain.ModuleFile.Dump
import VmToolchain.Proofs.Display

/-! What the listing of a module tells. Its lines are told apart by their line feeds, the line of a
chunk is read column by column, and the section for the header says nothing that the line of the
header chunk does not say. So a listing tells the kinds, the lengths and the first bytes of the
chunks, and no more.
-/

namespace VmToolchain

open Text

-----------------------------------------------------------------------------------------
-- The lines of a listing
-----------------------------------------------------------------------------------------

namespace Palette

theorem selected_plain (code text : String)
    : plain.sequence code ++ text ++ plain.reset = text :=
  String.append_empty.trans String.empty_append

theorem kind_plain (text : String) : plain.kind text = text := selected_plain _ text

theorem value_plain (text : String) : plain.value text = text := selected_plain _ text

theorem muted_plain (text : String) : plain.muted text = text := selected_plain _ text

end Palette

namespace Chunk

/-- The last column of a line, which is missing where there are no bytes. -/
def shownBytes (chunk : Chunk) : String :=
  if chunk.payload.isEmpty then "" else "  " ++ chunk.preview

/-- The line for a chunk, without colours and without its line feed. -/
def listed (indexWidth index : Nat) (chunk : Chunk) : String :=
  padLeft '0' indexWidth index.repr ++ " " ++ padRight 20 chunk.kind.name ++ " "
    ++ padLeft ' ' 5 chunk.payload.length.repr ++ chunk.shownBytes

theorem dumpLine_plain (indexWidth index : Nat) (chunk : Chunk)
    : chunk.dumpLine .plain indexWidth index = chunk.listed indexWidth index ++ "\n" := by
  rw [dumpLine, listed, Palette.kind_plain, Palette.muted_plain, shownBytes]

end Chunk

/-- The lines of the section for a header, and a blank one. -/
def FileHeader.listed : Except ModuleError FileHeader → List String
  | .error error => ["[header]", "unreadable: " ++ error.message, ""]
  | .ok header =>
      ["[header]", "magic   = " ++ quoted (String.ofList (header.magic.toList.map Char.ofUInt8)),
        "version = " ++ header.version.toNat.repr, ""]

namespace ModuleFile

def headerLines (file : ModuleFile) : List String :=
  file.header?.toList.flatMap FileHeader.listed

def chunkLines (file : ModuleFile) : List String :=
  file.chunks.zipIdx.map
    (fun entry => entry.1.listed (file.chunks.length - 1).repr.length entry.2)

theorem dumpHeader_plain (file : ModuleFile)
    : file.dumpHeader .plain = terminated file.headerLines := by
  unfold dumpHeader headerLines
  cases file.header? with
  | none => rfl
  | some decoded =>
      cases decoded <;>
        simp [FileHeader.listed, terminated, Palette.kind_plain, Palette.value_plain,
          Palette.muted_plain, String.append_assoc, -String.reduceAppend]

/-- A listing is made of lines: those of the header, a title, and those of the chunks. -/
theorem dump_plain (file : ModuleFile)
    : file.dump .plain = terminated (file.headerLines ++ "[chunks]" :: file.chunkLines) := by
  have lines : file.chunks.zipIdx.map
        (fun entry =>
          entry.1.dumpLine .plain (file.chunks.length - 1).repr.length entry.2)
      = file.chunkLines.map (· ++ "\n") := by
    rw [chunkLines, List.map_map]
    exact List.map_congr_left (fun entry _ => entry.1.dumpLine_plain _ entry.2)
  rw [terminated_append, terminated_cons, ← dumpHeader_plain, terminated, ← lines, dump,
    Palette.kind_plain, String.append_assoc, String.append_assoc, String.append_assoc]

end ModuleFile

-----------------------------------------------------------------------------------------
-- Telling lines apart
-----------------------------------------------------------------------------------------

theorem FileHeader.noControls_listed (payload : List UInt8)
    : ∀ line ∈ listed (decode payload), NoControls line := by
  intro line member
  cases decoded : decode payload with
  | error error =>
      have message := noControls_message_of_decode decoded
      simp only [decoded, listed, List.mem_cons, List.not_mem_nil, or_false] at member
      rcases member with rfl | rfl | rfl
      · decide
      · exact noControls_append.mpr ⟨by decide, message⟩
      · decide
  | ok header =>
      simp only [decoded, listed, List.mem_cons, List.not_mem_nil, or_false] at member
      rcases member with rfl | rfl | rfl | rfl
      · decide
      · exact noControls_append.mpr ⟨by decide, noControls_quoted _⟩
      · exact noControls_append.mpr ⟨by decide, noControls_repr _⟩
      · decide

theorem FileHeader.title_not_mem_listed (decoded : Except ModuleError FileHeader)
    : "[chunks]" ∉ listed decoded := by
  cases decoded <;> simp [listed, ← String.toList_inj]

theorem Chunk.noControls_listed (indexWidth index : Nat) (chunk : Chunk)
    : NoControls (chunk.listed indexWidth index) := by
  have position : NoControls (padLeft '0' indexWidth index.repr) :=
    noControls_padLeft (by decide) (noControls_repr index) indexWidth
  have kind : NoControls (padRight 20 chunk.kind.name) :=
    noControls_padRight chunk.kind.noControls_name 20
  have length : NoControls (padLeft ' ' 5 chunk.payload.length.repr) :=
    noControls_padLeft (by decide) (noControls_repr _) 5
  have bytes : NoControls chunk.shownBytes := by
    unfold shownBytes
    split
    · decide
    · exact noControls_append.mpr ⟨by decide, chunk.noControls_preview⟩
  simp only [listed, noControls_append]
  exact ⟨⟨⟨⟨⟨position, by decide⟩, kind⟩, by decide⟩, length⟩, bytes⟩

namespace ModuleFile

theorem onOneLine_lines (file : ModuleFile)
    : ∀ line ∈ file.headerLines ++ "[chunks]" :: file.chunkLines, OnOneLine line := by
  intro line member
  rcases List.mem_append.mp member with header | chunks
  · obtain ⟨decoded, present, listed⟩ := List.mem_flatMap.mp header
    obtain ⟨payload, _, rfl⟩ := Option.map_eq_some_iff.mp (Option.mem_toList.mp present)
    exact (FileHeader.noControls_listed payload line listed).onOneLine
  · rcases List.mem_cons.mp chunks with rfl | listed
    · decide
    · obtain ⟨entry, _, rfl⟩ := List.mem_map.mp listed
      exact (entry.1.noControls_listed _ entry.2).onOneLine

theorem title_not_mem_headerLines (file : ModuleFile) : "[chunks]" ∉ file.headerLines := by
  intro member
  obtain ⟨decoded, _, listed⟩ := List.mem_flatMap.mp member
  exact FileHeader.title_not_mem_listed decoded listed

/-- The title parts the lines of the chunks from those before. -/
theorem dropWhile_lines (file : ModuleFile)
    : (file.headerLines ++ "[chunks]" :: file.chunkLines).dropWhile (· != "[chunks]")
      = "[chunks]" :: file.chunkLines := by
  rw [List.dropWhile_append_of_pos, List.dropWhile_cons_of_neg (by simp)]
  intro line member
  rw [bne_iff_ne]
  rintro rfl
  exact file.title_not_mem_headerLines member

theorem chunkLines_of_dump {file other : ModuleFile} (same : file.dump .plain = other.dump .plain)
    : file.chunkLines = other.chunkLines := by
  rw [dump_plain, dump_plain, terminated_inj file.onOneLine_lines other.onOneLine_lines] at same
  have behind := congrArg (List.dropWhile (· != "[chunks]")) same
  rw [dropWhile_lines, dropWhile_lines] at behind
  exact List.tail_eq_of_cons_eq behind

end ModuleFile

-----------------------------------------------------------------------------------------
-- Reading the line of a chunk
-----------------------------------------------------------------------------------------

/-- The kind is read back from its column. -/
theorem ChunkKind.ofName?_column (kind : ChunkKind)
    : ofName? (String.ofList ((padRight 20 kind.name).toList.takeWhile (· != ' '))) = some kind := by
  cases kind <;> decide

theorem ChunkKind.length_column (kind : ChunkKind) : (padRight 20 kind.name).toList.length = 20 := by
  have fits : kind.name.length ≤ 20 := by
    cases kind <;> decide
  rw [padRight, repeated, String.toList_append, String.toList_ofList, List.length_append,
    List.length_replicate, String.length_toList]
  omega

theorem toDigits_inj {m n : Nat} : Nat.toDigits 10 m = Nat.toDigits 10 n ↔ m = n := by
  refine ⟨fun same => ?_, congrArg (Nat.toDigits 10)⟩
  rw [← foldl_toDigits m, same, foldl_toDigits]

/-- The digits of a number are read back from its column, unless more digits follow. -/
theorem digits_of_column {rest : List Char} (stop : rest.head?.all (!·.isDigit) = true)
    (width n : Nat)
    : (((padLeft ' ' width n.repr).toList ++ rest).dropWhile (· == ' ')).takeWhile Char.isDigit
      = Nat.toDigits 10 n := by
  have chars : (padLeft ' ' width n.repr).toList
      = List.replicate (width - n.repr.length) ' ' ++ Nat.toDigits 10 n := by
    rw [padLeft, repeated, String.toList_append, String.toList_ofList, Nat.toList_repr]
  have digits : ∀ c ∈ Nat.toDigits 10 n, c.isDigit = true := fun c => isDigit_of_mem_toDigits
  have behind : rest.takeWhile Char.isDigit = [] := by
    cases rest with
    | nil => rfl
    | cons c rest => exact List.takeWhile_cons_of_neg (by simpa using stop)
  have ink : (Nat.toDigits 10 n ++ rest).dropWhile (· == ' ') = Nat.toDigits 10 n ++ rest := by
    cases written : Nat.toDigits 10 n with
    | nil => exact absurd written Nat.toDigits_ne_nil
    | cons c more =>
        rw [written] at digits
        refine List.dropWhile_cons_of_neg ?_
        rw [beq_iff_eq]
        rintro rfl
        exact absurd (digits ' ' List.mem_cons_self) (by decide)
  rw [chars, List.append_assoc, List.dropWhile_append_of_pos (by simp), ink,
    List.takeWhile_append_of_pos digits, behind, List.append_nil]

theorem hexByte_inj {byte other : UInt8} : hexByte byte = hexByte other ↔ byte = other := by
  refine ⟨fun same => ?_, congrArg hexByte⟩
  have read {m n : Nat} (hm : m < 16) (hn : n < 16) (same : hexDigit m = hexDigit n) : m = n := by
    have values := congrArg hexValue? same
    rwa [Json.hexValue?_hexDigit m hm, Json.hexValue?_hexDigit n hn, Option.some.injEq] at values
  have small := byte.toNat_lt
  have small' := other.toNat_lt
  simp only [hexByte, List.cons.injEq, and_true] at same
  have high := read (by omega) (by omega) same.1
  have low := read (by omega) (by omega) same.2
  refine UInt8.toNat_inj.mp ?_
  omega

/-- Bytes are read back from their digits, which blanks part. -/
theorem splitOn_hexBytes {bytes : List UInt8} (filled : bytes ≠ [])
    : (" ".intercalate (bytes.map (fun byte => String.ofList (hexByte byte)))).toList.splitOn ' '
      = bytes.map hexByte := by
  have chars : (" ".intercalate (bytes.map (fun byte => String.ofList (hexByte byte)))).toList
      = [' '].intercalate (bytes.map hexByte) := by
    rw [String.toList_intercalate, List.map_map]
    simp only [Function.comp_def, String.toList_ofList]
    rfl
  have solid : ∀ digits ∈ bytes.map hexByte, ' ' ∉ digits := by
    intro digits member blank
    obtain ⟨byte, _, rfl⟩ := List.mem_map.mp member
    exact forall_mem_hexByte (p := (· ≠ ' ')) (by decide) byte ' ' blank rfl
  rw [chars, List.splitOn_intercalate ' ' solid (by simpa using filled)]

namespace Chunk

/-- The chunks are of the same kind and length, and they start with the same bytes, sixteen at most. -/
structure LooksLike (chunk other : Chunk) : Prop where
  kind : chunk.kind = other.kind
  length : chunk.payload.length = other.payload.length
  start : chunk.payload.take 16 = other.payload.take 16

/-- Of payloads that are as long as each other, the preview tells the first bytes. -/
theorem preview_inj {chunk other : Chunk} (filled : chunk.payload ≠ [])
    (length : chunk.payload.length = other.payload.length)
    : chunk.preview = other.preview ↔ chunk.payload.take 16 = other.payload.take 16 := by
  have filled' : other.payload ≠ [] := by
    rw [← List.length_pos_iff, ← length, List.length_pos_iff]
    exact filled
  rw [preview, preview, length, String.append_left_inj, previewSize]
  refine ⟨fun same => ?_, fun same => by rw [same]⟩
  have shown : chunk.payload.take 16 ≠ [] := by simpa using filled
  have shown' : other.payload.take 16 ≠ [] := by simpa using filled'
  have pieces := splitOn_hexBytes shown
  rw [same, splitOn_hexBytes shown'] at pieces
  exact (List.map_injective_iff.mpr (fun _ _ => hexByte_inj.mp) pieces).symm

theorem shownBytes_inj {chunk other : Chunk}
    (length : chunk.payload.length = other.payload.length)
    : chunk.shownBytes = other.shownBytes ↔ chunk.payload.take 16 = other.payload.take 16 := by
  have both : other.payload = [] ↔ chunk.payload = [] := by
    rw [← List.length_eq_zero_iff, ← length, List.length_eq_zero_iff]
  by_cases empty : chunk.payload = []
  · have empty' := both.mpr empty
    simp [shownBytes, empty, empty']
  · have filled := mt both.mp empty
    simp [shownBytes, empty, filled, preview_inj empty length]

theorem head?_shownBytes (chunk : Chunk)
    : chunk.shownBytes.toList.head?.all (!·.isDigit) = true := by
  unfold shownBytes
  split <;> simp

/-- At the same place, two chunks have the same line when they look alike. -/
theorem listed_inj {indexWidth index : Nat} {chunk other : Chunk}
    : chunk.listed indexWidth index = other.listed indexWidth index ↔ chunk.LooksLike other := by
  constructor
  · intro same
    simp only [listed, ← String.toList_inj, String.toList_append, List.append_assoc,
      List.append_right_inj] at same
    obtain ⟨names, same⟩ := List.append_inj same
      (chunk.kind.length_column.trans other.kind.length_column.symm)
    have kind : chunk.kind = other.kind := by
      have read := chunk.kind.ofName?_column
      rw [names, other.kind.ofName?_column, Option.some.injEq] at read
      exact read.symm
    rw [List.append_right_inj] at same
    have length : chunk.payload.length = other.payload.length := by
      have digits := digits_of_column chunk.head?_shownBytes 5 chunk.payload.length
      rw [same, digits_of_column other.head?_shownBytes, toDigits_inj] at digits
      exact digits.symm
    rw [length, List.append_right_inj, String.toList_inj, shownBytes_inj length] at same
    exact ⟨kind, length, same⟩
  · rintro ⟨kind, length, start⟩
    rw [listed, kind, length, (shownBytes_inj length).mpr start, listed]

end Chunk

/-- The header is read from what a listing tells of its chunk: a payload that is not shown whole is
too long to be one.
-/
theorem FileHeader.decode_congr {payload other : List UInt8}
    (length : payload.length = other.length) (start : payload.take 16 = other.take 16)
    : decode payload = decode other := by
  by_cases fits : payload.length = size
  · have whole : payload.take 16 = payload := List.take_of_length_le (by simp [fits, size])
    have whole' : other.take 16 = other := List.take_of_length_le (by simp [← length, fits, size])
    rw [← whole, start, whole']
  · have fits' : other.length ≠ size := by rwa [← length]
    rw [decode, if_pos fits, decode, if_pos fits', length]

namespace ModuleFile

variable {file other : ModuleFile}

theorem header?_congr (h : List.Forall₂ Chunk.LooksLike file.chunks other.chunks)
    : file.header? = other.header? := by
  have found {chunks others : List Chunk} (h : List.Forall₂ Chunk.LooksLike chunks others)
      : ((chunks.find? (fun chunk => chunk.kind == .fileHeader)).map Chunk.payload).map
            FileHeader.decode
        = ((others.find? (fun chunk => chunk.kind == .fileHeader)).map Chunk.payload).map
            FileHeader.decode := by
    induction h with
    | nil => rfl
    | @cons chunk other _ _ alike _ ih =>
        rw [List.find?_cons, List.find?_cons, alike.kind]
        split
        · exact congrArg some (FileHeader.decode_congr alike.length alike.start)
        · exact ih
  exact found h

/-- Lines from the same place on, with positions of the same width, by induction on the chunks. -/
theorem map_listed_inj {indexWidth start : Nat} {chunks others : List Chunk}
    : (chunks.zipIdx start).map (fun entry => entry.1.listed indexWidth entry.2)
        = (others.zipIdx start).map (fun entry => entry.1.listed indexWidth entry.2)
      ↔ List.Forall₂ Chunk.LooksLike chunks others := by
  induction chunks generalizing start others with
  | nil => cases others <;> simp
  | cons chunk rest ih =>
      cases others with
      | nil => simp
      | cons other others =>
          rw [List.zipIdx_cons, List.zipIdx_cons, List.map_cons, List.map_cons, List.cons.injEq,
            Chunk.listed_inj, ih, List.forall₂_cons]

theorem chunkLines_inj
    : file.chunkLines = other.chunkLines
      ↔ List.Forall₂ Chunk.LooksLike file.chunks other.chunks := by
  -- Positions are as wide as the number of chunks asks for, so this number is compared first.
  constructor
  · intro same
    have count : file.chunks.length = other.chunks.length := by
      simpa [chunkLines] using congrArg List.length same
    rw [chunkLines, chunkLines, count, map_listed_inj] at same
    exact same
  · intro alike
    rw [chunkLines, chunkLines, alike.length_eq, map_listed_inj]
    exact alike

/-- A listing shows the kinds, the lengths and the first sixteen bytes of the chunks, and nothing
else. Two modules have the same listing exactly when they have the same number of chunks and, place
by place, chunks of the same kind and length that start with the same bytes.
-/
theorem dump_shows_kinds_lengths_and_starts (file other : ModuleFile)
    : file.dump .plain = other.dump .plain
      ↔ List.Forall₂ Chunk.LooksLike file.chunks other.chunks := by
  constructor
  · intro same
    exact chunkLines_inj.mp (chunkLines_of_dump same)
  · intro alike
    rw [dump_plain, dump_plain, headerLines, headerLines, header?_congr alike,
      chunkLines_inj.mpr alike]

end ModuleFile

end VmToolchain
