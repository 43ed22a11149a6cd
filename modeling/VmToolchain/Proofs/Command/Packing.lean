import Mathlib.Data.List.Forall2
import VmToolchain.Proofs.Command.Atomicity
import VmToolchain.Proofs.ModuleFile.Building

/-! The module that the pack command makes. Files are read and added one by one, so the first of
them that cannot be added decides how the command fails; where all can be, the module holds just
what the command names, with the header in front.
-/

namespace VmToolchain

namespace Command

-----------------------------------------------------------------------------------------
-- What a command names
-----------------------------------------------------------------------------------------

/-- A module can be made: every file can be read, no kind is named twice, and none of the files is a
header if there is one from the start.
-/
structure Packable (files : FileMap) (header : Bool) (specs : List ChunkSpec) : Prop where
  readable : ∀ spec ∈ specs, ∃ payload, files spec.path = .ok payload
  distinct : (specs.map ChunkSpec.kind).Nodup
  oneHeader : header = true → .fileHeader ∉ specs.map ChunkSpec.kind

/-- No file that is named is too large for a chunk. -/
def Small (files : FileMap) (specs : List ChunkSpec) : Prop :=
  ∀ spec ∈ specs, ∀ payload, files spec.path = .ok payload → payload.length ≤ maxPayload

/-- The kinds that are there once these are added. -/
def heldKinds (header : Bool) (added : List ChunkKind) : List ChunkKind :=
  (if header then [.fileHeader] else []) ++ added

/-- The chunk has the kind that is named, and the contents of the file. -/
def MadeOf (files : FileMap) (spec : ChunkSpec) (chunk : Chunk) : Prop :=
  chunk.kind = spec.kind ∧ files spec.path = .ok chunk.payload

/-- How the command fails at a file: it cannot be read, or it can and its kind is there from the
start or from an earlier one. The failure names the file's path.
-/
inductive FailsAt (files : FileMap) (header : Bool) (earlier : List ChunkSpec) (spec : ChunkSpec)
    : CommandFailure → Prop where
  | unreadable {error : FileError}
    : files spec.path = .error error → FailsAt files header earlier spec (.file spec.path error)
  | repeated {payload : List UInt8}
    : files spec.path = .ok payload
      → spec.kind ∈ heldKinds header (earlier.map ChunkSpec.kind)
      → FailsAt files header earlier spec (.moduleFile spec.path (.duplicateChunk spec.kind))

/-- The chunks in the order of a module: first the current header or, if there is none from the
start, the one among the chunks; then the others.
-/
def arranged (header : Bool) (chunks : List Chunk) : List Chunk :=
  (if header then [⟨.fileHeader, FileHeader.current.encode⟩]
    else chunks.filter (fun chunk => chunk.kind.isHeader))
  ++ chunks.filter (fun chunk => !chunk.kind.isHeader)

theorem packable_iff {files : FileMap} {header : Bool} {specs : List ChunkSpec}
    : Packable files header specs
      ↔ (∀ spec ∈ specs, ∃ payload, files spec.path = .ok payload)
        ∧ (heldKinds header (specs.map ChunkSpec.kind)).Nodup := by
  have kinds : (heldKinds header (specs.map ChunkSpec.kind)).Nodup
      ↔ (specs.map ChunkSpec.kind).Nodup
        ∧ (header = true → .fileHeader ∉ specs.map ChunkSpec.kind) := by
    cases header with
    | false => simp [heldKinds]
    | true => simp [heldKinds, and_comm]
  rw [kinds]
  exact ⟨fun h => ⟨h.readable, h.distinct, h.oneHeader⟩, fun h => ⟨h.1, h.2.1, h.2.2⟩⟩

/-- One more file can be added when it can be read and its kind is new. -/
theorem packable_concat_iff {files : FileMap} {header : Bool} {earlier : List ChunkSpec}
    {spec : ChunkSpec}
    : Packable files header (earlier ++ [spec])
      ↔ Packable files header earlier
        ∧ (∃ payload, files spec.path = .ok payload)
        ∧ spec.kind ∉ heldKinds header (earlier.map ChunkSpec.kind) := by
  have kinds : (heldKinds header ((earlier ++ [spec]).map ChunkSpec.kind)).Nodup
      ↔ spec.kind ∉ heldKinds header (earlier.map ChunkSpec.kind)
        ∧ (heldKinds header (earlier.map ChunkSpec.kind)).Nodup := by
    rw [← List.nodup_concat, List.concat_eq_append]
    simp [heldKinds]
  rw [packable_iff, packable_iff, kinds]
  simp only [List.forall_mem_append, List.forall_mem_singleton]
  tauto

/-- Where not all files can be added, there is a first one that cannot, by induction on the files
from the last one.
-/
theorem exists_first_unpackable {files : FileMap} {header : Bool} {specs : List ChunkSpec}
    (h : ¬Packable files header specs)
    : ∃ earlier spec later,
        specs = earlier ++ spec :: later
        ∧ Packable files header earlier
        ∧ ¬Packable files header (earlier ++ [spec]) := by
  induction specs using List.reverseRecOn with
  | nil => exact absurd ⟨List.forall_mem_nil _, .nil, fun _ => List.not_mem_nil⟩ h
  | append_singleton specs spec ih =>
      by_cases possible : Packable files header specs
      · exact ⟨specs, spec, [], rfl, possible, h⟩
      · obtain ⟨earlier, first, later, rfl, before, fails⟩ := ih possible
        exact ⟨earlier, first, later ++ [spec], by simp, before, fails⟩

theorem MadeOf.eq {files : FileMap} {spec : ChunkSpec} {chunk : Chunk} {payload : List UInt8}
    (made : MadeOf files spec chunk) (read : files spec.path = .ok payload)
    : chunk = ⟨spec.kind, payload⟩ := by
  obtain ⟨kind, contents⟩ := chunk
  obtain ⟨rfl, found⟩ := made
  cases found.symm.trans read
  rfl

theorem kinds_of_madeOf {files : FileMap} {specs : List ChunkSpec} {chunks : List Chunk}
    (made : List.Forall₂ (MadeOf files) specs chunks)
    : chunks.map Chunk.kind = specs.map ChunkSpec.kind := by
  induction made with
  | nil => rfl
  | cons first _ ih => rw [List.map_cons, List.map_cons, first.1, ih]

theorem mem_kinds_arranged {header : Bool} {chunks : List Chunk} {kind : ChunkKind}
    : kind ∈ (arranged header chunks).map Chunk.kind
      ↔ kind ∈ heldKinds header (chunks.map Chunk.kind) := by
  have picked (test : ChunkKind → Bool)
      : kind ∈ (chunks.filter (fun chunk => test chunk.kind)).map Chunk.kind
        ↔ kind ∈ chunks.map Chunk.kind ∧ test kind = true := by
    rw [← List.mem_filter, List.filter_map]
    rfl
  have others := picked (fun kind => !kind.isHeader)
  rw [arranged, heldKinds, List.map_append, List.mem_append, List.mem_append, others]
  cases header with
  | false =>
      have headers := picked ChunkKind.isHeader
      simp only [Bool.false_eq_true, if_false, headers]
      cases kind.isHeader <;> simp
  | true =>
      have self : kind = .fileHeader ↔ kind.isHeader = true := by simp [ChunkKind.isHeader]
      simp only [if_true, List.map_singleton, List.mem_singleton, self]
      cases kind.isHeader <;> simp

/-- A chunk of a new kind comes first if it is a header, and last if not. -/
theorem arranged_concat {header : Bool} {chunks : List Chunk} {chunk : Chunk}
    (new : chunk.kind ∉ heldKinds header (chunks.map Chunk.kind))
    : arranged header (chunks ++ [chunk])
      = if chunk.kind.isHeader then chunk :: arranged header chunks
        else arranged header chunks ++ [chunk] := by
  by_cases isHeader : chunk.kind.isHeader = true
  · have same : chunk.kind = .fileHeader := eq_of_beq isHeader
    rw [same, heldKinds, List.mem_append, not_or] at new
    have headerless : header = false := by simpa using new.1
    have first : chunks.filter (fun chunk => chunk.kind.isHeader) = [] := by
      rw [List.filter_eq_nil_iff]
      intro other member header
      exact new.2 (List.mem_map.mpr ⟨other, member, eq_of_beq header⟩)
    simp [arranged, headerless, first, isHeader]
  · cases header <;> simp [arranged, isHeader]

end Command

-----------------------------------------------------------------------------------------
-- Chunks added to a builder
-----------------------------------------------------------------------------------------

namespace ModuleBuilder

/-- Behind a push the finished module has one chunk more: a header in front, any other at the end.
-/
theorem finish_of_push {builder next : ModuleBuilder} {kind : ChunkKind} {payload : List UInt8}
    (pushed : (push kind payload).runOn builder = (.ok (), next))
    : next.finish.chunks
      = if kind.isHeader then ⟨kind, payload⟩ :: builder.finish.chunks
        else builder.finish.chunks ++ [⟨kind, payload⟩] := by
  obtain ⟨_, absent, rfl⟩ := push_eq_ok_iff.mp pushed
  split
  · next header =>
      have empty : builder.header? = none := by simpa [contains, header] using absent
      have same : kind = .fileHeader := eq_of_beq header
      simp [finish, empty, same]
  · simp [finish]

/-- The builder can be had, and its module is made of these chunks. -/
structure Gathered (header : Bool) (chunks : List Chunk) (builder : ModuleBuilder) : Prop where
  reachable : builder.Reachable
  arranged : builder.finish.chunks = Command.arranged header chunks

namespace Gathered

variable {header : Bool} {chunks : List Chunk} {builder : ModuleBuilder}

theorem start (header : Bool) : Gathered header [] (if header then .new else .headerless) := by
  cases header with
  | false => exact ⟨.headerless, rfl⟩
  | true => exact ⟨.new, rfl⟩

theorem contains_iff (gathered : Gathered header chunks builder) (kind : ChunkKind)
    : builder.contains kind = true
      ↔ kind ∈ Command.heldKinds header (chunks.map Chunk.kind) := by
  rw [gathered.reachable.wellFormed.contains_iff, gathered.arranged, ← Command.mem_kinds_arranged,
    List.mem_map]

/-- A chunk of a new kind is pushed and gathered with the others. -/
theorem push (gathered : Gathered header chunks builder) {kind : ChunkKind} {payload : List UInt8}
    (fits : payload.length ≤ maxPayload)
    (new : kind ∉ Command.heldKinds header (chunks.map Chunk.kind))
    : ∃ next,
        (ModuleBuilder.push kind payload).runOn builder = (.ok (), next)
        ∧ Gathered header (chunks ++ [⟨kind, payload⟩]) next := by
  have absent : builder.contains kind = false := by
    rw [← Bool.not_eq_true, gathered.contains_iff]
    exact new
  have pushed := push_eq_ok_iff.mpr ⟨fits, absent, rfl⟩
  refine ⟨_, pushed, gathered.reachable.of_push pushed, ?_⟩
  rw [finish_of_push pushed, gathered.arranged, Command.arranged_concat new]

/-- A chunk of a kind that is there is refused. -/
theorem push_refused (gathered : Gathered header chunks builder) {kind : ChunkKind}
    {payload : List UInt8} (fits : payload.length ≤ maxPayload)
    (held : kind ∈ Command.heldKinds header (chunks.map Chunk.kind))
    : (ModuleBuilder.push kind payload).runOn builder
      = (.error (.duplicateChunk kind), builder) :=
  push_of_contains fits ((gathered.contains_iff kind).mpr held)

end Gathered

end ModuleBuilder

-----------------------------------------------------------------------------------------
-- Files added one by one
-----------------------------------------------------------------------------------------

namespace Command

section Run

variable {refusal? : FileMap → String → List UInt8 → Option FileError} {files : FileMap}
  {builder next : ModuleBuilder} {spec : ChunkSpec}

/-- What is read is what the map has at the path. -/
theorem run_lookup_bind {α : Type} (path : String)
    (next : Except FileError (List UInt8) → StateM FileMap α)
    : ((FileMap.access refusal?).read path >>= next).run files = (next (files path)).run files :=
  run_read_bind (FileMap.access_lawful refusal?) path next files

theorem addChunks_of_unreadable {error : FileError} (read : files spec.path = .error error)
    (rest : List ChunkSpec)
    : (addChunks (FileMap.access refusal?) builder (spec :: rest)).run files
      = (.error (.file spec.path error), files) := by
  rw [addChunks, run_lookup_bind, read]
  rfl

theorem addChunks_of_refused {payload : List UInt8} {error : ModuleError}
    (read : files spec.path = .ok payload)
    (refused : (ModuleBuilder.push spec.kind payload).runOn builder = (.error error, next))
    (rest : List ChunkSpec)
    : (addChunks (FileMap.access refusal?) builder (spec :: rest)).run files
      = (.error (.moduleFile spec.path error), files) := by
  rw [addChunks, run_lookup_bind, read]
  simp only [refused]
  rfl

theorem addChunks_of_pushed {payload : List UInt8} (read : files spec.path = .ok payload)
    (pushed : (ModuleBuilder.push spec.kind payload).runOn builder = (.ok (), next))
    (rest : List ChunkSpec)
    : (addChunks (FileMap.access refusal?) builder (spec :: rest)).run files
      = (addChunks (FileMap.access refusal?) next rest).run files := by
  rw [addChunks, run_lookup_bind, read]
  simp only [pushed]

/-- Once the earlier files are added the later ones go to the builder that came out, by induction on
the earlier files.
-/
theorem addChunks_append {earlier : List ChunkSpec}
    (added : (addChunks (FileMap.access refusal?) builder earlier).run files = (.ok next, files))
    (later : List ChunkSpec)
    : (addChunks (FileMap.access refusal?) builder (earlier ++ later)).run files
      = (addChunks (FileMap.access refusal?) next later).run files := by
  induction earlier generalizing builder with
  | nil =>
      cases added
      rfl
  | cons spec rest ih =>
      rw [List.cons_append]
      cases read : files spec.path with
      | error error => cases (addChunks_of_unreadable read rest).symm.trans added
      | ok payload =>
          cases pushed : (ModuleBuilder.push spec.kind payload).runOn builder with
          | mk answer between =>
              cases answer with
              | error error => cases (addChunks_of_refused read pushed rest).symm.trans added
              | ok =>
                  rw [addChunks_of_pushed read pushed]
                  exact ih ((addChunks_of_pushed read pushed rest).symm.trans added)

end Run

section Pack

variable {files : FileMap} {header : Bool} {specs : List ChunkSpec}
  (refusal? : FileMap → String → List UInt8 → Option FileError)

/-- Where all files can be added they are, by induction on the files from the last one. -/
theorem addChunks_of_packable (packable : Packable files header specs) (small : Small files specs)
    : ∃ added builder,
        List.Forall₂ (MadeOf files) specs added
        ∧ ModuleBuilder.Gathered header added builder
        ∧ (addChunks (FileMap.access refusal?) (if header then .new else .headerless)
              specs).run files
            = (.ok builder, files) := by
  induction specs using List.reverseRecOn with
  | nil => exact ⟨[], _, .nil, .start header, rfl⟩
  | append_singleton specs spec ih =>
      obtain ⟨before, ⟨payload, read⟩, new⟩ := packable_concat_iff.mp packable
      obtain ⟨smallBefore, smallLast⟩ := List.forall_mem_append.mp small
      have fits := smallLast spec (List.mem_singleton_self spec) payload read
      obtain ⟨added, builder, made, gathered, run⟩ := ih before smallBefore
      rw [← kinds_of_madeOf made] at new
      obtain ⟨next, pushed, gatheredNext⟩ := gathered.push fits new
      refine ⟨added ++ [⟨spec.kind, payload⟩], next, ?_, gatheredNext, ?_⟩
      · exact List.rel_append made (.cons ⟨rfl, read⟩ .nil)
      · rw [addChunks_append run, addChunks_of_pushed read pushed]
        rfl

/-- The first file that cannot be added is the one that fails: as it cannot be read, or else because
its kind is there.
-/
theorem addChunks_of_first_unpackable {earlier later : List ChunkSpec} {spec : ChunkSpec}
    (before : Packable files header earlier)
    (fails : ¬Packable files header (earlier ++ [spec]))
    (small : Small files (earlier ++ spec :: later))
    : ∃ failure,
        (addChunks (FileMap.access refusal?) (if header then .new else .headerless)
            (earlier ++ spec :: later)).run files
          = (.error failure, files)
        ∧ FailsAt files header earlier spec failure := by
  obtain ⟨smallBefore, smallAfter⟩ := List.forall_mem_append.mp small
  obtain ⟨added, builder, made, gathered, run⟩ := addChunks_of_packable refusal? before smallBefore
  rw [addChunks_append run]
  cases read : files spec.path with
  | error error => exact ⟨_, addChunks_of_unreadable read later, .unreadable read⟩
  | ok payload =>
      have held : spec.kind ∈ heldKinds header (earlier.map ChunkSpec.kind) := by
        by_contra new
        exact fails (packable_concat_iff.mpr ⟨before, ⟨payload, read⟩, new⟩)
      have fits := smallAfter spec List.mem_cons_self payload read
      have refused := gathered.push_refused fits (kinds_of_madeOf made ▸ held)
      exact ⟨_, addChunks_of_refused read refused later, .repeated read held⟩

/-- A failure to add the files is the command's failure. -/
theorem assemble_of_failed {options : PackOptions} {failure : CommandFailure}
    (failed
      : (addChunks (FileMap.access refusal?) (if options.header then .new else .headerless)
            options.chunks).run files
          = (.error failure, files))
    : (assemble (FileMap.access refusal?) options).run files = (.error failure, files) := by
  rw [assemble, StateT.run_bind, failed]
  rfl

/-- Once the files are added the module is written, if the system lets it be. -/
theorem assemble_of_added {options : PackOptions} {builder : ModuleBuilder}
    (added
      : (addChunks (FileMap.access refusal?) (if options.header then .new else .headerless)
            options.chunks).run files
          = (.ok builder, files))
    (writable : refusal? files options.output builder.finish.encode = none)
    : (assemble (FileMap.access refusal?) options).run files
      = (.ok builder.finish.encode.length, files.put options.output builder.finish.encode) := by
  have written
      : ((FileMap.access refusal?).write options.output builder.finish.encode).run files
        = (.ok (), files.put options.output builder.finish.encode) := by
    simp [FileMap.access, writable]
    rfl
  rw [assemble, StateT.run_bind, added]
  change ((FileMap.access refusal?).write options.output builder.finish.encode >>= _).run files = _
  rw [StateT.run_bind, written]
  rfl

end Pack

-----------------------------------------------------------------------------------------
-- The command
-----------------------------------------------------------------------------------------

/-- Where all files that are named can be added, the command writes the module that is made of them,
which reads back, and gives its size; else it fails at the first that cannot, and writes nothing.
-/
theorem pack_builds_named_module
    (refusal? : FileMap → String → List UInt8 → Option FileError)
    (files : FileMap) (options : PackOptions) (small : Small files options.chunks)
    : (Packable files options.header options.chunks
        → ∃ added, ∃ file : ModuleFile,
            List.Forall₂ (MadeOf files) options.chunks added
            ∧ file.chunks = arranged options.header added
            ∧ ModuleFile.decode .refuse file.encode = .ok file
            ∧ (refusal? files options.output file.encode = none
              → (assemble (FileMap.access refusal?) options).run files
                = (.ok file.encode.length, files.put options.output file.encode)))
      ∧ (¬Packable files options.header options.chunks
        → ∃ earlier spec later failure,
            options.chunks = earlier ++ spec :: later
            ∧ Packable files options.header earlier
            ∧ (assemble (FileMap.access refusal?) options).run files = (.error failure, files)
            ∧ FailsAt files options.header earlier spec failure) := by
  constructor
  · intro packable
    obtain ⟨added, builder, made, gathered, run⟩ := addChunks_of_packable refusal? packable small
    have valid := gathered.reachable.wellFormed.finish_valid
    exact ⟨added, builder.finish, made, gathered.arranged, ModuleFile.decode_encode .refuse valid,
      assemble_of_added refusal? run⟩
  · intro unpackable
    obtain ⟨earlier, spec, later, split, before, fails⟩ := exists_first_unpackable unpackable
    obtain ⟨failure, run, failsAt⟩ :=
      addChunks_of_first_unpackable refusal? before fails (split ▸ small)
    rw [← split] at run
    exact ⟨earlier, spec, later, failure, split, before, assemble_of_failed refusal? run, failsAt⟩

/-- Two files. -/
def twoFiles : FileMap :=
  (FileMap.put (fun _ => .error .notFound) "code" [1, 2]).put "head" [9]

/-- A header that is named last comes first, and of a kind that is there and a file that is missing
the missing file decides.
-/
theorem pack_builds_named_module_of_two_files
    : (∃ file : ModuleFile,
        file.chunks = [⟨.fileHeader, [9]⟩, ⟨.instructions, [1, 2]⟩]
        ∧ ModuleFile.decode .refuse file.encode = .ok file
        ∧ (assemble (FileMap.access (fun _ _ _ => none))
              ⟨"out", [⟨.instructions, "code"⟩, ⟨.fileHeader, "head"⟩], false⟩).run twoFiles
            = (.ok file.encode.length, twoFiles.put "out" file.encode))
      ∧ ∃ earlier spec later failure,
          [⟨.instructions, "code"⟩, ⟨.instructions, "gone"⟩] = earlier ++ spec :: later
          ∧ Packable twoFiles true earlier
          ∧ (assemble (FileMap.access (fun _ _ _ => none))
                ⟨"out", [⟨.instructions, "code"⟩, ⟨.instructions, "gone"⟩], true⟩).run twoFiles
              = (.error failure, twoFiles)
          ∧ FailsAt twoFiles true earlier spec failure
          ∧ failure = .file "gone" .notFound := by
  have code : twoFiles "code" = .ok [1, 2] := rfl
  have head : twoFiles "head" = .ok [9] := rfl
  have gone : twoFiles "gone" = .error .notFound := rfl
  constructor
  · have small : Small twoFiles [⟨.instructions, "code"⟩, ⟨.fileHeader, "head"⟩] := by
      simp [Small, code, head, maxPayload]
    have packable : Packable twoFiles false [⟨.instructions, "code"⟩, ⟨.fileHeader, "head"⟩] :=
      ⟨by simp [code, head], by decide, by simp⟩
    obtain ⟨added, file, made, chunks, decoded, run⟩ :=
      (pack_builds_named_module (fun _ _ _ => none) twoFiles
        ⟨"out", [⟨.instructions, "code"⟩, ⟨.fileHeader, "head"⟩], false⟩ small).1 packable
    refine ⟨file, ?_, decoded, run rfl⟩
    obtain _ | ⟨first, _ | ⟨second, _ | _⟩⟩ := made
    rw [first.eq code, second.eq head] at chunks
    exact chunks
  · have small : Small twoFiles [⟨.instructions, "code"⟩, ⟨.instructions, "gone"⟩] := by
      simp [Small, code, gone, maxPayload]
    have unpackable
        : ¬Packable twoFiles true [⟨.instructions, "code"⟩, ⟨.instructions, "gone"⟩] :=
      fun packable => absurd packable.distinct (by decide)
    obtain ⟨earlier, spec, later, failure, split, before, run, failsAt⟩ :=
      (pack_builds_named_module (fun _ _ _ => none) twoFiles
        ⟨"out", [⟨.instructions, "code"⟩, ⟨.instructions, "gone"⟩], true⟩ small).2 unpackable
    have ran
        : (assemble (FileMap.access (fun _ _ _ => none))
              ⟨"out", [⟨.instructions, "code"⟩, ⟨.instructions, "gone"⟩], true⟩).run twoFiles
            = (.error (.file "gone" .notFound), twoFiles) := rfl
    refine ⟨earlier, spec, later, failure, split, before, run, failsAt, ?_⟩
    cases ran.symm.trans run
    rfl

end Command

end VmToolchain
