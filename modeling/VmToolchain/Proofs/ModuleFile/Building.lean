import VmToolchain.ModuleFile.Builder
import VmToolchain.Proofs.ModuleFile.Canonical

/-! Builders that the operations lead to. Each operation keeps a builder well formed, so that every
module that is finished is valid and is read back from its file.
-/

namespace VmToolchain

namespace Building

variable {ε ε' α : Type} {work : Building ε α}

/-- Work whose errors are called otherwise does the same to a builder. -/
theorem runOn_adapt (work : Building ε α) (change : ε → ε') (builder : ModuleBuilder)
    : runOn (work.adapt change) builder
      = ((work.runOn builder).1.mapError change, (work.runOn builder).2) := rfl

/-- Work that leaves a builder as it was when it fails. -/
def Atomic (work : Building ε α) : Prop :=
  ∀ builder error, (work.runOn builder).1 = .error error → (work.runOn builder).2 = builder

theorem Atomic.adapt (atomic : work.Atomic) (change : ε → ε') : Atomic (work.adapt change) := by
  intro builder error failed
  rw [runOn_adapt] at failed ⊢
  cases answer : (work.runOn builder).1 with
  | error cause => exact atomic builder cause answer
  | ok value =>
      rw [answer] at failed
      contradiction

end Building

namespace ModuleBuilder

/-- The builders that can be had: a start, then pushes, whether they succeed or not, and headers that
are set.
-/
inductive Reachable : ModuleBuilder → Prop where
  | new : Reachable new
  | headerless : Reachable headerless
  | push {builder : ModuleBuilder} (kind : ChunkKind) (payload : List UInt8)
    : Reachable builder → Reachable ((push kind payload).runOn builder).2
  | setHeader {builder : ModuleBuilder} (header : FileHeader)
    : Reachable builder → Reachable (builder.setHeader header)

/-- The header stands apart from the other chunks, which are of distinct kinds, and no payload is too
large.
-/
structure WellFormed (builder : ModuleBuilder) : Prop where
  distinct : (builder.chunks.map Chunk.kind).Nodup
  apart : .fileHeader ∉ builder.chunks.map Chunk.kind
  payloads : ∀ chunk ∈ builder.chunks, chunk.payload.length ≤ maxPayload
  header : ∀ payload, builder.header? = some payload → payload.length ≤ maxPayload

-----------------------------------------------------------------------------------------
-- Operations
-----------------------------------------------------------------------------------------

/-- What a push does: both tests come before anything is changed, and then a header's payload goes to
its own place, and any other chunk behind those there.
-/
theorem runOn_push (builder : ModuleBuilder) (kind : ChunkKind) (payload : List UInt8)
    : (push kind payload).runOn builder
      = if maxPayload < payload.length then (.error (.payloadTooLarge payload.length), builder)
        else if builder.contains kind then (.error (.duplicateChunk kind), builder)
        else if kind.isHeader then (.ok (), { builder with header? := some payload })
        else (.ok (), { builder with chunks := builder.chunks ++ [⟨kind, payload⟩] }) := by
  unfold push
  split
  · rfl
  rw [Building.runOn, ExceptT.run_bind, StateT.run_bind]
  change StateT.run (ExceptT.run (if builder.contains kind then _ else _)) builder = _
  split
  · rfl
  split <;> rfl

/-- A push succeeds exactly when the payload is not too large and its kind is new. -/
theorem push_eq_ok_iff {builder next : ModuleBuilder} {kind : ChunkKind} {payload : List UInt8}
    : (push kind payload).runOn builder = (.ok (), next)
      ↔ payload.length ≤ maxPayload
        ∧ builder.contains kind = false
        ∧ next
          = if kind.isHeader then { builder with header? := some payload }
            else { builder with chunks := builder.chunks ++ [⟨kind, payload⟩] } := by
  rw [runOn_push]
  split
  · next large => simp [Nat.not_le.mpr large]
  · next fits =>
      split
      · next found => simp [found]
      · next absent =>
          have room := Nat.not_lt.mp fits
          split <;> simp [absent, room, eq_comm]

/-- A push fails in its tests, before it changes anything. -/
theorem push_atomic (kind : ChunkKind) (payload : List UInt8) : (push kind payload).Atomic := by
  intro builder error failed
  rw [runOn_push] at failed ⊢
  split
  · rfl
  · next fits =>
      rw [if_neg fits] at failed
      split
      · rfl
      · next absent =>
          rw [if_neg absent] at failed
          split at failed <;> contradiction

/-- Where its kind is there, a payload that is not too large is refused as a duplicate. -/
theorem push_of_contains {builder : ModuleBuilder} {kind : ChunkKind} {payload : List UInt8}
    (fits : payload.length ≤ maxPayload) (found : builder.contains kind = true)
    : (push kind payload).runOn builder = (.error (.duplicateChunk kind), builder) := by
  rw [runOn_push, if_neg (Nat.not_lt.mpr fits), if_pos found]

/-- A kind other than the header's is there exactly when a chunk is of that kind. -/
theorem contains_eq_true_iff {builder : ModuleBuilder} {kind : ChunkKind}
    (other : ¬kind.isHeader = true)
    : builder.contains kind = true ↔ kind ∈ builder.chunks.map Chunk.kind := by
  simp [contains, other]

theorem not_mem_kinds_of_absent {builder : ModuleBuilder} {kind : ChunkKind}
    (other : ¬kind.isHeader = true) (absent : builder.contains kind = false)
    : kind ∉ builder.chunks.map Chunk.kind := by
  intro member
  have found := (contains_eq_true_iff other).mpr member
  rw [absent] at found
  contradiction

theorem length_header_encode_le (header : FileHeader) : header.encode.length ≤ maxPayload := by
  simp [FileHeader.encode, maxPayload]

theorem wellFormed_new : WellFormed new where
  distinct := .nil
  apart := by simp [new]
  payloads := by simp [new]
  header payload found := by
    cases found
    exact length_header_encode_le _

theorem wellFormed_headerless : WellFormed headerless :=
  ⟨.nil, by simp [headerless], by simp [headerless], by simp [headerless]⟩

theorem WellFormed.setHeader {builder : ModuleBuilder} (wellFormed : builder.WellFormed)
    (header : FileHeader)
    : (builder.setHeader header).WellFormed where
  distinct := wellFormed.distinct
  apart := wellFormed.apart
  payloads := wellFormed.payloads
  header payload found := by
    cases found
    exact length_header_encode_le _

theorem WellFormed.of_push {builder next : ModuleBuilder} {kind : ChunkKind}
    {payload : List UInt8} (wellFormed : builder.WellFormed)
    (pushed : (ModuleBuilder.push kind payload).runOn builder = (.ok (), next))
    : next.WellFormed := by
  obtain ⟨fits, absent, rfl⟩ := push_eq_ok_iff.mp pushed
  split
  · refine ⟨wellFormed.distinct, wellFormed.apart, wellFormed.payloads, ?_⟩
    rintro _ ⟨⟩
    exact fits
  · next other =>
      have new := not_mem_kinds_of_absent other absent
      refine ⟨ModuleFile.nodup_kinds_concat_iff.mpr ⟨new, wellFormed.distinct⟩, ?_, ?_,
        wellFormed.header⟩
      · rw [List.map_append, List.mem_append, List.map_singleton, List.mem_singleton]
        rintro (earlier | rfl)
        · exact wellFormed.apart earlier
        · exact other rfl
      · intro chunk member
        rcases List.mem_append.mp member with earlier | last
        · exact wellFormed.payloads chunk earlier
        · rw [List.mem_singleton.mp last]
          exact fits

/-- A push keeps a builder well formed, whether it succeeds or not. -/
theorem WellFormed.push {builder : ModuleBuilder} (wellFormed : builder.WellFormed)
    (kind : ChunkKind) (payload : List UInt8)
    : ((push kind payload).runOn builder).2.WellFormed := by
  cases pushed : (ModuleBuilder.push kind payload).runOn builder with
  | mk answer next =>
      cases answer with
      | ok => exact wellFormed.of_push pushed
      | error error =>
          have kept := push_atomic kind payload builder error (by rw [pushed])
          rw [pushed] at kept
          rw [kept]
          exact wellFormed

theorem Reachable.of_push {builder next : ModuleBuilder} {kind : ChunkKind} {payload : List UInt8}
    (reachable : builder.Reachable)
    (pushed : (ModuleBuilder.push kind payload).runOn builder = (.ok (), next))
    : next.Reachable := by
  have after := reachable.push kind payload
  rwa [pushed] at after

/-- Every builder that can be had is well formed, by induction on the operations. -/
theorem Reachable.wellFormed {builder : ModuleBuilder} (reachable : builder.Reachable)
    : builder.WellFormed := by
  induction reachable with
  | new => exact wellFormed_new
  | headerless => exact wellFormed_headerless
  | push kind payload _ ih => exact ih.push kind payload
  | setHeader header _ ih => exact ih.setHeader header

-----------------------------------------------------------------------------------------
-- Finished modules
-----------------------------------------------------------------------------------------

/-- A finished module is valid: its header, if there is one, comes first, and it is the only one. -/
theorem WellFormed.finish_valid {builder : ModuleBuilder} (wellFormed : builder.WellFormed)
    : builder.finish.Valid := by
  obtain ⟨header?, chunks⟩ := builder
  cases header? with
  | none =>
      refine ⟨wellFormed.distinct, ?_, wellFormed.payloads⟩
      intro index chunk found header
      have member := List.mem_of_getElem? found
      exact absurd (List.mem_map.mpr ⟨chunk, member, header⟩) wellFormed.apart
  | some payload =>
      refine ⟨List.nodup_cons.mpr ⟨wellFormed.apart, wellFormed.distinct⟩, ?_, ?_⟩
      · intro index chunk found header
        cases index with
        | zero => rfl
        | succ index =>
            have member := List.mem_of_getElem? (l := chunks) (i := index) found
            exact absurd (List.mem_map.mpr ⟨chunk, member, header⟩) wellFormed.apart
      · intro chunk member
        rcases List.mem_cons.mp member with rfl | other
        · exact wellFormed.header payload rfl
        · exact wellFormed.payloads chunk other

/-- A well formed builder has a kind exactly when the finished module has a chunk of it. -/
theorem WellFormed.contains_iff {builder : ModuleBuilder} (wellFormed : builder.WellFormed)
    (kind : ChunkKind)
    : builder.contains kind = true ↔ ∃ chunk ∈ builder.finish.chunks, chunk.kind = kind := by
  have finished : (∃ chunk ∈ builder.finish.chunks, chunk.kind = kind)
      ↔ builder.header?.isSome = true ∧ kind = .fileHeader
        ∨ kind ∈ builder.chunks.map Chunk.kind := by
    cases header : builder.header? with
    | none => simp [finish, header]
    | some payload => simp [finish, header, eq_comm]
  rw [finished]
  by_cases isHeader : kind.isHeader = true
  · have same : kind = .fileHeader := eq_of_beq isHeader
    subst same
    simp [contains, isHeader, wellFormed.apart]
  · have other : kind ≠ .fileHeader := fun same => isHeader (same ▸ rfl)
    rw [contains_eq_true_iff isHeader]
    simp [other]

/-- What was pushed is found in the finished module under its kind. -/
theorem payload?_of_push {builder next : ModuleBuilder} {kind : ChunkKind} {payload : List UInt8}
    (pushed : (push kind payload).runOn builder = (.ok (), next))
    : next.finish.payload? kind = some payload := by
  obtain ⟨_, absent, rfl⟩ := push_eq_ok_iff.mp pushed
  split
  · next header =>
      have same : kind = .fileHeader := eq_of_beq header
      simp [finish, ModuleFile.payload?, same]
  · next other =>
      have notHeader : ChunkKind.fileHeader ≠ kind := fun same => other (same ▸ rfl)
      have noChunk : builder.chunks.find? (fun chunk => chunk.kind == kind) = none := by
        simpa using not_mem_kinds_of_absent other absent
      cases builder.header? <;>
        simp [finish, ModuleFile.payload?, List.find?_append, noChunk, notHeader]

end ModuleBuilder

end VmToolchain
