import VmToolchain.Proofs.ConstantPool.IdSurvival

/-! Payloads of pools are tight. The readers of a pool go forward: what they make of some bytes they
make of them whatever follows, unless there are too few. Hence a payload that is cut anywhere is too
short and nothing else, and one with more bytes behind it has a rest.
-/

namespace VmToolchain

-----------------------------------------------------------------------------------------
-- Readers that go forward
-----------------------------------------------------------------------------------------

section Forward

variable {α β : Type}

/-- The ways in which a reader can take the bytes from an offset on. It gives a value and stops
among them, or it refuses them, both regardless of what comes behind; or it asks for more than is
left.
-/
inductive Judged (read : Cursor → Except PoolError (α × Cursor)) (offset : Nat)
    (bytes : List UInt8) : Prop where
  | given (value : α) (next : Cursor)
    : (∀ more,
        read ⟨offset, bytes ++ more⟩ = .ok (value, ⟨next.offset, next.rest ++ more⟩))
      → next.offset + next.rest.length = offset + bytes.length
      → Judged read offset bytes
  | refused (error : PoolError)
    : (∀ more, read ⟨offset, bytes ++ more⟩ = .error error) → Judged read offset bytes
  | short (missing : Shortfall)
    : read ⟨offset, bytes⟩ = .error (.truncated missing)
      → missing.available < missing.needed
      → missing.offset + missing.available = offset + bytes.length
      → Judged read offset bytes

/-- A reader goes forward when it takes any bytes in one of these ways. -/
def Forward (read : Cursor → Except PoolError (α × Cursor)) : Prop :=
  ∀ offset bytes, Judged read offset bytes

namespace Forward

theorem pure (value : α) : Forward (fun cursor => .ok (value, cursor)) :=
  fun offset bytes => .given value ⟨offset, bytes⟩ (fun _ => rfl) rfl

theorem error (error : PoolError) : Forward (fun _ => (.error error : Except _ (α × Cursor))) :=
  fun _ _ => .refused error (fun _ => rfl)

theorem take (count : Nat)
    : Forward (fun cursor => (cursor.take count).mapError PoolError.truncated) := by
  intro offset bytes
  rcases Nat.lt_or_ge bytes.length count with few | enough
  · have missed : Cursor.take ⟨offset, bytes⟩ count = .error ⟨offset, count, bytes.length⟩ :=
      Cursor.take_eq_error_iff.mpr ⟨few, rfl⟩
    exact .short ⟨offset, count, bytes.length⟩ (by rw [missed]; rfl) few rfl
  · refine .given (bytes.take count) ⟨offset + count, bytes.drop count⟩ ?_ ?_
    · intro more
      refine mapError_eq_ok.mpr (Cursor.take_eq_ok_iff.mpr ⟨List.length_take_of_le enough, ?_, rfl⟩)
      rw [← List.append_assoc, List.take_append_drop]
    · dsimp only
      rw [List.length_drop]
      omega

/-- One reader behind another goes forward if both do. Of where the first one started, the second
may know the offset.
-/
theorem bind {first : Cursor → Except PoolError (α × Cursor)}
    {second : Cursor → α × Cursor → Except PoolError (β × Cursor)} (h : Forward first)
    (same : ∀ offset left right, second ⟨offset, left⟩ = second ⟨offset, right⟩)
    (following : ∀ start value, Forward (fun next => second start (value, next)))
    : Forward (fun cursor => first cursor >>= second cursor) := by
  intro offset bytes
  have moved (more : List UInt8) := same offset (bytes ++ more) bytes
  cases h offset bytes with
  | given value next read inside =>
      have start := read []
      rw [List.append_nil, List.append_nil] at start
      cases following ⟨offset, bytes⟩ value next.offset next.rest with
      | given result last later within =>
          refine .given result last (fun more => ?_) (within.trans inside)
          rw [moved more]
          exact bind_eq_ok.mpr ⟨_, read more, later more⟩
      | refused error later =>
          refine .refused error (fun more => ?_)
          rw [moved more]
          exact bind_eq_error.mpr (.inr ⟨_, read more, later more⟩)
      | short missing later fewer ends =>
          exact .short missing (bind_eq_error.mpr (.inr ⟨_, start, later⟩)) fewer
            (ends.trans inside)
  | refused error read => exact .refused error (fun more => bind_eq_error.mpr (.inl (read more)))
  | short missing read fewer ends =>
      exact .short missing (bind_eq_error.mpr (.inl read)) fewer ends

theorem ite {condition : Prop} [Decidable condition]
    {left right : Cursor → Except PoolError (α × Cursor)} (yes : Forward left)
    (no : Forward right)
    : Forward (fun cursor => if condition then left cursor else right cursor) := by
  split
  · exact yes
  · exact no

/-- A value that is given is given whatever comes behind. -/
theorem append {read : Cursor → Except PoolError (α × Cursor)} (h : Forward read) {offset : Nat}
    {bytes : List UInt8} {value : α} {next : Cursor}
    (accepted : read ⟨offset, bytes⟩ = .ok (value, next)) (more : List UInt8)
    : read ⟨offset, bytes ++ more⟩ = .ok (value, ⟨next.offset, next.rest ++ more⟩) := by
  cases h offset bytes with
  | given other last given _ =>
      have alone := given []
      rw [List.append_nil, List.append_nil] at alone
      cases alone.symm.trans accepted
      exact given more
  | refused error refused =>
      have alone := refused []
      rw [List.append_nil] at alone
      cases alone.symm.trans accepted
  | short missing short _ _ => cases short.symm.trans accepted

end Forward

end Forward

-----------------------------------------------------------------------------------------
-- The readers of a pool
-----------------------------------------------------------------------------------------

/-- Constants are read forward: the tag, and then what it asks for. -/
theorem Constant.forward_read : Forward read := by
  unfold read
  refine (Forward.take 1).bind (fun _ _ _ => rfl) (fun start tag => .ite ?_ (.ite ?_ (.error _)))
  · exact (Forward.take 8).bind (fun _ _ _ => rfl) (fun _ bytes => .pure _)
  · refine (Forward.take 4).bind (fun _ _ _ => rfl) (fun _ length => ?_)
    refine (Forward.take (ofBigEndian length)).bind (fun _ _ _ => rfl) (fun text bytes => ?_)
    dsimp only
    cases String.fromUTF8? bytes.toByteArray with
    | none => exact .error _
    | some value => exact .pure (Constant.str value)

namespace ConstantPool

theorem readConstants_succ (count : Nat) (done : Array Constant) (cursor : Cursor)
    : readConstants (count + 1) done cursor
      = Constant.read cursor >>= fun read => readConstants count (done.push read.1) read.2 := by
  rw [readConstants]
  cases Constant.read cursor <;> rfl

/-- So many constants are read forward, by induction on their number. -/
theorem forward_readConstants (count : Nat) (done : Array Constant)
    : Forward (readConstants count done) := by
  induction count generalizing done with
  | zero => exact .pure done
  | succ count ih =>
      rw [funext (readConstants_succ count done)]
      exact Constant.forward_read.bind (fun _ _ _ => rfl)
        (fun _ constant => ih (done.push constant))

/-- The count and as many constants, with whatever is left behind them. -/
def readCounted (cursor : Cursor) : Except PoolError (Array Constant × Cursor) :=
  (cursor.take 4).mapError .truncated >>= fun count =>
    readConstants (ofBigEndian count.1) #[] count.2

theorem forward_readCounted : Forward readCounted :=
  (Forward.take 4).bind (fun _ _ _ => rfl)
    (fun _ count => forward_readConstants (ofBigEndian count) #[])

/-- A payload is read as a count and constants, behind which nothing may be left. -/
theorem decode_eq_readCounted (payload : List UInt8)
    : decode payload
      = readCounted (.start payload) >>= fun read =>
          if read.2.rest.isEmpty then .ok ⟨read.1⟩
          else .error (.trailingBytes read.2.rest.length) := by
  rw [decode, readCounted]
  cases ((Cursor.start payload).take 4).mapError PoolError.truncated <;> rfl

theorem readCounted_of_decode {payload : List UInt8} {pool : ConstantPool}
    (accepted : decode payload = .ok pool)
    : ∃ next : Cursor, readCounted ⟨0, payload⟩ = .ok (pool.constants, next) ∧ next.rest = [] := by
  rw [decode_eq_readCounted] at accepted
  obtain ⟨⟨constants, next⟩, read, accepted⟩ := bind_eq_ok.mp accepted
  dsimp only at accepted
  split at accepted
  · next ended =>
      cases accepted
      exact ⟨next, read, List.isEmpty_iff.mp ended⟩
  · contradiction

/-- What is cut off an accepted payload is missed. No other verdict is possible, since it would be
the verdict on the whole payload too, and that one leaves nothing over.
-/
theorem decode_of_cut {part cut : List UInt8} {pool : ConstantPool}
    (accepted : decode (part ++ cut) = .ok pool) (nonempty : cut ≠ [])
    : ∃ missing : Shortfall,
        decode part = .error (.truncated missing)
        ∧ missing.available < missing.needed
        ∧ missing.offset + missing.available = part.length := by
  obtain ⟨last, whole, ended⟩ := readCounted_of_decode accepted
  cases forward_readCounted 0 part with
  | given constants next read _ =>
      cases (read cut).symm.trans whole
      exact absurd (List.append_eq_nil_iff.mp ended).2 nonempty
  | refused error read => cases (read cut).symm.trans whole
  | short missing read fewer ends =>
      refine ⟨missing, ?_, fewer, ends.trans (Nat.zero_add _)⟩
      rw [decode_eq_readCounted]
      exact bind_eq_error.mpr (.inl read)

/-- What comes behind an accepted payload is left over. -/
theorem decode_of_more {payload more : List UInt8} {pool : ConstantPool}
    (accepted : decode payload = .ok pool) (nonempty : more ≠ [])
    : decode (payload ++ more) = .error (.trailingBytes more.length) := by
  obtain ⟨last, whole, ended⟩ := readCounted_of_decode accepted
  rw [decode_eq_readCounted]
  refine bind_eq_error.mpr (.inr ⟨_, forward_readCounted.append whole more, ?_⟩)
  rw [ended, List.nil_append, if_neg (by simpa using nonempty)]

end ConstantPool

/-- The payload of a pool is tight, whatever the pool holds. A part of it, up to any byte but the
last, is refused because there is less than needed, up to where the part ends. With more bytes
behind it, it is refused for these, and they are counted.
-/
theorem PoolBuilder.payload_is_tight (pool : PoolBuilder) (fits : pool.encode.length ≤ maxPayload)
    : (∀ part,
        part <+: pool.encode
        → part ≠ pool.encode
        → ∃ missing : Shortfall,
            ConstantPool.decode part = .error (.truncated missing)
            ∧ missing.available < missing.needed
            ∧ missing.offset + missing.available = part.length)
      ∧ ∀ more,
          more ≠ []
          → ConstantPool.decode (pool.encode ++ more) = .error (.trailingBytes more.length) := by
  have accepted := decode_encode fits
  refine ⟨?_, fun more nonempty => ConstantPool.decode_of_more accepted nonempty⟩
  rintro part ⟨cut, whole⟩ proper
  rw [← whole] at accepted
  refine ConstantPool.decode_of_cut accepted ?_
  rintro rfl
  exact proper (by rw [← whole, List.append_nil])

/-- An integer and a letter of two bytes, which is cut in the middle, and then has a byte behind it.
-/
theorem PoolBuilder.payload_is_tight_of_letter
    : (empty.internAll [.int (-2), .str "é"]).encode
        = [0, 0, 0, 2, 0, 255, 255, 255, 255, 255, 255, 255, 254, 1, 0, 0, 0, 2, 195, 169]
      ∧ (∃ missing : Shortfall,
          ConstantPool.decode
              [0, 0, 0, 2, 0, 255, 255, 255, 255, 255, 255, 255, 254, 1, 0, 0, 0, 2, 195]
            = .error (.truncated missing)
          ∧ missing.available < missing.needed
          ∧ missing.offset + missing.available = 19)
      ∧ ConstantPool.decode
            [0, 0, 0, 2, 0, 255, 255, 255, 255, 255, 255, 255, 254, 1, 0, 0, 0, 2, 195, 169, 0]
          = .error (.trailingBytes 1) := by
  have laid : (empty.internAll [.int (-2), .str "é"]).encode
      = [0, 0, 0, 2, 0, 255, 255, 255, 255, 255, 255, 255, 254, 1, 0, 0, 0, 2, 195, 169] := by
    decide
  obtain ⟨cut, more⟩ := payload_is_tight (empty.internAll [.int (-2), .str "é"])
    (by rw [laid]; decide)
  rw [laid] at cut more
  exact ⟨laid, cut _ ⟨[169], rfl⟩ (by decide), more [0] (by decide)⟩

end VmToolchain
