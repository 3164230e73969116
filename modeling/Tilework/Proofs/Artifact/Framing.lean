import Tilework.Proofs.Artifact.Codec

/-!
# Reading frames back

A framed artifact passes every check of the frame, so reading the frame back
verifies the artifact and nothing else.  Verification does not look at the
numbers that change on the way.

The rows of a table each take at least one byte, so in an artifact that can be
framed every row has a handle of its own.
-/

namespace Tilework.Artifact

open Wire

/-! ## Verification after reading back -/

theorem OperationRecord.checks_normalized (objects : ObjectTables)
    (record : OperationRecord Handle) :
    record.normalized.checks objects = record.checks objects := by
  cases record <;> rfl

theorem OperationEntry.checks_normalized (objects : ObjectTables) (entry : OperationEntry) :
    entry.normalized.checks objects = entry.checks objects := by
  rcases entry with ⟨record, debugText, locationText⟩
  cases record with
  | none => rfl
  | some record =>
      simp [OperationEntry.checks, OperationEntry.normalized, Check.field,
        OperationRecord.checks_normalized]

theorem Program.checks_normalized (objects : ObjectTables) (program : Program) :
    program.normalized.checks objects = program.checks objects := by
  simp [Program.checks, Program.normalized, List.flatMap_map, OperationEntry.checks_normalized]

theorem Binary.checks_normalized (binary : Binary) : binary.normalized.checks = binary.checks := by
  simp [Binary.checks, Binary.normalized, List.flatMap_map, Program.checks_normalized]

theorem Binary.verify_normalized (binary : Binary) : binary.normalized.verify = binary.verify := by
  rw [Binary.verify, Binary.checks_normalized, Binary.verify]

/-! ## Frames -/

theorem toFrame_eq_ok_iff {binary : Binary} {buffer : Bytes} :
    binary.toFrame = .ok buffer ↔
      headerBytes - lengthBytes + (Message.encode binary).length < UInt32.size ∧
        buffer = frame (Message.encode binary) := by
  simp only [Binary.toFrame]
  split
  · rename_i fits
    simp [fits, eq_comm]
  · rename_i large
    simp [large]

theorem length_frame (payload : Bytes) : (frame payload).length = headerBytes + payload.length := by
  simp only [frame, List.length_append, Bytes.length_littleEndian, Sha256.length_digest,
    headerBytes, digestBytes]

theorem frameLength_eq_ok_iff {buffer : Bytes} {length : Nat} :
    frameLength buffer = .ok length ↔
      ∃ front rest, buffer = front ++ rest ∧ front.length = lengthBytes ∧
        length = Bytes.toNat front + lengthBytes := by
  constructor
  · intro declared
    rw [frameLength] at declared
    split at declared
    · rename_i front rest cut
      cases declared
      obtain ⟨whole, width⟩ := Bytes.split?_eq_some_iff.mp cut
      exact ⟨front, rest, whole, width, rfl⟩
    · cases declared
  · rintro ⟨front, rest, whole, width, rfl⟩
    have cut := Bytes.split?_eq_some_iff.mpr ⟨whole, width⟩
    simp only [frameLength, cut]

/-- The length of a frame is read off its first bytes, whatever follows it. -/
theorem frameLength_frame_append {payload : Bytes}
    (fits : headerBytes - lengthBytes + payload.length < UInt32.size) (tail : Bytes) :
    frameLength (frame payload ++ tail) = .ok (frame payload).length := by
  have capacity : headerBytes - lengthBytes + payload.length < Bytes.capacity lengthBytes := fits
  apply frameLength_eq_ok_iff.mpr
  refine ⟨Bytes.littleEndian lengthBytes (headerBytes - lengthBytes + payload.length),
    identifier ++ Sha256.digest payload ++ payload ++ tail, ?_, Bytes.length_littleEndian _ _, ?_⟩
  · simp only [frame, List.append_assoc]
  · rw [Bytes.toNat_littleEndian capacity, length_frame]
    simp only [headerBytes, lengthBytes]
    omega

/-- Reading a frame back decodes its payload and verifies what was decoded. -/
theorem ofFrame_frame {payload : Bytes}
    (fits : headerBytes - lengthBytes + payload.length < UInt32.size) :
    Binary.ofFrame (frame payload) = (do
      let binary ← Binary.ofPayload payload
      binary.verify
      pure binary) := by
  have declares : frameLength (frame payload) = .ok (headerBytes + payload.length) := by
    have whole := frameLength_frame_append fits []
    rwa [List.append_nil, length_frame] at whole
  have rest : (frame payload).drop lengthBytes =
      identifier ++ (Sha256.digest payload ++ payload) := by
    simp [frame]
  have enough : ¬ headerBytes + payload.length < headerBytes := by omega
  have declared (next : Nat → Except ArtifactError Binary) :
      (Except.ok (headerBytes + payload.length) >>= next) = next (headerBytes + payload.length) :=
    rfl
  simp only [Binary.ofFrame, declares, length_frame, rest, List.splitAt_eq,
    List.take_left', List.drop_left', Sha256.length_digest, digestBytes, enough, declared, ne_eq,
    not_true_eq_false, if_false]

/-- A framed artifact is verified when it is read back, and comes back as it was
written up to the sign of zeros. -/
theorem ofFrame_toFrame {binary : Binary} {buffer : Bytes} (framed : binary.toFrame = .ok buffer) :
    Binary.ofFrame buffer = binary.verify.map fun _ => binary.normalized := by
  rcases toFrame_eq_ok_iff.mp framed with ⟨fits, rfl⟩
  have short : (Message.encode binary).length < UInt64.size := by
    simp only [UInt32.size, UInt64.size] at fits ⊢
    omega
  rw [ofFrame_frame fits]
  simp only [Binary.ofPayload, decode?_encode_binary binary short]
  cases verified : binary.verify with
  | error error => simp [bind, Except.bind, Except.map, Binary.verify_normalized, verified]
  | ok =>
      simp [bind, Except.bind, Except.map, pure, Except.pure, Binary.verify_normalized, verified]

/-- An artifact that passes verification comes back from its frame. -/
theorem ofFrame_of_verified {binary : Binary} {buffer : Bytes}
    (framed : binary.toFrame = .ok buffer) (verified : binary.verify = .ok ()) :
    Binary.ofFrame buffer = .ok binary.normalized := by
  rw [ofFrame_toFrame framed, verified]
  rfl

/-! ## Lengths of tables -/

/-- Every row of a table takes at least one byte. -/
theorem length_records_le (objects : ObjectTables) (table : Table) :
    (objects.records table).length ≤ (Message.encode objects).length := by
  have tokens := length_le_length_flatMap_bytes (Message.tokens objects)
  simp only [Message.encode]
  apply Nat.le_trans _ tokens
  cases table <;>
    simp [ObjectTables.records, Message.tokens, Message.fields, field, Component.write] <;> omega

/-- The tables are a part of the written artifact. -/
theorem length_encode_objects_le {binary : Binary} {objects : ObjectTables}
    (stored : binary.objects = some objects) :
    (Message.encode objects).length ≤ (Message.encode binary).length := by
  have member : Token.mk 4 (.bytes (Message.encode objects)) ∈ Message.tokens binary := by
    simp [Message.tokens, Message.fields, field, Component.write, stored]
  exact Nat.le_trans (length_content_le rfl) (length_bytes_le_of_mem member)

/-- In an artifact that can be framed, 32 bits suffice for every handle. -/
theorem length_records_lt {binary : Binary} {objects : ObjectTables} {buffer : Bytes}
    (framed : binary.toFrame = .ok buffer) (stored : binary.objects = some objects)
    (table : Table) : (objects.records table).length < UInt32.size := by
  have rows := length_records_le objects table
  have part := length_encode_objects_le stored
  have fits := (toFrame_eq_ok_iff.mp framed).1
  omega

end Tilework.Artifact
