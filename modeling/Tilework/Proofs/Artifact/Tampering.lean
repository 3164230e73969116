import Tilework.Proofs.Artifact.Framing
import Tilework.Proofs.Artifact.RoundTrip
import Tilework.Proofs.Run

/-!
# Changed buffers

An accepted buffer is the frame of a payload that decodes to a verified artifact.  Its
first bytes tell its length and its payload tells all of it, so a buffer that was cut
off, continued, or changed before its payload only is rejected.

A changed payload goes unnoticed when it has the digest of the old one.  That this does
not happen is not assumed: what is shown is that the two payloads collide.  Nothing but
the length of a digest is used, so the same holds for every other digest of that length.
-/

namespace Tilework.Artifact

open Wire

/-! ## Accepted buffers -/

theorem Binary.ofPayload_eq_ok_iff {payload : Bytes} {binary : Binary} :
    Binary.ofPayload payload = .ok binary ↔ Message.decode? payload = some binary := by
  rw [Binary.ofPayload]
  split
  · rename_i decoded
    simp [decoded]
  · rename_i undecodable
    simp [undecodable]

/-- Bytes after their own length, with the identifier and the digest in their places, are
the frame of what follows the digest. -/
theorem eq_frame_of_checked {front rest payload : Bytes} (width : front.length = lengthBytes)
    (declared : (front ++ rest).length = Bytes.toNat front + lengthBytes)
    (identified : rest.take identifier.length = identifier)
    (digested : (rest.drop identifier.length).take digestBytes = Sha256.digest payload)
    (remaining : (rest.drop identifier.length).drop digestBytes = payload) :
    headerBytes - lengthBytes + payload.length < UInt32.size ∧ front ++ rest = frame payload := by
  have parts : rest = identifier ++ (Sha256.digest payload ++ payload) := calc
    rest = rest.take identifier.length ++ rest.drop identifier.length :=
      (List.take_append_drop _ _).symm
    _ = identifier ++ ((rest.drop identifier.length).take digestBytes ++
          (rest.drop identifier.length).drop digestBytes) := by
      rw [identified, List.take_append_drop]
    _ = identifier ++ (Sha256.digest payload ++ payload) := by
      rw [digested, remaining]
  have number : Bytes.toNat front = headerBytes - lengthBytes + payload.length := by
    rw [parts] at declared
    simp only [List.length_append, Sha256.length_digest, width] at declared
    simp only [headerBytes, digestBytes]
    omega
  have fits := Bytes.toNat_lt_capacity front
  have written := Bytes.littleEndian_toNat front
  rw [width, number] at fits written
  constructor
  · exact fits
  · rw [frame, written, parts, List.append_assoc, List.append_assoc]

/-- The buffers that are read back are the frames of payloads that decode to a verified
artifact. -/
theorem Binary.ofFrame_eq_ok_iff {buffer : Bytes} {binary : Binary} :
    Binary.ofFrame buffer = .ok binary ↔
      ∃ payload, headerBytes - lengthBytes + payload.length < UInt32.size ∧
        buffer = frame payload ∧ Message.decode? payload = some binary ∧
          binary.verify = .ok () := by
  constructor
  · intro read
    simp only [Binary.ofFrame, List.splitAt_eq, throw_if_eq_ok_iff, bind_eq_ok_iff, ne_eq,
      not_not] at read
    obtain ⟨_, _, declared, rfl, identified, digested, _, decoded, ⟨⟩, verified, ⟨⟩⟩ := read
    obtain ⟨front, rest, rfl, width, length⟩ := frameLength_eq_ok_iff.mp declared
    rw [List.drop_left' width] at identified digested decoded
    obtain ⟨fits, framed⟩ := eq_frame_of_checked width length identified digested.symm rfl
    exact ⟨_, fits, framed, Binary.ofPayload_eq_ok_iff.mp decoded, verified⟩
  · rintro ⟨payload, fits, rfl, decoded, verified⟩
    rw [ofFrame_frame fits, Binary.ofPayload_eq_ok_iff.mpr decoded]
    simp only [bind, Except.bind, verified]
    rfl

/-- The buffer is read back as an artifact. -/
def Accepted (buffer : Bytes) : Prop :=
  ∃ binary, Binary.ofFrame buffer = .ok binary

/-- The buffer is refused with an error. -/
def Rejected (buffer : Bytes) : Prop :=
  ∃ error, Binary.ofFrame buffer = .error error

theorem rejected_iff_not_accepted {buffer : Bytes} : Rejected buffer ↔ ¬ Accepted buffer := by
  cases read : Binary.ofFrame buffer <;> simp [Rejected, Accepted, read]

/-- The bytes after the header. -/
def payloadOf (buffer : Bytes) : Bytes :=
  buffer.drop headerBytes

@[simp]
theorem payloadOf_frame (payload : Bytes) : payloadOf (frame payload) = payload := by
  apply List.drop_left'
  simp only [List.length_append, Bytes.length_littleEndian, Sha256.length_digest, headerBytes,
    digestBytes]

/-- The digest in the header of a frame. -/
theorem drop_take_frame (payload : Bytes) :
    ((frame payload).take headerBytes).drop (lengthBytes + identifier.length) =
      Sha256.digest payload := by
  have header : (frame payload).take headerBytes =
      Bytes.littleEndian lengthBytes (headerBytes - lengthBytes + payload.length) ++
        identifier ++ Sha256.digest payload := by
    apply List.take_left'
    simp only [List.length_append, Bytes.length_littleEndian, Sha256.length_digest, headerBytes,
      digestBytes]
  rw [header]
  apply List.drop_left'
  simp only [List.length_append, Bytes.length_littleEndian]

section Accepted

variable {buffer other : Bytes}

theorem Accepted.exists_eq_frame (accepted : Accepted buffer) :
    ∃ payload, headerBytes - lengthBytes + payload.length < UInt32.size ∧
      buffer = frame payload := by
  obtain ⟨binary, read⟩ := accepted
  obtain ⟨payload, fits, framed, _⟩ := Binary.ofFrame_eq_ok_iff.mp read
  exact ⟨payload, fits, framed⟩

/-! ## Changes -/

/-- No accepted buffer begins with another one. -/
theorem Accepted.eq_of_prefix (accepted : Accepted buffer) (longer : Accepted other)
    (starts : buffer <+: other) : buffer = other := by
  obtain ⟨payload, fits, rfl⟩ := accepted.exists_eq_frame
  obtain ⟨otherPayload, otherFits, rfl⟩ := longer.exists_eq_frame
  obtain ⟨tail, whole⟩ := starts
  have declared := frameLength_frame_append fits tail
  have otherDeclared := frameLength_frame_append otherFits []
  rw [List.append_nil, ← whole, declared] at otherDeclared
  have nothing : tail = [] := by
    have lengths := Except.ok.inj otherDeclared
    rw [List.length_append] at lengths
    apply List.eq_nil_of_length_eq_zero
    omega
  rw [← whole, nothing, List.append_nil]

/-- The payload of an accepted buffer tells the buffer. -/
theorem Accepted.eq_of_payloadOf_eq (accepted : Accepted buffer) (second : Accepted other)
    (same : payloadOf buffer = payloadOf other) : buffer = other := by
  obtain ⟨payload, _, rfl⟩ := accepted.exists_eq_frame
  obtain ⟨otherPayload, _, rfl⟩ := second.exists_eq_frame
  rw [payloadOf_frame, payloadOf_frame] at same
  rw [same]

/-- Two different byte strings have the same digest. -/
def Collide (left right : Bytes) : Prop :=
  left ≠ right ∧ Sha256.digest left = Sha256.digest right

/-- Different accepted buffers under one header are a collision of their payloads. -/
theorem Accepted.collide (accepted : Accepted buffer) (second : Accepted other)
    (header : buffer.take headerBytes = other.take headerBytes) (changed : buffer ≠ other) :
    Collide (payloadOf buffer) (payloadOf other) := by
  constructor
  · intro same
    exact changed (accepted.eq_of_payloadOf_eq second same)
  · obtain ⟨payload, _, rfl⟩ := accepted.exists_eq_frame
    obtain ⟨otherPayload, _, rfl⟩ := second.exists_eq_frame
    rw [payloadOf_frame, payloadOf_frame, ← drop_take_frame payload, header, drop_take_frame]

end Accepted

/-- Every change of the buffer is rejected or exposes a collision. -/
structure TamperEvident (buffer : Bytes) : Prop where
  cut {other : Bytes} : other <+: buffer → other ≠ buffer → Rejected other
  continued {other : Bytes} : buffer <+: other → other ≠ buffer → Rejected other
  /-- The change may be of any of the bytes before the payload. -/
  header {other : Bytes} : payloadOf other = payloadOf buffer → other ≠ buffer → Rejected other
  payload {other : Bytes} : other.take headerBytes = buffer.take headerBytes → other ≠ buffer →
    Accepted other → Collide (payloadOf other) (payloadOf buffer)
  byte (position : Nat) (value : UInt8) : buffer.set position value ≠ buffer →
    Rejected (buffer.set position value) ∨
      Collide (payloadOf (buffer.set position value)) (payloadOf buffer)

theorem Accepted.tamperEvident {buffer : Bytes} (accepted : Accepted buffer) :
    TamperEvident buffer where
  cut starts changed := by
    rw [rejected_iff_not_accepted]
    intro shorter
    exact changed (shorter.eq_of_prefix accepted starts)
  continued starts changed := by
    rw [rejected_iff_not_accepted]
    intro longer
    exact changed (accepted.eq_of_prefix longer starts).symm
  header same changed := by
    rw [rejected_iff_not_accepted]
    intro second
    exact changed (second.eq_of_payloadOf_eq accepted same)
  payload header changed second := second.collide accepted header changed
  byte position value changed := by
    rw [rejected_iff_not_accepted, or_iff_not_imp_left, not_not]
    intro second
    rcases Nat.lt_or_ge position headerBytes with before | after
    · have same : payloadOf (buffer.set position value) = payloadOf buffer :=
        List.drop_set_of_lt before
      exact absurd (second.eq_of_payloadOf_eq accepted same) changed
    · exact second.collide accepted (List.take_set_of_le after) changed

/-- What a buffer has to be in order to be accepted, and what becomes of the changes of
one that is.  The length of what follows it is written in four bytes, so it is bounded. -/
theorem ofFrame_eq_ok_iff_and_tamperEvident :
    (∀ (buffer : Bytes) (binary : Binary), Binary.ofFrame buffer = .ok binary ↔
      ∃ payload, 36 + payload.length < UInt32.size ∧
        buffer = Bytes.littleEndian 4 (36 + payload.length) ++ identifier ++
          Sha256.digest payload ++ payload ∧
        Message.decode? payload = some binary ∧ binary.verify = .ok ()) ∧
    ∀ buffer, Accepted buffer → TamperEvident buffer := by
  constructor
  · intro buffer binary
    exact Binary.ofFrame_eq_ok_iff
  · intro buffer accepted
    exact accepted.tamperEvident

theorem set_ne_self {buffer : Bytes} {position : Nat} {value other : UInt8}
    (stored : buffer[position]? = some value) (different : value ≠ other) :
    buffer.set position other ≠ buffer := by
  obtain ⟨inside, _⟩ := List.getElem?_eq_some_iff.mp stored
  intro same
  rw [← same, List.getElem?_set_self inside] at stored
  exact different (Option.some.inj stored).symm

theorem tamperEvident_clampAndPad :
    ∃ buffer, (clampAndPad ⟨0x80000000⟩).toFrame = .ok buffer ∧
      Binary.ofFrame buffer = .ok (clampAndPad .zero) ∧ Rejected buffer.dropLast ∧
      Rejected (buffer ++ [0]) ∧ Rejected (buffer.set 4 0) ∧
      (Rejected (buffer.set 40 0) ∨ Collide (payloadOf (buffer.set 40 0)) (payloadOf buffer)) := by
  obtain ⟨payload, encoded⟩ : ∃ payload, Message.encode (clampAndPad ⟨0x80000000⟩) = payload :=
    ⟨_, rfl⟩
  have fits : 36 + payload.length < UInt32.size := by
    rw [← encoded]
    decide +kernel
  have start : payload[0]? = some 10 := by
    rw [← encoded]
    decide +kernel
  have decoded : Message.decode? payload = some (clampAndPad .zero) := by
    rw [← encoded]
    apply decode?_encode_binary
    rw [encoded]
    simp only [UInt32.size, UInt64.size] at fits ⊢
    omega
  have framed : (clampAndPad ⟨0x80000000⟩).toFrame = .ok (frame payload) :=
    toFrame_eq_ok_iff.mpr ⟨encoded ▸ fits, encoded ▸ rfl⟩
  have read : Binary.ofFrame (frame payload) = .ok (clampAndPad .zero) :=
    (ofFrame_eq_ok_iff_and_tamperEvident.1 _ _).mpr ⟨payload, fits, rfl, decoded, rfl⟩
  have evident := ofFrame_eq_ok_iff_and_tamperEvident.2 (frame payload) ⟨_, read⟩
  have shorter : (frame payload).dropLast ≠ frame payload := by
    intro same
    have lengths := congrArg List.length same
    rw [List.length_dropLast, length_frame, headerBytes, lengthBytes] at lengths
    omega
  have fourth : (frame payload)[4]? = some 0x54 := by
    simp [frame, Bytes.littleEndian, identifier, lengthBytes]
  have fortieth : (frame payload)[40]? = some 10 := by
    rw [← payloadOf_frame payload, payloadOf, List.getElem?_drop] at start
    exact start
  have header : payloadOf ((frame payload).set 4 0) = payloadOf (frame payload) :=
    List.drop_set_of_lt (by decide)
  exact ⟨frame payload, framed, read, evident.cut (List.dropLast_prefix _) shorter,
    evident.continued (List.prefix_append _ _) (by simp),
    evident.header header (set_ne_self fourth (by decide)),
    evident.byte 40 0 (set_ne_self fortieth (by decide))⟩

end Tilework.Artifact
