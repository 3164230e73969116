import Tilework.Proofs.Artifact.Framing
import Tilework.Proofs.Artifact.RoundTrip

/-!
# Frames in a row

A frame begins with its own length, so frames that are laid end to end can be told
apart again without a look at their payloads.

A framed artifact passes verification exactly when the artifact does, and fails with
the same error otherwise.  What is read back is framed as the artifact was.
-/

namespace Tilework.Artifact

open Wire

/-! ## Splitting -/

theorem lengthBytes_le_of_frameLength {buffer : Bytes} {length : Nat}
    (declared : frameLength buffer = .ok length) : lengthBytes ≤ length := by
  obtain ⟨front, _, _, _, rfl⟩ := frameLength_eq_ok_iff.mp declared
  exact Nat.le_add_left lengthBytes (Bytes.toNat front)

/-- Take frames off the front of a buffer, each as long as it says, until nothing is
left. -/
def splitFrames (buffer : Bytes) : Except ArtifactError (List Bytes) :=
  match buffer with
  | [] => .ok []
  | byte :: later =>
      match _declared : frameLength (byte :: later) with
      | .error error => .error error
      | .ok length =>
          match _cut : Bytes.split? length (byte :: later) with
          | none => .error (.truncatedBuffer (byte :: later).length)
          | some (frame, rest) => (splitFrames rest).map (frame :: ·)
termination_by buffer.length
decreasing_by
  obtain ⟨whole, taken⟩ := Bytes.split?_eq_some_iff.mp _cut
  have positive := lengthBytes_le_of_frameLength _declared
  simp only [lengthBytes] at positive
  rw [whole, List.length_append]
  omega

/-- A frame is split off the front of a buffer as it was put there. -/
theorem splitFrames_frame_append {payload : Bytes}
    (fits : headerBytes - lengthBytes + payload.length < UInt32.size) (rest : Bytes) :
    splitFrames (frame payload ++ rest) = (splitFrames rest).map (frame payload :: ·) := by
  have declares := frameLength_frame_append fits rest
  have cuts : Bytes.split? (frame payload).length (frame payload ++ rest) =
      some (frame payload, rest) := Bytes.split?_eq_some_iff.mpr ⟨rfl, rfl⟩
  cases written : frame payload ++ rest with
  | nil =>
      have empty := congrArg List.length (List.append_eq_nil_iff.mp written).1
      simp [length_frame, headerBytes, lengthBytes] at empty
  | cons byte later =>
      rw [written] at declares cuts
      rw [splitFrames]
      split
      · rename_i failed
        rw [declares] at failed
        cases failed
      · rename_i found
        rw [declares] at found
        cases found
        split
        · rename_i short
          rw [cuts] at short
          cases short
        · rename_i split
          rw [cuts] at split
          cases split
          rfl

/-- Frames that are laid end to end are split into the same frames. -/
theorem splitFrames_flatten {frames : List Bytes}
    (framed : ∀ buffer ∈ frames, ∃ binary : Binary, binary.toFrame = .ok buffer) :
    splitFrames frames.flatten = .ok frames := by
  induction frames with
  | nil => simp [splitFrames]
  | cons buffer frames ih =>
      obtain ⟨binary, toFrame⟩ := framed buffer List.mem_cons_self
      obtain ⟨fits, rfl⟩ := toFrame_eq_ok_iff.mp toFrame
      have later := ih fun other member => framed other (List.mem_cons_of_mem _ member)
      rw [List.flatten_cons, splitFrames_frame_append fits, later]
      rfl

/-! ## Framing -/

/-- The length of the frame of an artifact can be written in it. -/
def Binary.Fits (binary : Binary) : Prop :=
  headerBytes - lengthBytes + (Message.encode binary).length < UInt32.size

instance (binary : Binary) : Decidable binary.Fits :=
  inferInstanceAs (Decidable (_ < _))

/-- An artifact and the one that is read back for it have the same frame. -/
theorem Binary.toFrame_normalized (binary : Binary) :
    binary.normalized.toFrame = binary.toFrame := by
  simp only [Binary.toFrame, Binary.encode_normalized]

/-- The frame of an artifact is verified as the artifact is, comes back as an artifact with
the same frame, and can be told from what follows it. -/
theorem frames_verified_and_split :
    (∀ binary : Binary, binary.Fits → ∃ buffer, binary.toFrame = .ok buffer ∧
      (∀ error, binary.verify = .error error → Binary.ofFrame buffer = .error error) ∧
      (binary.verify = .ok () → Binary.ofFrame buffer = .ok binary.normalized ∧
        binary.normalized.toFrame = .ok buffer) ∧
      ∀ tail, frameLength (buffer ++ tail) = .ok buffer.length) ∧
    ∀ frames : List Bytes,
      (∀ buffer ∈ frames, ∃ binary : Binary, binary.toFrame = .ok buffer) →
        splitFrames frames.flatten = .ok frames := by
  constructor
  · intro binary fits
    have framed : binary.toFrame = .ok (frame (Message.encode binary)) :=
      toFrame_eq_ok_iff.mpr ⟨fits, rfl⟩
    have read := ofFrame_toFrame framed
    refine ⟨frame (Message.encode binary), framed, ?_, ?_, frameLength_frame_append fits⟩
    · intro error rejected
      rw [read, rejected]
      rfl
    · intro verified
      rw [read, verified, Binary.toFrame_normalized]
      exact ⟨rfl, framed⟩
  · intro frames framed
    exact splitFrames_flatten framed

theorem frames_verified_and_split_clampAndPad :
    (clampAndPad ⟨0x80000000⟩).Fits ∧ (default : Binary).Fits ∧
      ∃ buffer other, (clampAndPad ⟨0x80000000⟩).toFrame = .ok buffer ∧
        (default : Binary).toFrame = .ok other ∧
        Binary.ofFrame buffer = .ok (clampAndPad .zero) ∧
        Binary.ofFrame other = .error (.missingField "Binary" "version") ∧
        splitFrames [buffer, other, buffer].flatten = .ok [buffer, other, buffer] := by
  have fits : (clampAndPad ⟨0x80000000⟩).Fits := by decide +kernel
  have otherFits : (default : Binary).Fits := by decide +kernel
  obtain ⟨buffer, framed, _, read, _⟩ := frames_verified_and_split.1 _ fits
  obtain ⟨other, otherFramed, rejected, _⟩ := frames_verified_and_split.1 _ otherFits
  have split : splitFrames [buffer, other, buffer].flatten = .ok [buffer, other, buffer] := by
    apply frames_verified_and_split.2
    simp only [List.forall_mem_cons]
    exact ⟨⟨_, framed⟩, ⟨_, otherFramed⟩, ⟨_, framed⟩, nofun⟩
  exact ⟨fits, otherFits, buffer, other, framed, otherFramed, (read rfl).1, rejected _ rfl, split⟩

end Tilework.Artifact
