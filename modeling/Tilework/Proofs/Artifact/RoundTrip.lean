import Tilework.Proofs.Artifact.Codec
import Tilework.Proofs.Artifact.Slots

/-!
# Canonical encodings

An artifact and the artifact that is read back for it have the same wire format.
They differ in the signs of zeros only, and zeros are not written.  So whatever bytes
an artifact was decoded from, from its first encoding on it is encoded in one way.
-/

namespace Tilework

namespace Artifact

open Wire

/-! ## Messages -/

/-- The wire format of a message is what its fields write. -/
theorem encode_congr {σ : Type} [Message σ] {message other : σ}
    (same : ∀ field ∈ (Message.fields : List (Wire.Field σ)),
      field.write message = field.write other) :
    Message.encode message = Message.encode other := by
  have tokens : Message.tokens message = Message.tokens other :=
    congrArg List.flatten (List.map_congr_left same)
  rw [Message.encode, tokens, Message.encode]

/-- Zeros of either sign are not written. -/
@[simp]
theorem write_normalized (number : Single) :
    Component.write number.normalized = Component.write number := by
  by_cases absent : number.isZero = true
  · have zeroAbsent : Single.zero.isZero = true := rfl
    simp [Single.normalized, Component.write, Scalar.isDefault, absent, zeroAbsent]
  · simp [Single.normalized, absent]

/-! ## Operation records -/

namespace OperationRecord

@[simp]
theorem encode_clamp_normalized (bounds : ClampParameters) :
    Message.encode bounds.normalized = Message.encode bounds := by
  apply encode_congr
  simp [Message.fields, field, ClampParameters.normalized]

@[simp]
theorem encode_scalar_normalized (scalar : ScalarParameters) :
    Message.encode scalar.normalized = Message.encode scalar := by
  apply encode_congr
  simp [Message.fields, field, ScalarParameters.normalized]

theorem encode_full_normalized (op : Full Handle) :
    Message.encode { op with fillValue := op.fillValue.normalized } = Message.encode op := by
  apply encode_congr
  simp [Message.fields, field]

theorem encode_arange_normalized (op : Arange Handle) :
    Message.encode
        { op with
          start := op.start.normalized
          stop := op.stop.normalized
          step := op.step.normalized } =
      Message.encode op := by
  apply encode_congr
  simp [Message.fields, field]

theorem encode_elementwise_normalized (op : Elementwise Handle) :
    Message.encode { op with parameters := op.parameters.map ElementwiseParameters.normalized } =
      Message.encode op := by
  apply encode_congr
  rcases op with ⟨kind, inputs, out, _ | bounds | scalar⟩ <;>
    simp [Message.fields, field, choice, member, ElementwiseParameters.normalized]

theorem encode_pad_normalized (op : Pad Handle) :
    Message.encode { op with value := op.value.normalized } = Message.encode op := by
  apply encode_congr
  simp [Message.fields, field]

theorem encode_permute_normalized (op : Permute Handle) :
    Message.encode { op with padValue := op.padValue.normalized } = Message.encode op := by
  apply encode_congr
  simp [Message.fields, field]

/-- The member that writes a record writes the same without the signs of zeros. -/
theorem memberTokens_normalized (record : OperationRecord Handle) :
    memberTokens members record.normalized = memberTokens members record := by
  have alone (number : Nat) {content other : Bytes} (same : content = other) :
      [Token.mk number (.bytes content)] = [Token.mk number (.bytes other)] := by
    rw [same]
  cases record with
  | full op => exact alone 9 (encode_full_normalized op)
  | arange op => exact alone 10 (encode_arange_normalized op)
  | elementwise op => exact alone 13 (encode_elementwise_normalized op)
  | pad op => exact alone 32 (encode_pad_normalized op)
  | permute op => exact alone 38 (encode_permute_normalized op)
  | _ op => rfl

/-- Reading a record back leaves its slots as they are. -/
theorem slots_normalized (record : OperationRecord Handle) :
    record.normalized.slots = record.slots := by
  cases record <;> rfl

end OperationRecord

/-! ## Programs and artifacts -/

@[simp]
theorem OperationEntry.encode_normalized (entry : OperationEntry) :
    Message.encode entry.normalized = Message.encode entry := by
  apply encode_congr
  rcases entry with ⟨_ | record, debugText, locationText⟩
  · intro field _
    rfl
  · have chosen : memberTokens OperationRecord.members record.normalized ++ [] =
        memberTokens OperationRecord.members record ++ [] :=
      congrArg (· ++ []) record.memberTokens_normalized
    simp only [Message.fields, List.forall_mem_cons]
    exact ⟨chosen, rfl, rfl, nofun⟩

theorem OperationEntry.slots_normalized (entry : OperationEntry) :
    entry.normalized.slots = entry.slots := by
  cases found : entry.record <;>
    simp [slots, normalized, found, OperationRecord.slots_normalized]

@[simp]
theorem Program.encode_normalized (program : Program) :
    Message.encode program.normalized = Message.encode program := by
  apply encode_congr
  simp [Message.fields, field, Program.normalized, Component.write]

theorem Binary.encode_normalized (binary : Binary) :
    Message.encode binary.normalized = Message.encode binary := by
  apply encode_congr
  simp [Message.fields, field, Binary.normalized, Component.write]

/-- An artifact is read back up to the signs of zeros, and what is read back is encoded
as the artifact itself was, whatever that had been decoded from.  The bound is one that
every byte string in memory keeps. -/
theorem Binary.decode?_encode_eq_normalized (binary : Binary)
    (short : (Message.encode binary).length < UInt64.size) :
    Message.decode? (Message.encode binary) = some binary.normalized ∧
      Message.encode binary.normalized = Message.encode binary :=
  ⟨decode?_encode_binary binary short, binary.encode_normalized⟩

/-- A well-formed artifact whose operations clamp and pad with a zero.  The upper bound of
the clamp is not a number, and the memory configuration of the pad is present and zero. -/
def clampAndPad (zero : Single) : Binary where
  version := some {}
  system := some {}
  objects := some
    { tensors := [{ description := some {} }]
      layouts := [{}]
      memories := [{ shape := [-1], tileShape := some {} }]
      memoryConfigs := [{}]
      debugInfos := [{ snapshot := some {} }] }
  programs :=
    [{ name := "main"
       inputs := [0]
       operations :=
        [{ record := some (.elementwise
            { kind := ⟨8⟩
              inputs := [0]
              out := 0
              parameters := some (.clamp ⟨zero, ⟨0x7fc00001⟩⟩) }) },
         { record := some (.pad
            { input := 0
              out := 0
              padding := [0, 1]
              value := zero
              useMulticore := false
              memoryConfig := some 0 })
           debugText := "%1" }] }]

theorem decode?_encode_clampAndPad :
    (Message.encode (clampAndPad ⟨0x80000000⟩)).length < UInt64.size ∧
      Message.decode? (Message.encode (clampAndPad ⟨0x80000000⟩)) = some (clampAndPad .zero) ∧
      Message.encode (clampAndPad .zero) = Message.encode (clampAndPad ⟨0x80000000⟩) := by
  have short : (Message.encode (clampAndPad ⟨0x80000000⟩)).length < UInt64.size := by
    decide +kernel
  exact ⟨short, Binary.decode?_encode_eq_normalized (clampAndPad ⟨0x80000000⟩) short⟩

end Artifact

end Tilework
