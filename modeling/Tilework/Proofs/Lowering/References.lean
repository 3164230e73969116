import Tilework.Lowering.Encoding
import Tilework.Proofs.Artifact.Slots
import Tilework.Proofs.Lowering.Aliases

/-!
# References of operations

The record of an operation refers to each value that the operation reads and to
each one that it defines, and to no other.  A result that is written into a tensor
is the only reference that adds an alias.
-/

namespace Tilework

open Artifact

/-- The memory configuration that an operation asks for. -/
def Operation.memoryConfig? : Operation → Option MemoryConfig
  | toMemoryConfig op => some op.memoryConfig
  | empty op => some op.memoryConfig
  | toLayout op => op.memoryConfig
  | toDevice op => op.memoryConfig
  | arange op => op.memoryConfig
  | zeros op | ones op => op.memoryConfig
  | cumulativeSum op => op.memoryConfig
  | product op => op.memoryConfig
  | embeddingBackward op => op.memoryConfig
  | repeatInterleave op => op.memoryConfig
  | concat op => op.memoryConfig
  | pad op => op.memoryConfig
  | permute op => op.memoryConfig
  | upsample op => op.memoryConfig
  | _ => none

namespace Reference

/-- What a slot in the record of an operation may hold. -/
inductive Fits (operation : Operation) : Role → Reference → Prop
  | tensor {value : ValueId} (read : value ∈ operation.signature.inputs) :
      Fits operation .tensor (.tensor value)
  | device {value : ValueId} (read : value ∈ operation.signature.inputs) :
      Fits operation .device (.device value)
  | memoryConfig {config : MemoryConfig} (asked : operation.memoryConfig? = some config) :
      Fits operation .memoryConfig (.memoryConfig config)
  | allocated {result : ValueId} (placed : operation.destination = none)
      (defines : operation.results = [result]) : Fits operation .result (.allocated result)
  | written {output result : ValueId} (given : operation.destination = some output)
      (defines : operation.results = [result]) :
      Fits operation .result (.written output result)
  | opened {result : ValueId} (opens : operation = .getDevice ⟨result⟩) :
      Fits operation .opened (.opened result)
  | unplaced (name : String) : Fits operation .result (.unplaced name)

/-- The values that a reference mentions. -/
def values : Reference → List ValueId
  | tensor value | device value => [value]
  | memoryConfig _ | unplaced _ => []
  | allocated result | opened result => [result]
  | written output result => [output, result]

/-- The alias that a reference adds. -/
def alias? : Reference → Option (ValueId × ValueId)
  | written output result => some (result, output)
  | _ => none

end Reference

/-! ## Records with attributes of their own -/

namespace Operation

open OperationRecord (slotsFor)

variable {m : Module}

theorem slots_getDevice {op : GetDevice} {record : OperationRecord.GetDevice Reference}
    (encoded : op.record m = .ok record) :
    (OperationRecord.getDevice record).slots = slotsFor .opened [.opened op.result] := by
  rcases bind_eq_ok_iff.mp encoded with ⟨type, _, rest⟩
  rcases bind_eq_ok_iff.mp rest with ⟨mesh, _, rest⟩
  cases rest
  rfl

theorem slots_empty {op : Empty} {record : OperationRecord.Empty Reference}
    (encoded : op.record m = .ok record) :
    (OperationRecord.empty record).slots =
      slotsFor .device (op.device.map .device).toList ++
        slotsFor .memoryConfig [.memoryConfig op.memoryConfig] ++
        slotsFor .result [.allocated op.result] := by
  rcases bind_eq_ok_iff.mp encoded with ⟨strategy, _, rest⟩
  cases rest
  rfl

theorem slots_full {op : Full} {record : OperationRecord.Full Reference}
    (encoded : op.record m = .ok record) :
    (OperationRecord.full record).slots =
      slotsFor .device (op.device.map .device).toList ++
        slotsFor .result [.allocated op.result] := by
  rcases bind_eq_ok_iff.mp encoded with ⟨strategy, _, rest⟩
  cases rest
  rfl

theorem slots_meshShard {op : MeshShard} {record : OperationRecord.MeshShard Reference}
    (encoded : op.record = .ok record) :
    (OperationRecord.meshShard record).slots =
      slotsFor .tensor [.tensor op.input] ++ slotsFor .result [.allocated op.result] ++
        slotsFor .device [.device op.device] := by
  simp only [MeshShard.record] at encoded
  split at encoded
  · cases encoded
    rfl
  · cases encoded

/-! ## References -/

theorem forall_slotsFor {P : Role × Reference → Prop} {role : Role} {references : List Reference} :
    (∀ slot ∈ slotsFor role references, P slot) ↔
      ∀ reference ∈ references, P (role, reference) := by
  simp [slotsFor]

/-- The result of an elementwise operation is written, allocated, or missing. -/
theorem fits_elementwise_out (op : Elementwise) :
    Reference.Fits (elementwise op) .result op.out := by
  cases given : op.output with
  | some output =>
      simp only [Elementwise.out, given]
      exact .written given rfl
  | none =>
      simp only [Elementwise.out, given]
      split
      · exact .unplaced _
      · exact .allocated given rfl

/-- Every slot in the record of an operation fits its role. -/
theorem fits_of_record {operation : Operation} {record : OperationRecord Reference}
    (encoded : operation.record m = .ok record) :
    ∀ slot ∈ record.slots, Reference.Fits operation slot.1 slot.2 := by
  cases operation with
  | unregistered op => cases encoded
  | elementwise op =>
      cases encoded
      refine List.forall_mem_append.mpr ⟨?_, ?_⟩
      · simp only [forall_slotsFor, List.mem_map]
        rintro _ ⟨value, read, rfl⟩
        exact .tensor read
      · simp only [forall_slotsFor, List.forall_mem_singleton]
        exact fits_elementwise_out op
  | _ op =>
      first
      | obtain ⟨inner, found, rfl⟩ := map_eq_ok_iff.mp encoded
        first
        | rw [slots_getDevice found]
        | rw [slots_empty found]
        | rw [slots_full found]
        | rw [slots_meshShard found]
      | cases encoded
      simp only [OperationRecord.slots, Conversion.record, ConstantFill.record, forall_slotsFor,
        List.forall_mem_append, List.forall_mem_singleton, Option.mem_toList,
        Option.map_eq_some_iff, List.mem_map, forall_exists_index, and_imp,
        forall_apply_eq_imp_iff₂]
      and_intros
      all_goals
        first
        | exact .tensor (.head _)
        | exact .tensor (.tail _ (.head _))
        | exact .tensor (.tail _ (.tail _ (.head _)))
        | exact .device (.tail _ (.head _))
        | exact .device (.tail _ (.tail _ (.head _)))
        | exact .memoryConfig rfl
        | exact .allocated rfl rfl
        | exact .written rfl rfl
        | exact .opened rfl
        | exact fun config asked => .memoryConfig asked
        | exact fun value read => .tensor read
        | exact fun value given => .device (Option.mem_toList.mpr given)
        | exact fun value given =>
            .tensor (List.mem_append_right _ (Option.mem_toList.mpr given))
        | exact fun value given =>
            .device (List.mem_append_right _ (Option.mem_toList.mpr given))

theorem alias?_of_optional {α : Type} {wrap : α → Reference} (plain : ∀ a, (wrap a).alias? = none)
    (given : Option α) : (given.map wrap).toList.filterMap Reference.alias? = [] := by
  cases given <;> simp [plain]

theorem alias?_of_tensors (values : List ValueId) :
    (values.map Reference.tensor).filterMap Reference.alias? = [] := by
  simp [List.filterMap_eq_nil_iff, Reference.alias?]

/-- The references of an operation add its alias, and no other. -/
theorem aliases_of_record {instruction : Instruction} {record : OperationRecord Reference}
    (encoded : instruction.operation.record m = .ok record) :
    record.references.filterMap Reference.alias? = instruction.alias?.toList := by
  rcases instruction with ⟨operation, location⟩
  cases operation with
  | unregistered op => cases encoded
  | elementwise op =>
      cases encoded
      cases given : op.output with
      | some output =>
          simp [OperationRecord.references, OperationRecord.slots, Elementwise.out, given,
            Reference.alias?, Instruction.alias?, destination, results, signature]
      | none =>
          by_cases needed : op.kind.needsOutput <;>
            simp [OperationRecord.references, OperationRecord.slots, Elementwise.out, given, needed,
              Reference.alias?, Instruction.alias?, destination, results, signature]
  | _ op =>
      first
      | obtain ⟨inner, found, rfl⟩ := map_eq_ok_iff.mp encoded
        rw [OperationRecord.references]
        first
        | rw [slots_getDevice found]
        | rw [slots_empty found]
        | rw [slots_full found]
        | rw [slots_meshShard found]
      | cases encoded
      simp only [OperationRecord.references, OperationRecord.slots, Conversion.record,
        ConstantFill.record, List.map_append, OperationRecord.map_snd_slotsFor,
        List.filterMap_append, alias?_of_tensors, List.nil_append, List.append_nil,
        alias?_of_optional (fun _ => rfl : ∀ value, (Reference.tensor value).alias? = none),
        alias?_of_optional (fun _ => rfl : ∀ value, (Reference.device value).alias? = none),
        alias?_of_optional (fun _ => rfl : ∀ config, (Reference.memoryConfig config).alias? = none)]
      rfl

/-- An operation whose record cannot be put together does not write into a tensor. -/
theorem destination_of_error {operation : Operation} {error : LoweringError}
    (failed : operation.record m = .error error) : operation.destination = none := by
  cases operation <;>
    first
    | rfl
    | cases failed

/-- The references of an operation mention all its operands and results, unless it
fails to name the tensor that it has to write into. -/
theorem mem_values_of_record {operation : Operation} {record : OperationRecord Reference}
    (encoded : operation.record m = .ok record)
    (placed : ∀ name, .unplaced name ∉ record.references) :
    ∀ value ∈ operation.operands ++ operation.results,
      value ∈ record.references.flatMap Reference.values := by
  cases operation with
  | unregistered op => cases encoded
  | elementwise op =>
      cases encoded
      have inputs : (op.inputs.map Reference.tensor).flatMap Reference.values = op.inputs := by
        simp [List.flatMap_map, Reference.values]
      have out : ∀ value ∈ op.output.toList ++ [op.result], value ∈ op.out.values := by
        cases given : op.output with
        | some output => simp [Elementwise.out, given, Reference.values]
        | none =>
            by_cases needed : op.kind.needsOutput
            · have missing : op.out = .unplaced op.kind.operationName := by
                simp [Elementwise.out, given, needed]
              exact absurd (by simp [OperationRecord.references, OperationRecord.slots, missing])
                (placed op.kind.operationName)
            · simp [Elementwise.out, given, needed, Reference.values]
      intro value used
      simp only [OperationRecord.references, OperationRecord.slots, List.map_append,
        OperationRecord.map_snd_slotsFor, List.flatMap_append, inputs, List.flatMap_singleton]
      simp only [operands, results, signature, List.append_assoc, List.mem_append] at used ⊢
      rcases used with used | used
      · exact Or.inl used
      · exact Or.inr (out value (List.mem_append.mpr used))
  | convolution op | transposedConvolution op =>
      cases encoded
      simp [OperationRecord.references, OperationRecord.slots, operands, results, signature,
        Reference.values]
      rintro value (given | rfl | rfl)
      · simp [given]
      · simp
      · simp
  | _ op =>
      first
      | obtain ⟨inner, found, rfl⟩ := map_eq_ok_iff.mp encoded
        rw [OperationRecord.references]
        first
        | rw [slots_getDevice found]
        | rw [slots_empty found]
        | rw [slots_full found]
        | rw [slots_meshShard found]
      | cases encoded
      simp [OperationRecord.references, OperationRecord.slots, Conversion.record,
        ConstantFill.record, operands, results, signature, Reference.values]

/-- The record of an operation refers to the memory configuration that the operation
asks for. -/
theorem memoryConfig_mem_of_record {operation : Operation} {record : OperationRecord Reference}
    (encoded : operation.record m = .ok record) {config : MemoryConfig}
    (asked : operation.memoryConfig? = some config) :
    (Role.memoryConfig, Reference.memoryConfig config) ∈ record.slots := by
  cases operation with
  | empty op =>
      rcases map_eq_ok_iff.mp encoded with ⟨inner, found, rfl⟩
      cases asked
      rw [slots_empty found]
      simp [slotsFor]
  | _ op =>
      first
      | exact absurd asked (Option.some_ne_none config).symm
      | simp only [memoryConfig?] at asked
        cases encoded
        simp_all [OperationRecord.slots, ConstantFill.record, slotsFor]

end Operation

end Tilework
