import Tilework.Proofs.Lowering.References

/-!
# Sorts of operands

Every operand position of an operation is meant for a tensor or for a device.  A program
is well sorted when its values fit their positions, and then the record of an operation
refers to tensors where a tensor is looked up, and to devices where a device is.
-/

namespace Tilework

open Artifact

/-! ## Positions -/

namespace Operation

/-- The operands in positions for devices. -/
def devices : Operation → List ValueId
  | toLayout op => op.device.toList
  | toDevice op => [op.device]
  | empty op => op.device.toList
  | full op => op.device.toList
  | arange op => op.device.toList
  | zeros op | ones op => op.device.toList
  | convolution op => [op.device]
  | transposedConvolution op => [op.device]
  | allGather op => [op.device]
  | reduceScatter op => [op.device]
  | meshShard op => [op.device]
  | maxPool op => [op.device]
  | _ => []

/-- The operands in positions for tensors, without the tensor written into.  The operands
of an operation of an unknown dialect have no positions. -/
def tensors : Operation → List ValueId
  | toLayout op => [op.input]
  | toDevice op => [op.input]
  | empty _ | full _ | arange _ | zeros _ | ones _ => []
  | convolution op => [op.input, op.weight] ++ op.bias.toList
  | transposedConvolution op => [op.input, op.weight] ++ op.bias.toList
  | allGather op => [op.input]
  | reduceScatter op => [op.input]
  | meshShard op => [op.input]
  | maxPool op => [op.input]
  | unregistered _ => []
  | op => op.signature.inputs

/-- Every operand of an operation of a known dialect is in a position for tensors, in one
for devices, or is the tensor written into. -/
theorem perm_operands {operation : Operation} (known : operation.kind?.isSome) :
    (operation.tensors ++ operation.devices ++ operation.destination.toList).Perm
      operation.operands := by
  apply List.Perm.append_right
  cases operation with
  | unregistered op => cases known
  | convolution op | transposedConvolution op =>
      have swapped : (op.bias.toList ++ [op.device]).Perm ([op.device] ++ op.bias.toList) :=
        List.perm_append_comm
      exact swapped.append_left [op.input, op.weight]
  | _ op => exact List.Perm.of_eq (by simp [tensors, devices, signature])

end Operation

/-- A function whose values fit the positions that they are used in, and all of whose
results are tensors but for the devices that it opens. -/
structure Function.WellSorted (m : Module) (function : Function) : Prop where
  tensor : ∀ instruction ∈ function.body,
    ∀ value ∈ instruction.operation.tensors ++ instruction.operation.destination.toList,
      ∃ type, m.tensorType value = .ok type
  device : ∀ instruction ∈ function.body, ∀ value ∈ instruction.operation.devices,
    ∃ type, m.deviceType value = .ok type
  result : ∀ instruction ∈ function.body, (∀ op, instruction.operation ≠ .getDevice op) →
    ∀ value ∈ instruction.operation.results, ∃ type, m.tensorType value = .ok type
  returned : ∀ value ∈ function.returns, ∃ type, m.tensorType value = .ok type

/-- A module all of whose functions are well sorted. -/
def Module.WellSorted (m : Module) : Prop :=
  ∀ function ∈ m.functions, function.WellSorted m

/-! ## References -/

namespace Reference

/-- A reference of an operation that is linked to the table that it is meant for. -/
def Sorted (operation : Operation) : Reference → Prop
  | tensor value => value ∈ operation.tensors
  | device value => value ∈ operation.devices
  | allocated result => result ∈ operation.results ∧ ∀ op, operation ≠ .getDevice op
  | written output result =>
      operation.destination = some output ∧ operation.results = [result]
  | opened result => operation = .getDevice ⟨result⟩
  | memoryConfig _ | unplaced _ => True

end Reference

namespace Operation

variable {m : Module}

theorem sorted_elementwise_out (op : Elementwise) :
    Reference.Sorted (elementwise op) op.out := by
  cases given : op.output with
  | some output =>
      simp only [Elementwise.out, given]
      exact ⟨given, rfl⟩
  | none =>
      simp only [Elementwise.out, given]
      split
      · trivial
      · refine ⟨List.mem_singleton_self op.result, ?_⟩
        intro other same
        cases same

/-- The references in the record of an operation are sorted. -/
theorem sorted_of_record {operation : Operation} {record : OperationRecord Reference}
    (encoded : operation.record m = .ok record) :
    ∀ reference ∈ record.references, reference.Sorted operation := by
  cases operation with
  | unregistered op => cases encoded
  | elementwise op =>
      cases encoded
      simp only [OperationRecord.references, OperationRecord.slots, List.map_append,
        OperationRecord.map_snd_slotsFor, List.forall_mem_append, List.forall_mem_singleton,
        List.forall_mem_map]
      exact ⟨fun value read => read, sorted_elementwise_out op⟩
  | _ op =>
      first
      | obtain ⟨inner, found, rfl⟩ := map_eq_ok_iff.mp encoded
        rw [OperationRecord.references]
        first
        | rw [slots_getDevice found]
        | rw [slots_empty found]
        | rw [slots_full found]
        | rw [slots_meshShard found]
      | cases encoded
      simp only [OperationRecord.references, OperationRecord.slots, Conversion.record,
        ConstantFill.record, List.map_append, OperationRecord.map_snd_slotsFor,
        List.forall_mem_append, List.forall_mem_singleton, List.forall_mem_map,
        Option.mem_toList, Option.map_eq_some_iff, forall_exists_index, and_imp,
        forall_apply_eq_imp_iff₂]
      simp +contextual [Reference.Sorted, tensors, devices, signature, results, destination]

end Operation

end Tilework
