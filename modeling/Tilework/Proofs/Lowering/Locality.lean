import Tilework.Proofs.Lowering.Handles
import Tilework.Proofs.Module.Growth

/-!
# What lowering a function depends on

Lowering a function asks the module for its target and for the types of the values that the
function defines.  So a function is lowered in the same way in every module that extends its
own.  Nor does it depend on what the debug information says, to which no other row refers.
-/

namespace Tilework

open Artifact Interner

/-! ## The module -/

namespace Module.Extends

variable {m grown : Module} {function : Function} {instruction : Instruction}
  (extended : grown.Extends m)

include extended

theorem allocate_eq {value : ValueId} (typed : ∃ type, m.valueType value = .ok type) :
    Lowering.allocate grown value = Lowering.allocate m value := by
  rw [Lowering.allocate, extended.tensorType_eq typed, extended.target, Lowering.allocate]

theorem openDevice_eq {value : ValueId} (typed : ∃ type, m.valueType value = .ok type) :
    Lowering.openDevice grown value = Lowering.openDevice m value := by
  rw [Lowering.openDevice, extended.deviceType_eq typed, Lowering.openDevice]

theorem link_eq {reference : Reference}
    (typed : ∀ value ∈ reference.values, ∃ type, m.valueType value = .ok type) :
    reference.link grown = reference.link m := by
  cases reference with
  | allocated result => exact extended.allocate_eq (typed result List.mem_cons_self)
  | opened result => exact extended.openDevice_eq (typed result List.mem_cons_self)
  | _ => rfl

theorem creationStrategy_eq {device : Option ValueId} {result : ValueId}
    (typed : ∀ value ∈ device.toList ++ [result], ∃ type, m.valueType value = .ok type) :
    Operation.creationStrategy grown device result =
      Operation.creationStrategy m device result := by
  obtain ⟨typedDevice, typedResult⟩ := List.forall_mem_append.mp typed
  have devices : device.mapM grown.deviceType = device.mapM m.deviceType := by
    cases device with
    | none => rfl
    | some value =>
        rw [Option.mapM_some, Option.mapM_some,
          extended.deviceType_eq (typedDevice value List.mem_cons_self)]
  rw [Operation.creationStrategy, devices,
    extended.tensorType_eq (typedResult result List.mem_cons_self), Operation.creationStrategy]

/-- The record of an operation is the same, since it depends on the types of its values. -/
theorem record_eq {operation : Operation}
    (typed : ∀ value ∈ operation.operands ++ operation.results,
      ∃ type, m.valueType value = .ok type) : operation.record grown = operation.record m := by
  cases operation with
  | getDevice op =>
      have device := extended.deviceType_eq (typed op.result List.mem_cons_self)
      simp only [Operation.record, Operation.GetDevice.record, device]
  | empty op =>
      have strategy := extended.creationStrategy_eq (by
        simpa [Operation.operands, Operation.results, Operation.signature] using typed)
      simp only [Operation.record, Operation.Empty.record, strategy]
  | full op =>
      have strategy := extended.creationStrategy_eq (by
        simpa [Operation.operands, Operation.results, Operation.signature] using typed)
      simp only [Operation.record, Operation.Full.record, strategy]
  | _ op => rfl

variable (wellFormed : function.WellFormed m)

include wellFormed

/-- An instruction is lowered as before, with the same text. -/
theorem instruction_lower_eq (member : instruction ∈ function.body) :
    instruction.lower grown = instruction.lower m := by
  have typed : ∀ value ∈ instruction.operation.operands ++ instruction.operation.results,
      ∃ type, m.valueType value = .ok type :=
    List.forall_mem_append.mpr
      ⟨fun value used => wellFormed.typed value (wellFormed.operand_mem member used),
        fun value defines => wellFormed.typed_result member defines⟩
  have linked (record : OperationRecord Reference)
      (encoded : instruction.operation.record m = .ok record) :
      record.mapM (Reference.link grown) = record.mapM (Reference.link m) := by
    apply OperationRecord.mapM_congr
    intro reference held
    obtain ⟨slot, inside, rfl⟩ := List.mem_map.mp held
    apply extended.link_eq
    intro value mentioned
    apply wellFormed.typed
    exact mem_definedValues_of_fits wellFormed member
      (Operation.fits_of_record encoded slot inside) mentioned
  have lowered : instruction.operation.lower grown = instruction.operation.lower m := by
    rw [Operation.lower, extended.record_eq typed, Operation.lower]
    exact lift_bind_congr linked
  have text := extended.instructionText_eq (List.forall_mem_append.mp typed).2
  rw [Instruction.lower, lowered, text, Instruction.lower]

theorem lowerArgument_eq {argument : ValueId} (member : argument ∈ function.arguments) :
    grown.lowerArgument argument = m.lowerArgument argument := by
  have typed := wellFormed.typed_argument member
  rw [Module.lowerArgument, extended.valueType_eq typed, extended.openDevice_eq typed,
    extended.allocate_eq typed, Module.lowerArgument]

/-- A function is lowered as before. -/
theorem function_lower_eq (debugInfo : Handle) :
    function.lower grown debugInfo = function.lower m debugInfo := by
  have arguments : function.arguments.mapM grown.lowerArgument =
      function.arguments.mapM m.lowerArgument :=
    mapM_congr_of_mem fun argument member => extended.lowerArgument_eq wellFormed member
  have body : function.body.mapM (Instruction.lower grown) =
      function.body.mapM (Instruction.lower m) :=
    mapM_congr_of_mem fun instruction member => extended.instruction_lower_eq wellFormed member
  rw [Function.lower, arguments, body, Function.lower]

end Module.Extends

/-! ## Debug information -/

namespace Interner

variable {record : DebugRecord} {table : Table} {key : Key}

/-- Tables whose debug information is replaced. -/
def withDebug (record : DebugRecord) (interner : Interner) : Interner :=
  { interner with debugInfos := interner.debugInfos.map fun row => (row.1, record) }

theorem rows_withDebug (interner : Interner) (different : table ≠ .debugInfos) :
    (interner.withDebug record).rows table = interner.rows table := by
  cases table with
  | debugInfos => exact absurd rfl different
  | _ => rfl

theorem push_withDebug (interner : Interner) (different : table ≠ .debugInfos)
    (added : table.Record) :
    (interner.withDebug record).push table key added =
      (interner.push table key added).withDebug record := by
  cases table with
  | debugInfos => exact absurd rfl different
  | _ => rfl

/-- Keys are found where they were. -/
theorem handle?_withDebug (interner : Interner) :
    (interner.withDebug record).handle? table key = interner.handle? table key := by
  have position (rows : Rows DebugRecord) :
      Rows.position? key (rows.map fun row => (row.1, record)) = rows.position? key := by
    induction rows with
    | nil => rfl
    | cons row rows ih => simp only [List.map_cons, Rows.position?, List.length_map, ih]
  cases table with
  | debugInfos => exact congrArg (Option.map UInt32.ofNat) (position interner.debugInfos)
  | _ => rfl

end Interner

namespace Interning

variable {record : DebugRecord} {table : Table} {key : Key}

theorem overlooks_intern {build : Interning table.Record} (different : table ≠ .debugInfos)
    (overlooked : Overlooks (withDebug record) build) :
    Overlooks (withDebug record) (intern table key build) := by
  intro before outcome after run
  rw [runs_intern] at run ⊢
  rw [handle?_withDebug]
  cases found : before.handle? table key with
  | some handle =>
      rw [found] at run
      exact overlooks_pure handle before outcome after run
  | none =>
      rw [found] at run
      rcases runs_bind.mp run with ⟨built, middle, ran, pushed⟩ | ⟨error, failed, same⟩
      · obtain ⟨outcome_eq, rfl⟩ := runs_push.mp pushed
        refine runs_bind.mpr (Or.inl ⟨built, _, overlooked before _ middle ran, ?_⟩)
        rw [← push_withDebug middle different, runs_push, rows_withDebug middle different]
        exact ⟨outcome_eq, rfl⟩
      · exact runs_bind.mpr (Or.inr ⟨error, overlooked before _ after failed, same⟩)

theorem overlooks_lookup : Overlooks (withDebug record) (lookup table key) := by
  intro before outcome after run
  rw [lookup, runs_get_bind] at run ⊢
  rw [handle?_withDebug]
  cases found : before.handle? table key with
  | some handle =>
      rw [found] at run
      exact overlooks_pure handle before outcome after run
  | none =>
      rw [found] at run
      exact overlooks_throw _ before outcome after run

theorem overlooks_freshGlobalId : Overlooks (withDebug record) freshGlobalId := by
  intro before outcome after run
  obtain ⟨same, rfl⟩ := runs_freshGlobalId.mp run
  exact runs_freshGlobalId.mpr ⟨same, rfl⟩

end Interning

section

open Interning

variable {record : DebugRecord}

theorem overlooks_placement (workers : WorkerGrid) (place : Placement) :
    Overlooks (withDebug record) (place.record workers) := by
  refine overlooks_bind (overlooks_lift _) fun cores => ?_
  refine overlooks_bind (overlooks_intern nofun (overlooks_lift _)) fun memory => ?_
  exact overlooks_pure _

theorem overlooks_tensor (workers : WorkerGrid) (type : TensorType) (address size : UInt64) :
    Overlooks (withDebug record) (type.record workers address size) := by
  refine overlooks_bind (overlooks_intern nofun (overlooks_placement _ _)) fun layout => ?_
  refine overlooks_bind (overlooks_lift _) fun shape => ?_
  refine overlooks_bind overlooks_freshGlobalId fun globalId => ?_
  exact overlooks_pure _

theorem overlooks_memoryConfig (config : MemoryConfig) :
    Overlooks (withDebug record) config.record := by
  refine overlooks_bind ?_ fun shard => overlooks_pure _
  cases config.shardShape with
  | none => exact overlooks_pure _
  | some shape => exact overlooks_map some (overlooks_intern nofun (overlooks_pure _))

/-- A state whose debug information is replaced. -/
def LoweringState.withDebug (record : DebugRecord) (state : LoweringState) : LoweringState :=
  { state with interner := state.interner.withDebug record }

theorem Lowering.overlooks_interning {α : Type} {action : Interning α}
    (overlooked : Overlooks (Interner.withDebug record) action) :
    Overlooks (LoweringState.withDebug record) (interning action) := by
  intro before outcome after run
  obtain ⟨ran, aliases_eq⟩ := runs_interning.mp run
  exact runs_interning.mpr ⟨overlooked before.interner outcome after.interner ran, aliases_eq⟩

/-- The steps of lowering do not notice what the debug information says. -/
theorem closed_overlooks {m : Module} :
    Lowering.Closed m fun {_} action => Overlooks (LoweringState.withDebug record) action where
  pure := overlooks_pure
  bind := overlooks_bind
  resolve value := by
    intro before outcome after run
    rw [Lowering.resolve, runs_get_bind] at run ⊢
    exact overlooks_pure _ before outcome after run
  lookup _ _ := Lowering.overlooks_interning overlooks_lookup
  modify _ := overlooks_modify fun _ => rfl
  program later := by
    apply overlooks_lift_bind
    intro value found
    exact later value (mapError_eq_ok_iff.mp found)
  internTensor _ := Lowering.overlooks_interning (overlooks_intern nofun (overlooks_tensor _ _ _ _))
  internDevice _ := Lowering.overlooks_interning (overlooks_intern nofun (overlooks_lift _))
  memoryConfig config :=
    Lowering.overlooks_interning (overlooks_intern nofun (overlooks_memoryConfig config))
  unplaced _ := overlooks_throw _
  encode _ := overlooks_lift _

end

end Tilework
