import Tilework.Lowering.Program
import Tilework.Proofs.Lowering.Linking
import Tilework.Proofs.Lowering.Operands

/-!
# Errors before verification

Only the last stage of lowering verifies anything, so no stage before it fails with
the error of a verification.  Most records moreover are made without looking at values or
tables, and fail for reasons of their own.
-/

namespace Tilework

open Artifact

/-- An error that is not one of verification. -/
def LoweringError.Early (error : LoweringError) : Prop :=
  ∀ rejected, error ≠ .verification rejected

/-- An error that blames neither a value, nor a missing row, nor the finished artifact. -/
def LoweringError.Plain : LoweringError → Prop
  | program _ | notBuilt _ _ | verification _ => False
  | _ => True

open LoweringError (Early Plain)

theorem LoweringError.Plain.early {error : LoweringError} (plain : error.Plain) : error.Early := by
  rintro rejected rfl
  exact plain

theorem early_program (inner : ModuleError) : Early (.program inner) := by
  rintro rejected ⟨⟩

/-! ## Records without a state -/

section

variable {m : Module}

theorem rejects_toInt32 (name : String) (value : Int) :
    Rejects Plain (Number.toInt32 name value) := by
  rw [Number.toInt32]
  split
  · exact rejects_ok _
  · exact rejects_error trivial

theorem rejects_toUInt32 (name : String) (value : Int) :
    Rejects Plain (Number.toUInt32 name value) := by
  rw [Number.toUInt32]
  split
  · exact rejects_ok _
  · exact rejects_error trivial

theorem rejects_toInt32s (name : String) (values : List Int64) :
    Rejects Plain (Number.toInt32s name values) :=
  rejects_mapM fun value => rejects_toInt32 name value.toInt

theorem rejects_coreRanges (grid : CoreGrid) (workers : WorkerGrid) :
    Rejects Plain (grid.coreRanges workers) := by
  rw [CoreGrid.coreRanges]
  split
  · exact rejects_error trivial
  · apply rejects_mapM
    intro rectangle
    apply rejects_bind (rejects_toInt32 _ _)
    intro y
    apply rejects_bind (rejects_toInt32 _ _)
    intro x
    apply rejects_bind (rejects_toInt32 _ _)
    intro rows
    exact rejects_bind (rejects_toInt32 _ _) fun columns => rejects_ok _

theorem rejects_extent (element : Element) : Rejects Plain element.extent := by
  cases element with
  | scalar dataType =>
      rw [Element.extent]
      split
      · exact rejects_ok _
      · exact rejects_error trivial
  | tile block =>
      apply rejects_bind (rejects_toInt32 _ _)
      intro y
      exact rejects_bind (rejects_toInt32 _ _) fun x => rejects_ok _

theorem rejects_scaleBytes (bytes : Nat) (size : Int64) :
    Rejects Plain (scaleBytes bytes size) := by
  rw [scaleBytes]
  split
  · exact rejects_error trivial
  · dsimp only
    split
    · exact rejects_ok _
    · exact rejects_error trivial

theorem rejects_memorySpace (buffer : Buffer) : Rejects Plain buffer.memorySpace := by
  rw [Buffer.memorySpace.eq_def]
  split
  · exact rejects_ok _
  · exact rejects_ok _
  · exact rejects_ok _
  · exact rejects_error trivial

theorem rejects_region (region : MemoryRegion) (banks : Option BankLayout) :
    Rejects Plain (region.record banks) := by
  apply rejects_bind (rejects_extent region.element)
  intro extent
  apply rejects_bind (rejects_foldlM rejects_scaleBytes)
  intro bytes
  apply rejects_bind (rejects_toInt32s _ _)
  intro shape
  exact rejects_bind (rejects_memorySpace region.buffer) fun space => rejects_ok _

theorem rejects_device (type : DeviceType) : Rejects Plain type.record := by
  rw [DeviceType.record]
  split
  · exact rejects_error trivial
  · exact rejects_ok _

theorem rejects_meshVolume (type : DeviceType) : Rejects Plain type.meshVolume := by
  rw [DeviceType.meshVolume]
  split
  · exact rejects_ok _
  · exact rejects_error trivial

theorem rejects_openedMesh (type : DeviceType) : Rejects Plain type.openedMesh := by
  apply rejects_bind (rejects_meshVolume type)
  intro volume
  split
  · exact rejects_ok _
  · split
    · exact rejects_bind (rejects_toInt32 _ _) fun x => rejects_ok _
    · apply rejects_bind (rejects_toInt32 _ _)
      intro y
      exact rejects_bind (rejects_toInt32 _ _) fun x => rejects_ok _
    · exact rejects_error trivial

theorem rejects_cutLast (type : TensorType) : Rejects Plain type.cutLast := by
  rw [TensorType.cutLast]
  split
  · exact rejects_error trivial
  · exact rejects_ok _

theorem rejects_distribution (type : TensorType) (mesh : List Int64) :
    Rejects Plain (type.distribution mesh) := by
  rw [TensorType.distribution.eq_def]
  split
  · exact rejects_cutLast type
  · split
    · exact rejects_cutLast type
    · apply rejects_bind (rejects_toInt32 _ _)
      intro y
      exact rejects_bind (rejects_toInt32 _ _) fun x => rejects_ok _
  · exact rejects_error trivial

theorem rejects_strategy (type : TensorType) (device : Option DeviceType) :
    Rejects Plain (type.strategy device) := by
  cases device with
  | none => exact rejects_ok _
  | some device =>
      apply rejects_bind (rejects_meshVolume device)
      intro volume
      apply rejects_bind (rejects_toUInt32 _ _)
      intro shards
      split
      · exact rejects_ok _
      · exact rejects_bind (rejects_distribution type device.mesh) fun distribution => rejects_ok _

/-- A record for a new tensor fails for reasons of its own, or for those of the values. -/
theorem rejects_creationStrategy {P : LoweringError → Prop} {device : Option ValueId}
    {result : ValueId} (plain : ∀ error : LoweringError, error.Plain → P error)
    (devices : ∀ value ∈ device, Rejects (fun inner => P (.program inner)) (m.deviceType value))
    (created : Rejects (fun inner => P (.program inner)) (m.tensorType result)) :
    Rejects P (Operation.creationStrategy m device result) := by
  refine rejects_bind (rejects_mapError ?_) fun device => ?_
  · cases device with
    | none => exact rejects_ok none
    | some value => exact rejects_map some (devices value rfl)
  · refine rejects_bind (rejects_mapError created) fun type => ?_
    exact (rejects_strategy type device).imp plain

/-- The record of an operation fails for reasons of its own, or for those of the devices
that it uses and of the values that it defines. -/
theorem rejects_operation {P : LoweringError → Prop} {operation : Operation}
    (plain : ∀ error : LoweringError, error.Plain → P error)
    (devices : ∀ value ∈ operation.devices,
      Rejects (fun inner => P (.program inner)) (m.deviceType value))
    (opened : ∀ op, operation = .getDevice op →
      Rejects (fun inner => P (.program inner)) (m.deviceType op.result))
    (created : (∀ op, operation ≠ .getDevice op) → ∀ value ∈ operation.results,
      Rejects (fun inner => P (.program inner)) (m.tensorType value)) :
    Rejects P (operation.record m) := by
  cases operation with
  | getDevice op =>
      refine rejects_map _ (rejects_bind (rejects_mapError (opened op rfl)) fun type => ?_)
      exact rejects_bind ((rejects_openedMesh type).imp plain) fun mesh => rejects_ok _
  | empty op | full op =>
      have strategy : Rejects P (Operation.creationStrategy m op.device op.result) :=
        rejects_creationStrategy plain
          (fun value given => devices value (Option.mem_toList.mpr given))
          (created nofun op.result (List.mem_singleton_self op.result))
      exact rejects_map _ (rejects_bind strategy fun strategy => rejects_ok _)
  | meshShard op =>
      refine rejects_map _ ?_
      rw [Operation.MeshShard.record]
      split
      · exact rejects_ok _
      · exact rejects_error (plain _ trivial)
  | unregistered op => exact rejects_error (plain _ trivial)
  | _ => exact rejects_ok _

theorem rejects_cell (name : String) (cell : Cell) : Rejects Plain (cell.record name) := by
  apply rejects_bind (rejects_toInt32 _ _)
  intro y
  exact rejects_bind (rejects_toInt32 _ _) fun x => rejects_ok _

theorem rejects_system (system : System) : Rejects Plain system.record := by
  refine rejects_bind (rejects_mapM fun chip => ?_) fun chips => ?_
  · apply rejects_bind (rejects_cell _ _)
    intro grid
    exact rejects_bind (rejects_mapM fun size => rejects_cell _ size) fun sizes => rejects_ok _
  · refine rejects_bind (rejects_mapM fun link => ?_) fun links => rejects_ok _
    apply rejects_bind (rejects_cell _ _)
    intro first
    exact rejects_bind (rejects_cell _ _) fun second => rejects_ok _

end

/-! ## Tables -/

section

variable {m : Module}

theorem fails_freshGlobalId {P : LoweringError → Prop} : Fails P Interning.freshGlobalId := by
  rw [Interning.freshGlobalId]
  refine fails_bind fails_get fun interner => ?_
  exact fails_bind (fails_set _) fun _ => fails_pure _

theorem fails_placement (workers : WorkerGrid) (place : Placement) :
    Fails Plain (place.record workers) := by
  refine fails_bind (fails_lift (rejects_coreRanges place.grid workers)) fun cores => ?_
  refine fails_bind (Interning.fails_intern (fails_lift (rejects_region _ _))) fun memory => ?_
  exact fails_pure _

theorem fails_tensor (workers : WorkerGrid) (type : TensorType) (address size : UInt64) :
    Fails Plain (type.record workers address size) := by
  refine fails_bind (Interning.fails_intern (fails_placement workers _)) fun layout => ?_
  refine fails_bind (fails_lift (rejects_toInt32s _ _)) fun shape => ?_
  exact fails_bind fails_freshGlobalId fun globalId => fails_pure _

theorem fails_configRecord (config : MemoryConfig) : Fails Plain config.record := by
  refine fails_bind ?_ fun shard => fails_pure _
  cases config.shardShape with
  | none => exact fails_pure _
  | some shape => exact fails_map some (Interning.fails_intern (fails_pure _))

end

/-! ## Programs -/

namespace Lowering

theorem fails_interning {α : Type} {P : LoweringError → Prop} {action : Interning α}
    (described : Fails P action) : Fails P (interning action) := by
  intro before error after run
  exact described before.interner error after.interner (runs_interning.mp run).1

theorem fails_internTensor {workers : WorkerGrid} {value : ValueId} (type : TensorType) :
    Fails Plain
      (interning (Interning.intern .tensors (.value value) (type.record workers 0 0))) :=
  fails_interning (Interning.fails_intern (fails_tensor workers type 0 0))

theorem fails_internDevice {value : ValueId} (type : DeviceType) :
    Fails Plain (interning (Interning.intern .devices (.value value) (liftM type.record))) :=
  fails_interning (Interning.fails_intern (fails_lift (rejects_device type)))

theorem fails_memoryConfig (config : MemoryConfig) : Fails Plain (memoryConfig config) :=
  fails_interning (Interning.fails_intern (fails_configRecord config))

end Lowering

section

variable {m : Module}

/-- The steps of lowering verify nothing. -/
theorem closed_fails : Lowering.Closed m fun {_} action => Fails Early action where
  pure := fails_pure
  bind := fails_bind
  resolve value := by
    rw [Lowering.resolve]
    exact fails_bind fails_get fun state => fails_pure _
  lookup _ _ := Lowering.fails_interning (Interning.fails_lookup nofun)
  modify _ := fails_modify _
  program later := by
    intro before error after run
    rcases runs_bind.mp run with ⟨value, middle, found, rest⟩ | ⟨other, failed, same⟩
    · have known := mapError_eq_ok_iff.mp (runs_lift.mp found).1.symm
      exact later value known middle error after rest
    · cases same
      rcases mapError_eq_error_iff.mp (runs_lift.mp failed).1.symm with ⟨inner, _, rfl⟩
      exact early_program inner
  internTensor {_ type} _ :=
    (Lowering.fails_internTensor type).imp fun _ => LoweringError.Plain.early
  internDevice {_ type} _ :=
    (Lowering.fails_internDevice type).imp fun _ => LoweringError.Plain.early
  memoryConfig config :=
    (Lowering.fails_memoryConfig config).imp fun _ => LoweringError.Plain.early
  unplaced _ := fails_throw nofun
  encode operation := by
    apply fails_lift
    apply rejects_operation fun _ => LoweringError.Plain.early
    · exact fun value _ inner _ => early_program inner
    · exact fun op _ inner _ => early_program inner
    · exact fun _ value _ inner _ => early_program inner

/-- What comes before the frame does not fail with an error of verification. -/
theorem rejects_binary (options : LoweringOptions) : Rejects Early (m.binary options) := by
  rw [Module.binary]
  refine rejects_bind ?_ fun programs => ?_
  · have verifiesNothing : Fails Early (m.lowerFunctions options) :=
      closed_fails.lowerFunctions
        (Lowering.fails_interning (Interning.fails_intern (fails_pure _)))
    intro error failed
    exact verifiesNothing {} error _ (Prod.ext failed rfl)
  · have system := (rejects_system m.system).imp fun _ => LoweringError.Plain.early
    exact rejects_bind system fun system => rejects_ok _

end

end Tilework
