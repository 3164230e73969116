import Mathlib.Algebra.Order.Ring.Int
import Tilework.Proofs.Lowering.Descriptions
import Tilework.Proofs.Number

/-!
# Meshes and shards

The mesh that a program opens for a device and the distribution of the tensors on that
device are found separately, each from the sizes that the device lists.  The two agree as
long as there is any device at all: the mesh has one device for each shard, and whatever
is distributed is distributed over this very mesh.  In an artifact they agree wherever one
handle is both what an operation opens and where a tensor is created.
-/

namespace Tilework

open Artifact

/-! ## Sides of a mesh -/

namespace DeviceType

/-- The rows and columns of a line or a proper mesh.  A line is a single row. -/
def sides? (type : DeviceType) : Option (Int64 × Int64) :=
  match type.mesh with
  | [columns] => some (1, columns)
  | [rows, columns] => some (rows, columns)
  | _ => none

variable {type : DeviceType} {rows columns volume : Int64} {mesh : Extent}

theorem meshVolume_eq_ok_iff :
    type.meshVolume = .ok volume ↔ Number.product? type.mesh = some volume := by
  rw [meshVolume, meshVolume?]
  cases Number.product? type.mesh <;> simp

/-- The volume of a mesh is the area between its sides. -/
theorem area_of_sides? (counted : type.meshVolume = .ok volume)
    (sides : type.sides? = some (rows, columns)) :
    rows.toInt * columns.toInt = volume.toInt := by
  have product := meshVolume_eq_ok_iff.mp counted
  simp only [sides?] at sides
  split at sides
  next count listed =>
    cases sides
    rw [listed] at product
    rw [Number.eq_of_product?_singleton product, Int64.toInt_one, Int.one_mul]
  next listed =>
    cases sides
    rw [listed] at product
    exact Number.product?_pair_eq_some_iff.mp product
  next => cases sides

/-- A mesh of at most one device is opened as a mesh of one. -/
theorem openedMesh_of_le_one (counted : type.meshVolume = .ok volume)
    (single : volume.toInt ≤ 1) : type.openedMesh = .ok { y := 1, x := 1 } := by
  rw [openedMesh, counted]
  exact if_pos single

/-- The mesh that is opened for several devices has the sides of their mesh. -/
theorem sides?_of_openedMesh (counted : type.meshVolume = .ok volume)
    (several : 1 < volume.toInt) (opens : type.openedMesh = .ok mesh) :
    ∃ rows columns, type.sides? = some (rows, columns) ∧ mesh.y.toInt = rows.toInt ∧
      mesh.x.toInt = columns.toInt := by
  rw [openedMesh, counted] at opens
  replace opens := (if_neg (Int.not_le.mpr several)).symm.trans opens
  split at opens
  next columns listed =>
    obtain ⟨x, stored, done⟩ := bind_eq_ok_iff.mp opens
    cases done
    exact ⟨1, columns, by rw [sides?, listed], rfl, Number.toInt32_eq_ok_iff.mp stored⟩
  next rows columns listed =>
    obtain ⟨y, storedRows, rest⟩ := bind_eq_ok_iff.mp opens
    obtain ⟨x, storedColumns, done⟩ := bind_eq_ok_iff.mp rest
    cases done
    exact ⟨rows, columns, by rw [sides?, listed], Number.toInt32_eq_ok_iff.mp storedRows,
      Number.toInt32_eq_ok_iff.mp storedColumns⟩
  next => cases opens

end DeviceType

/-! ## Distribution -/

namespace TensorType

variable {tensor : TensorType} {device : DeviceType} {distribution : Distribution}
  {strategy : Strategy} {shards : UInt32}

theorem cutLast_eq_ok_iff :
    tensor.cutLast = .ok distribution ↔
      tensor.rank ≠ 0 ∧ distribution = .line { dimension := UInt32.ofNat (tensor.rank - 1) } := by
  rw [cutLast]
  split <;> simp_all [eq_comm]

/-- A tensor is cut along its last dimension over a mesh with a side of one, and across both
sides over any other mesh. -/
theorem sides?_of_distribution (distributes : tensor.distribution device.mesh = .ok distribution) :
    ∃ rows columns, device.sides? = some (rows, columns) ∧
      (((rows = 1 ∨ columns = 1) ∧ tensor.cutLast = .ok distribution) ∨
        (rows ≠ 1 ∧ columns ≠ 1 ∧ ∃ mesh : Extent, distribution = .mesh { mesh := some mesh } ∧
          mesh.y.toInt = rows.toInt ∧ mesh.x.toInt = columns.toInt)) := by
  unfold TensorType.distribution at distributes
  split at distributes
  next columns listed =>
    exact ⟨1, columns, by rw [DeviceType.sides?, listed], .inl ⟨.inl rfl, distributes⟩⟩
  next rows columns listed =>
    refine ⟨rows, columns, by rw [DeviceType.sides?, listed], ?_⟩
    split at distributes
    next unit => exact .inl ⟨unit, distributes⟩
    next proper =>
      obtain ⟨y, storedRows, rest⟩ := bind_eq_ok_iff.mp distributes
      obtain ⟨x, storedColumns, done⟩ := bind_eq_ok_iff.mp rest
      cases done
      exact .inr ⟨fun unit => proper (.inl unit), fun unit => proper (.inr unit), ⟨y, x⟩, rfl,
        Number.toInt32_eq_ok_iff.mp storedRows, Number.toInt32_eq_ok_iff.mp storedColumns⟩
  next => cases distributes

/-- The shards are as many as the devices, and a tensor in one piece is not distributed. -/
theorem strategy_some_eq_ok (spreads : tensor.strategy (some device) = .ok (strategy, shards)) :
    ∃ volume : Int64, device.meshVolume = .ok volume ∧ volume.toInt = shards.toNat ∧
      (shards = 1 ∧ strategy = {} ∨ shards ≠ 1 ∧ ∃ distribution,
        tensor.distribution device.mesh = .ok distribution ∧
          strategy = { distribution := some distribution }) := by
  obtain ⟨volume, counted, rest⟩ := bind_eq_ok_iff.mp spreads
  obtain ⟨count, stored, rest⟩ := bind_eq_ok_iff.mp rest
  have counts := (Number.toNat_of_toUInt32 stored).symm
  split at rest
  next single =>
    cases rest
    exact ⟨volume, counted, counts, .inl ⟨single, rfl⟩⟩
  next several =>
    obtain ⟨distribution, distributes, done⟩ := bind_eq_ok_iff.mp rest
    cases done
    exact ⟨volume, counted, counts, .inr ⟨several, distribution, distributes, rfl⟩⟩

end TensorType

/-! ## Agreement -/

/-- A mesh agrees with the way in which a tensor of some rank is distributed. -/
structure Artifact.Extent.Distributes (mesh : Extent) (rank : Nat) (strategy : Strategy)
    (shards : UInt32) : Prop where
  /-- There is one shard for each device. -/
  devices : mesh.y.toInt * mesh.x.toInt = shards.toNat
  /-- Only what is in one piece is not distributed. -/
  whole : strategy.distribution = none ↔ shards = 1
  /-- What is cut along a line is cut along its last dimension. -/
  line : ∀ cut, strategy.distribution = some (.line cut) →
    (mesh.y = 1 ∧ mesh.x ≠ 1 ∨ mesh.y ≠ 1 ∧ mesh.x = 1) ∧
      rank ≠ 0 ∧ cut.dimension = UInt32.ofNat (rank - 1)
  /-- What is cut across a mesh is cut across this one, which is no line. -/
  mesh : ∀ cut, strategy.distribution = some (.mesh cut) → cut.mesh = some mesh ∧
    (2 ≤ mesh.y.toInt ∧ 2 ≤ mesh.x.toInt ∨ mesh.y.toInt < 0 ∧ mesh.x.toInt < 0)

section

variable {device : DeviceType} {tensor : TensorType} {mesh : Extent} {strategy : Strategy}
  {shards : UInt32}

theorem Artifact.Extent.distributes_whole (rank : Nat) :
    ({ y := 1, x := 1 } : Extent).Distributes rank {} 1 where
  devices := rfl
  whole := iff_of_true rfl rfl
  line := nofun
  mesh := nofun

theorem two_le_or_neg_of_mul {rows columns : Int} (area : 0 < rows * columns)
    (notRow : rows ≠ 1) (notColumn : columns ≠ 1) :
    2 ≤ rows ∧ 2 ≤ columns ∨ rows < 0 ∧ columns < 0 := by
  rcases mul_pos_iff.mp area with positive | negative
  · omega
  · exact .inr negative

/-- The mesh that is opened for a device distributes every tensor on the device that is cut
into shards at all. -/
theorem distributes_of_openedMesh (opens : device.openedMesh = .ok mesh)
    (spreads : tensor.strategy (some device) = .ok (strategy, shards)) (cut : shards ≠ 0) :
    mesh.Distributes tensor.rank strategy shards := by
  obtain ⟨volume, counted, counts, ⟨rfl, rfl⟩ | ⟨several, distribution, distributes, rfl⟩⟩ :=
    TensorType.strategy_some_eq_ok spreads
  · rw [DeviceType.openedMesh_of_le_one counted (Int.le_of_eq counts)] at opens
    cases opens
    exact Artifact.Extent.distributes_whole tensor.rank
  · rw [ne_eq, ← UInt32.toNat_inj] at several cut
    have more : 1 < volume.toInt := by
      simp only [UInt32.toNat_ofNat] at several cut
      omega
    obtain ⟨rows, columns, sides, y_eq, x_eq⟩ :=
      DeviceType.sides?_of_openedMesh counted more opens
    obtain ⟨_, _, sameSides, splits⟩ := TensorType.sides?_of_distribution distributes
    cases sides.symm.trans sameSides
    have area := DeviceType.area_of_sides? counted sides
    have devices : mesh.y.toInt * mesh.x.toInt = shards.toNat := by rw [y_eq, x_eq, area, counts]
    have whole : some distribution = none ↔ shards = 1 := by
      simpa [← UInt32.toNat_inj] using several
    rcases splits with ⟨unit, last⟩ | ⟨notRow, notColumn, other, rfl, sameY, sameX⟩
    · obtain ⟨dimensions, rfl⟩ := TensorType.cutLast_eq_ok_iff.mp last
      refine ⟨devices, whole, ?_, nofun⟩
      rintro _ ⟨⟩
      refine ⟨?_, dimensions, rfl⟩
      rw [← Number.eq_one_iff_of_toInt_eq y_eq, ← Number.eq_one_iff_of_toInt_eq x_eq] at unit
      have notBoth : ¬ (mesh.y = 1 ∧ mesh.x = 1) := by
        rintro ⟨row, column⟩
        rw [row, column, ← counts] at devices
        exact absurd devices (Int.ne_of_lt more)
      rcases unit with row | column
      · exact .inl ⟨row, fun column => notBoth ⟨row, column⟩⟩
      · exact .inr ⟨fun row => notBoth ⟨row, column⟩, column⟩
    · have same : other = mesh := by
        rcases mesh with ⟨y, x⟩
        rcases other with ⟨otherY, otherX⟩
        cases Int32.toInt_inj.mp (sameY.trans y_eq.symm)
        cases Int32.toInt_inj.mp (sameX.trans x_eq.symm)
        rfl
      refine ⟨devices, whole, nofun, ?_⟩
      rintro _ ⟨⟩
      refine ⟨congrArg some same, ?_⟩
      rw [y_eq, x_eq]
      refine two_le_or_neg_of_mul (by omega) ?_ ?_
      · exact fun unit => notRow (Int64.toInt_inj.mp unit)
      · exact fun unit => notColumn (Int64.toInt_inj.mp unit)

end

/-! ## Created tensors -/

/-- What a record says about a tensor that it creates in shards. -/
structure Artifact.Creation (ρ : Type) where
  device : Option ρ
  strategy : Option Strategy
  shards : UInt32
  out : ρ

namespace Artifact.OperationRecord

variable {ρ τ : Type} {record : OperationRecord ρ} {linked : OperationRecord τ} {g : ρ → Option τ}

/-- The tensor that a record creates in shards. -/
def creation? : OperationRecord ρ → Option (Creation ρ)
  | empty op => some ⟨op.device, op.strategy, op.numShards, op.out⟩
  | full op => some ⟨op.device, op.strategy, op.numShards, op.out⟩
  | _ => none

theorem creation?_normalized (record : OperationRecord Handle) :
    record.normalized.creation? = record.creation? := by
  cases record <;> rfl

theorem getDevice_of_normalized {record : OperationRecord Handle} {opened : GetDevice Handle}
    (read : record.normalized = .getDevice opened) : record = .getDevice opened := by
  cases record <;> cases read
  rfl

/-- Linking a record keeps what it says about shards. -/
theorem creation?_of_mapM {creation : Creation τ} (replaced : record.mapM g = some linked)
    (created : linked.creation? = some creation) :
    ∃ device out, record.creation? = some ⟨device, creation.strategy, creation.shards, out⟩ ∧
      device.mapM g = some creation.device ∧ g out = some creation.out := by
  cases record
  all_goals
    simp only [OperationRecord.mapM, Option.bind_eq_bind, Option.bind_eq_some_iff,
      Option.pure_def, Option.some.injEq] at replaced
    repeat obtain ⟨_, _, replaced⟩ : ∃ _, _ ∧ _ := replaced
    subst replaced
    cases created
  all_goals exact ⟨_, _, rfl, by assumption, by assumption⟩

/-- Linking the record of an operation that opens a device keeps its mesh. -/
theorem getDevice_of_mapM {opened : GetDevice τ}
    (replaced : record.mapM g = some (.getDevice opened)) :
    ∃ out, record = .getDevice ⟨opened.mesh, opened.chips, out⟩ ∧ g out = some opened.out := by
  cases record
  all_goals
    simp only [OperationRecord.mapM, Option.bind_eq_bind, Option.bind_eq_some_iff,
      Option.pure_def, Option.some.injEq] at replaced
    repeat obtain ⟨_, _, replaced⟩ : ∃ _, _ ∧ _ := replaced
    cases replaced
  exact ⟨_, rfl, by assumption⟩

end Artifact.OperationRecord

namespace Operation

variable {m : Module} {operation : Operation}

theorem getDevice_of_record {opened : OperationRecord.GetDevice Reference}
    (encoded : operation.record m = .ok (.getDevice opened)) :
    ∃ op : GetDevice, opened.out = .opened op.result ∧ ∃ type mesh,
      m.deviceType op.result = .ok type ∧ type.openedMesh = .ok mesh ∧ opened.mesh = some mesh := by
  cases operation with
  | getDevice op =>
      obtain ⟨inner, encoded, same⟩ := map_eq_ok_iff.mp encoded
      cases same
      obtain ⟨type, typed, rest⟩ := bind_eq_ok_iff.mp encoded
      obtain ⟨mesh, opens, done⟩ := bind_eq_ok_iff.mp rest
      cases done
      exact ⟨op, rfl, type, mesh, mapError_eq_ok_iff.mp typed, opens, rfl⟩
  | empty op | full op | meshShard op =>
      obtain ⟨_, _, same⟩ := map_eq_ok_iff.mp encoded
      cases same
  | _ => cases encoded

/-- A tensor that is created in shards is distributed over the device it is created on. -/
theorem creation_of_record {record : OperationRecord Reference} {creation : Creation Reference}
    (encoded : operation.record m = .ok record) (created : record.creation? = some creation) :
    ∃ device result strategy, creation.device = device.map Reference.device ∧
      creation.out = .allocated result ∧ creation.strategy = some strategy ∧
      device.toList ⊆ operation.operands ∧
      creationStrategy m device result = .ok (strategy, creation.shards) := by
  cases operation with
  | empty op | full op =>
      obtain ⟨inner, made, rfl⟩ := map_eq_ok_iff.mp encoded
      obtain ⟨⟨strategy, shards⟩, spreads, done⟩ := bind_eq_ok_iff.mp made
      cases done
      cases created
      exact ⟨op.device, op.result, strategy, rfl, rfl, rfl, List.subset_append_left _ _, spreads⟩
  | getDevice op | meshShard op =>
      obtain ⟨_, _, same⟩ := map_eq_ok_iff.mp encoded
      cases same
      cases created
  | unregistered op => cases encoded
  | _ =>
      cases encoded
      cases created

theorem creationStrategy_some_eq_ok {device result : ValueId} {strategy : Strategy}
    {shards : UInt32} (spreads : creationStrategy m (some device) result = .ok (strategy, shards)) :
    ∃ type tensor, m.deviceType device = .ok type ∧ m.tensorType result = .ok tensor ∧
      tensor.strategy (some type) = .ok (strategy, shards) := by
  obtain ⟨found, typed, rest⟩ := bind_eq_ok_iff.mp spreads
  obtain ⟨tensor, tensorTyped, spreads⟩ := bind_eq_ok_iff.mp rest
  obtain ⟨type, deviceTyped, rfl⟩ := map_eq_ok_iff.mp (mapError_eq_ok_iff.mp typed)
  exact ⟨type, tensor, deviceTyped, mapError_eq_ok_iff.mp tensorTyped, spreads⟩

end Operation

/-! ## Entries -/

section

variable {m : Module} {interner : Interner} {function : Function} {instruction : Instruction}
  {entry : OperationEntry}

/-- The tensor that an entry of a program creates in shards. -/
def Artifact.OperationEntry.creation? (entry : OperationEntry) : Option (Creation Handle) :=
  entry.record.bind OperationRecord.creation?

/-- An entry that opens a device keeps the mesh that is opened for it. -/
theorem Instruction.Linked.opened {opened : OperationRecord.GetDevice Handle}
    (linked : instruction.Linked m interner function entry)
    (read : entry.normalized.record = some (.getDevice opened)) :
    ∃ device type mesh, m.deviceType device = .ok type ∧ type.openedMesh = .ok mesh ∧
      opened.mesh = some mesh ∧ interner.handle? .devices (.value device) = some opened.out := by
  obtain ⟨record, replaced, encoded, found, stored⟩ := linked.record
  have opens : replaced = .getDevice opened := by
    simp only [OperationEntry.normalized, stored, Option.map_some, Option.some.injEq] at read
    exact OperationRecord.getDevice_of_normalized read
  subst opens
  obtain ⟨out, rfl, held⟩ := OperationRecord.getDevice_of_mapM found
  obtain ⟨op, rfl, type, mesh, typed, opens, stored⟩ := Operation.getDevice_of_record encoded
  exact ⟨op.result, type, mesh, typed, opens, stored, held⟩

/-- An entry that creates a tensor in shards on a device keeps how it is distributed. -/
theorem Instruction.Linked.created {creation : Creation Handle} {handle : Handle}
    (linked : instruction.Linked m interner function entry)
    (read : entry.normalized.creation? = some creation) (placed : creation.device = some handle) :
    ∃ device ∈ instruction.operation.operands, ∃ type result tensor strategy,
      m.deviceType device = .ok type ∧ m.tensorType result = .ok tensor ∧
      tensor.strategy (some type) = .ok (strategy, creation.shards) ∧
      creation.strategy = some strategy ∧
      interner.handle? .devices (.value (function.root device)) = some handle ∧
      interner.handle? .tensors (.value result) = some creation.out := by
  obtain ⟨record, replaced, encoded, found, stored⟩ := linked.record
  have created : replaced.creation? = some creation := by
    rw [← OperationRecord.creation?_normalized, ← read]
    simp [OperationEntry.creation?, OperationEntry.normalized, stored]
  obtain ⟨device, out, said, devices, held⟩ := OperationRecord.creation?_of_mapM found created
  obtain ⟨device, result, strategy, rfl, rfl, given, used, spreads⟩ :=
    Operation.creation_of_record encoded said
  rw [placed] at devices
  cases device with
  | none => cases devices
  | some device =>
      obtain ⟨type, tensor, typed, tensorTyped, spreads⟩ :=
        Operation.creationStrategy_some_eq_ok spreads
      obtain ⟨_, deviceHeld, same⟩ := Option.map_eq_some_iff.mp devices
      cases same
      exact ⟨device, used (by simp), type, result, tensor, strategy, typed, tensorTyped, spreads,
        given, deviceHeld, held⟩

end

/-! ## Artifacts -/

/-- Wherever a program opens a device and creates a tensor in shards on it, the opened mesh
agrees with how the tensor is distributed. -/
def Artifact.Program.MeshesAgree (objects : ObjectTables) (program : Program) : Prop :=
  ∀ opening ∈ program.operations, ∀ creating ∈ program.operations, ∀ opened creation,
    opening.record = some (.getDevice opened) → creating.creation? = some creation →
      creation.device = some opened.out → creation.shards ≠ 0 →
        ∃ mesh strategy tensor description, opened.mesh = some mesh ∧
          creation.strategy = some strategy ∧
          objects.tensors[creation.out.toNat]? = some tensor ∧
          tensor.description = some description ∧
          mesh.Distributes description.shape.length strategy creation.shards

/-- What is read back from the program of a function opens meshes that agree with how its
tensors are distributed. -/
theorem Function.Linked.meshesAgree {m : Module} {options : LoweringOptions}
    {interner : Interner} {function : Function} {program : Program}
    (wellFormed : function.WellFormed m) (sound : interner.Sound m options)
    (small : ∀ table, (interner.objects.records table).length < UInt32.size)
    (linked : function.Linked m interner program) :
    program.normalized.MeshesAgree interner.objects := by
  intro opening openingMember creating creatingMember opened creation opens creates placed cut
  obtain ⟨openEntry, openMember, rfl⟩ := List.mem_map.mp openingMember
  obtain ⟨createEntry, createMember, rfl⟩ := List.mem_map.mp creatingMember
  obtain ⟨_, opener⟩ := exists_mem_zip_right linked.operations openMember
  obtain ⟨creator, pair, creates'⟩ := exists_mem_zip_right linked.operations createMember
  obtain ⟨device, type, mesh, typed, found, kept, held⟩ := opener.2.opened opens
  obtain ⟨other, used, otherType, result, tensor, strategy, otherTyped, tensorTyped, spreads,
    given, otherHeld, tensorHeld⟩ := creates'.created creates placed
  -- Both devices have one handle, and so the one is the root of the other.
  have same : function.root other = device :=
    Key.value.inj (Interner.handle?_inj small otherHeld held)
  have defined : other ∈ function.definedValues :=
    wellFormed.operand_mem (List.of_mem_zip pair).1 used
  rw [← deviceType_root wellFormed defined, same, typed] at otherTyped
  cases otherTyped
  obtain ⟨described, describedType, row, description, _, _, stored, _, _, detail, shape, _⟩ :=
    sound.describesTensor small tensorHeld
  rw [tensorTyped] at describedType
  cases describedType
  have rank : description.shape.length = tensor.rank := by
    simpa [TensorType.rank] using congrArg List.length shape
  refine ⟨mesh, strategy, row, description, kept, given, stored, detail, ?_⟩
  rw [rank]
  exact distributes_of_openedMesh found spreads cut

/-- The mesh that is opened for a device and the distribution of a tensor on that device
agree whenever there is a shard at all, and so they do in the artifact of every module. -/
theorem meshes_distribute :
    (∀ (device : DeviceType) (tensor : TensorType) (mesh : Extent) (strategy : Strategy)
      (shards : UInt32), device.openedMesh = .ok mesh →
        tensor.strategy (some device) = .ok (strategy, shards) → shards ≠ 0 →
          mesh.Distributes tensor.rank strategy shards) ∧
    ∀ (m : Module) (options : LoweringOptions) (buffer : Bytes), m.Built →
      m.lower options = .ok buffer →
        ∃ binary objects, Binary.ofFrame buffer = .ok binary ∧ binary.objects = some objects ∧
          ∀ program ∈ binary.programs, program.MeshesAgree objects := by
  constructor
  · intro device tensor mesh strategy shards opens spreads cut
    exact distributes_of_openedMesh opens spreads cut
  · intro m options buffer built lowered
    obtain ⟨binary, assembled, framed, verified⟩ := Module.lower_eq_ok_iff.mp lowered
    have decoded := ofFrame_of_verified framed verified
    obtain ⟨programs, system, ran, _, rfl⟩ := Module.binary_eq_ok_iff.mp assembled
    refine ⟨_, _, decoded, rfl, ?_⟩
    intro program member
    obtain ⟨linkedProgram, linkedMember, rfl⟩ := List.mem_map.mp member
    obtain ⟨function, pair, linked⟩ :=
      exists_mem_zip_right (built.wellFormed.linked ran) linkedMember
    exact linked.meshesAgree (built.wellFormed.function function (List.of_mem_zip pair).1)
      (m.sound_interner options) (length_records_lt framed rfl)

/-- A tensor of two dimensions. -/
def squareTile : TensorType where
  shape := [32, 32]
  dataType := .float32
  placement :=
    { grid := ⟨1, 1⟩
      region := { shape := [32, 32], element := .scalar .float32, buffer := .dram }
      banks := some .interleaved }

/-- A draft of a function that opens a device with some mesh, and allocates one tensor and
fills another one on it. -/
def createdDraft (mesh : List Int64) : Draft :=
  let target : Target := { workers := { rows := 1, columns := 1 }, chips := [0], mesh := [1] }
  let draft : Draft := { module := { system := .single, target }, name := "create" }
  let (device, draft) := draft.value (.device { chips := [0], mesh })
  let (allocated, draft) := draft.value (.tensor squareTile)
  let (filled, draft) := draft.value (.tensor squareTile)
  let draft := draft.append { operation := .getDevice { result := device } }
  let draft := draft.append
    { operation := .empty
        { shape := [32, 32]
          dataType := .float32
          format := .rowMajor
          device := some device
          memoryConfig := { banks := .interleaved, buffer := .dram }
          result := allocated } }
  draft.append
    { operation := .full { device := some device, fillValue := ⟨0⟩, result := filled } }

/-- The module of this function. -/
def created (mesh : List Int64) : Module :=
  ((createdDraft mesh).finish [⟨1⟩, ⟨2⟩]).1

theorem built_created (mesh : List Int64) : (created mesh).Built :=
  .finish (.empty _ _)
    (.append (.append (.append (.value (.value (.value (.start _) _) _) _) _) _) _) _

theorem exists_lower_created : ∃ buffer, (created [2, 4]).lower {} = .ok buffer :=
  Module.exists_lower_of_accepted (by decide +kernel)

theorem meshes_distribute_created :
    (({ chips := [0], mesh := [2, 4] } : DeviceType).openedMesh = .ok { y := 2, x := 4 } ∧
      squareTile.strategy (some { chips := [0], mesh := [2, 4] }) =
        .ok ({ distribution := some (.mesh { mesh := some { y := 2, x := 4 } }) }, 8) ∧
      ({ y := 2, x := 4 } : Extent).Distributes squareTile.rank
        { distribution := some (.mesh { mesh := some { y := 2, x := 4 } }) } 8) ∧
    (created [2, 4]).Built ∧ ∃ buffer, (created [2, 4]).lower {} = .ok buffer ∧
      ∃ binary objects, Binary.ofFrame buffer = .ok binary ∧ binary.objects = some objects ∧
        ∀ program ∈ binary.programs, program.MeshesAgree objects := by
  have opens : ({ chips := [0], mesh := [2, 4] } : DeviceType).openedMesh =
      .ok { y := 2, x := 4 } := by decide
  have spreads : squareTile.strategy (some { chips := [0], mesh := [2, 4] }) =
      .ok ({ distribution := some (.mesh { mesh := some { y := 2, x := 4 } }) }, 8) := by decide
  obtain ⟨buffer, lowered⟩ := exists_lower_created
  exact ⟨⟨opens, spreads, meshes_distribute.1 _ _ _ _ _ opens spreads (by decide)⟩,
    built_created _, buffer, lowered, meshes_distribute.2 _ _ _ (built_created _) lowered⟩

/-- A mesh of no devices is opened as a mesh of one, while a tensor on it is cut into no
shards at all.  Over a mesh with negative sides a tensor is distributed as over any other. -/
theorem strategy_of_emptyMesh_and_negativeMesh :
    (({ chips := [0], mesh := [0] } : DeviceType).openedMesh = .ok { y := 1, x := 1 } ∧
      squareTile.strategy (some { chips := [0], mesh := [0] }) =
        .ok ({ distribution := some (.line { dimension := 1 }) }, 0) ∧
      ¬ (1 : Int32).toInt * (1 : Int32).toInt = (0 : UInt32).toNat) ∧
    (({ chips := [0], mesh := [-2, -3] } : DeviceType).openedMesh = .ok { y := -2, x := -3 } ∧
      squareTile.strategy (some { chips := [0], mesh := [-2, -3] }) =
        .ok ({ distribution := some (.mesh { mesh := some { y := -2, x := -3 } }) }, 6) ∧
      ¬ (2 ≤ (-2 : Int32).toInt ∧ 2 ≤ (-3 : Int32).toInt)) := by
  decide

end Tilework
