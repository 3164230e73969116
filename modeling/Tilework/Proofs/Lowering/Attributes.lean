import Tilework.Proofs.Artifact.Checks
import Tilework.Proofs.Lowering.Descriptions

/-!
# What records keep of attributes

The record of an operation, together with the memory configuration that it refers to, tells
the attributes of the operation, with three exceptions.  The numbers of a range are rounded to
binary32, dimensions of a reduction that are absent are recorded like an empty list of them,
and parameters that the kind of an elementwise operation does not take are left out.

A handle alone does not tell a memory configuration: it is a position in a table.  So records
are read together with the tables of memory configurations and of shard shapes.
-/

namespace Tilework

open Artifact Interner

namespace Operation

/-! ## Operations that are recorded alike -/

/-- Two operations of one kind that read, write into and define the same values. -/
structure SameValues (a b : Operation) : Prop where
  kind : a.kind? = b.kind?
  operands : a.operands = b.operands
  destination : a.destination = b.destination
  results : a.results = b.results

/-- Two operations that differ at most in what no record keeps. -/
inductive Alike : Operation → Operation → Prop
  | same (operation : Operation) : Alike operation operation
  | arange {op : Arange} {start stop step : Int64}
      (sameStart : Single.ofInt op.start.toInt = Single.ofInt start.toInt)
      (sameStop : Single.ofInt op.stop.toInt = Single.ofInt stop.toInt)
      (sameStep : Single.ofInt op.step.toInt = Single.ofInt step.toInt) :
      Alike (.arange op) (.arange { op with start, stop, step })
  | reduction {op : Reduction} {dims : Option (List Int32)}
      (same : op.dims.getD [] = dims.getD []) : Alike (.reduction op) (.reduction { op with dims })
  | elementwise {op : Elementwise} {parameters : Option ElementwiseParameters}
      (same : op.kind.parameters op.parameters = op.kind.parameters parameters) :
      Alike (.elementwise op) (.elementwise { op with parameters })

variable {m n : Module} {a b : Operation} {record other : OperationRecord Reference}

/-- Operations that are alike are not told apart by anything that is made from their records. -/
theorem Alike.lower_eq (alike : a.Alike b) : a.lower m = b.lower m := by
  have records : a.record m = b.record m := by
    cases alike with
    | same operation => rfl
    | arange sameStart sameStop sameStep =>
        simp only [Operation.record, sameStart, sameStop, sameStep]
    | reduction same => simp only [Operation.record, same]
    | elementwise same =>
        simp only [Operation.record, same]
        rfl
  rw [lower, lower, records]

theorem SameValues.inputs (same : a.SameValues b) : a.signature.inputs = b.signature.inputs := by
  have operands := same.operands
  have destination : a.signature.destination = b.signature.destination := same.destination
  rw [Operation.operands, Operation.operands, destination] at operands
  exact List.append_cancel_right operands

end Operation

/-! ## Attributes in records -/

theorem Artifact.Coded.map_of_inj {ε : Type} [Enumeration ε] [CompleteEnumeration ε] [BEq ε]
    [LawfulBEq ε] {value other : Option ε} :
    value.map Coded.of = other.map Coded.of ↔ value = other :=
  (Option.map_injective fun _ _ => Coded.of_inj.mp).eq_iff

theorem CollectiveReduction.ordinal_inj {reduction other : CollectiveReduction} :
    reduction.ordinal = other.ordinal ↔ reduction = other := by
  cases reduction <;> cases other <;> decide

theorem Spatial.toList_inj {α : Type} {pair other : Spatial α} :
    pair.toList = other.toList ↔ pair = other := by
  cases pair
  cases other
  simp [toList]

theorem ScaleFactor.record_inj {factor other : ScaleFactor} :
    factor.record = other.record ↔ factor = other := by
  cases factor <;> cases other <;> simp [record]

theorem toList_inj {α : Type} {a b : Option α} : a.toList = b.toList ↔ a = b := by
  cases a <;> cases b <;> simp

namespace Operation

variable {m n : Module} {a b : Operation} {record other : OperationRecord Reference}

theorem exists_of_empty {op : Empty} (encoded : (empty op).record m = .ok record) :
    ∃ strategy numShards, record = .empty
      { shape := op.shape
        dataType := .of op.dataType
        format := .of op.format
        numShards
        device := op.device.map .device
        memoryConfig := .memoryConfig op.memoryConfig
        strategy := some strategy
        out := .allocated op.result } := by
  obtain ⟨inner, found, rfl⟩ := map_eq_ok_iff.mp encoded
  obtain ⟨⟨strategy, numShards⟩, _, rest⟩ := bind_eq_ok_iff.mp found
  cases rest
  exact ⟨strategy, numShards, rfl⟩

theorem exists_of_full {op : Full} (encoded : (full op).record m = .ok record) :
    ∃ strategy numShards, record = .full
      { device := op.device.map .device
        fillValue := op.fillValue
        numShards
        strategy := some strategy
        out := .allocated op.result } := by
  obtain ⟨inner, found, rfl⟩ := map_eq_ok_iff.mp encoded
  obtain ⟨⟨strategy, numShards⟩, _, rest⟩ := bind_eq_ok_iff.mp found
  cases rest
  exact ⟨strategy, numShards, rfl⟩

theorem eq_of_meshShard {op : MeshShard} (encoded : (meshShard op).record m = .ok record) :
    record = .meshShard
      { input := .tensor op.input
        out := .allocated op.result
        device := .device op.device
        shardDirection := .of op.shardDirection
        shardKind := .of op.shardKind
        shardShape := op.shardShape
        shardDims := op.shardDims } := by
  obtain ⟨inner, found, rfl⟩ := map_eq_ok_iff.mp encoded
  rw [MeshShard.record] at found
  split at found
  · cases found
    rfl
  · cases found

/-- Operations with the same values and memory configurations, whose records differ at most in
what their slots hold, are alike. -/
theorem SameValues.alike_of_erased (same : a.SameValues b) (encoded : a.record m = .ok record)
    (otherEncoded : b.record n = .ok other) (erased : record.erased = other.erased)
    (configs : a.memoryConfig? = b.memoryConfig?) : a.Alike b := by
  have kinds := same.kind
  have inputs := same.inputs
  have destination : a.signature.destination = b.signature.destination := same.destination
  have results : a.signature.results = b.signature.results := same.results
  clear same
  cases a <;> cases b <;> first | (cases kinds; done) | skip
  case unregistered.unregistered => cases encoded
  case getDevice.getDevice a b =>
    cases a
    cases b
    cases results
    exact .same _
  all_goals
    rename_i a b
    first
    | cases encoded
      cases otherEncoded
    | obtain ⟨_, _, rfl⟩ := exists_of_empty encoded
      obtain ⟨_, _, rfl⟩ := exists_of_empty otherEncoded
    | obtain ⟨_, _, rfl⟩ := exists_of_full encoded
      obtain ⟨_, _, rfl⟩ := exists_of_full otherEncoded
    | cases eq_of_meshShard encoded
      cases eq_of_meshShard otherEncoded
    cases a
    cases b
    simp only [signature, memoryConfig?, OperationRecord.erased, OperationRecord.mapM,
      Conversion.record, ConstantFill.record, Id.run_bind, Id.run_pure]
      at inputs destination results configs erased
    simp [Coded.of_inj, Coded.map_of_inj, CollectiveReduction.ordinal_inj, Spatial.toList_inj,
      ScaleFactor.record_inj, toList_inj] at inputs destination results configs erased
  case arange.arange =>
    obtain ⟨start, stop, step, rfl, _⟩ := erased
    cases inputs
    cases results
    cases configs
    exact .arange start stop step
  case reduction.reduction =>
    obtain ⟨rfl, dims, rfl⟩ := erased
    cases inputs
    cases results
    exact .reduction dims
  case elementwise.elementwise =>
    obtain ⟨rfl, _, parameters⟩ := erased
    cases inputs
    cases destination
    cases results
    exact .elementwise parameters
  all_goals
    simp_all only
    exact .same _

end Operation

/-! ## Memory configurations -/

/-- A handle for a memory configuration is the one of its row. -/
def Reference.Stored (interner : Interner) (reference : Reference) (handle : Handle) : Prop :=
  ∀ config, reference = .memoryConfig config →
    interner.handle? .memoryConfigs (.memoryConfig config) = some handle

/-- A record with handles is made from an operation.  The memory configuration of the
operation is found at its handle. -/
def Operation.Encodes (m : Module) (interner : Interner) (operation : Operation)
    (linked : OperationRecord Handle) : Prop :=
  ∃ record, operation.record m = .ok record ∧ record.Filled (Reference.Stored interner) linked

/-- Two artifacts have the same memory configurations at the same handles. -/
structure Artifact.ObjectTables.SameConfigs (objects others : ObjectTables) : Prop where
  memoryConfigs : objects.memoryConfigs = others.memoryConfigs
  shards : objects.shards = others.shards

theorem Artifact.ObjectTables.DescribesMemoryConfig.config_eq {objects others : ObjectTables}
    {config other : MemoryConfig} {handle : Handle}
    (described : objects.DescribesMemoryConfig config handle)
    (otherDescribed : others.DescribesMemoryConfig other handle)
    (same : objects.SameConfigs others) : config = other := by
  obtain ⟨record, stored, banks, buffer, shard⟩ := described
  obtain ⟨otherRecord, otherStored, otherBanks, otherBuffer, otherShard⟩ := otherDescribed
  rw [same.memoryConfigs, otherStored] at stored
  cases stored
  rw [same.shards, otherShard] at shard
  have sameBanks := Option.some.inj (Coded.of_inj.mp (banks.symm.trans otherBanks))
  have sameBuffer := Coded.of_inj.mp (buffer.symm.trans otherBuffer)
  have sameShard : config.shardShape = other.shardShape := by
    refine Option.map_injective ?_ shard.symm
    intro shape otherShape same
    cases same
    rfl
  cases config
  cases other
  simp_all only

section

variable {m n : Module} {options otherOptions : LoweringOptions} {interner other : Interner}
  {a b : Operation} {linked : OperationRecord Handle} {config : MemoryConfig} {handle : Handle}

theorem Operation.Encodes.exists_handle (encodes : a.Encodes m interner linked)
    (asked : a.memoryConfig? = some config) :
    ∃ handle, (Role.memoryConfig, handle) ∈ linked.slots ∧
      interner.handle? .memoryConfigs (.memoryConfig config) = some handle := by
  obtain ⟨record, encoded, filled⟩ := encodes
  have slot := Operation.memoryConfig_mem_of_record encoded asked
  obtain ⟨⟨role, handle⟩, pair, sameRole, stored⟩ := exists_mem_zip filled.slots slot
  cases sameRole
  exact ⟨handle, (List.of_mem_zip pair).2, stored config rfl⟩

theorem Operation.Encodes.exists_config (encodes : a.Encodes m interner linked)
    (slot : (Role.memoryConfig, handle) ∈ linked.slots) :
    ∃ config, a.memoryConfig? = some config ∧
      interner.handle? .memoryConfigs (.memoryConfig config) = some handle := by
  obtain ⟨record, encoded, filled⟩ := encodes
  obtain ⟨⟨role, reference⟩, pair, sameRole, stored⟩ := exists_mem_zip_right filled.slots slot
  cases sameRole
  cases Operation.fits_of_record encoded _ (List.of_mem_zip pair).1 with
  | @memoryConfig config asked => exact ⟨config, asked, stored config rfl⟩

/-- Handles mean the same memory configuration in the tables of two artifacts. -/
def Interner.Agree (interner other : Interner) : Prop :=
  ∀ config otherConfig handle,
    interner.handle? .memoryConfigs (.memoryConfig config) = some handle →
      other.handle? .memoryConfigs (.memoryConfig otherConfig) = some handle → config = otherConfig

theorem Interner.Agree.symm (agree : interner.Agree other) : other.Agree interner :=
  fun _ _ _ found otherFound => (agree _ _ _ otherFound found).symm

theorem Interner.Sound.agree (sound : interner.Sound m options)
    (otherSound : other.Sound n otherOptions)
    (small : ∀ table, (interner.objects.records table).length < UInt32.size)
    (otherSmall : ∀ table, (other.objects.records table).length < UInt32.size)
    (same : interner.objects.SameConfigs other.objects) : interner.Agree other :=
  fun _ _ _ found otherFound => (sound.describesMemoryConfig small found).config_eq
    (otherSound.describesMemoryConfig otherSmall otherFound) same

theorem Operation.Encodes.memoryConfig?_eq_some (encodes : a.Encodes m interner linked)
    (otherEncodes : b.Encodes n other linked) (agree : interner.Agree other)
    (asked : a.memoryConfig? = some config) : b.memoryConfig? = some config := by
  obtain ⟨handle, slot, found⟩ := encodes.exists_handle asked
  obtain ⟨otherConfig, otherAsked, otherFound⟩ := otherEncodes.exists_config slot
  rw [agree config otherConfig handle found otherFound]
  exact otherAsked

/-- Two operations with the same record are alike. -/
theorem Operation.Encodes.alike (encodes : a.Encodes m interner linked)
    (otherEncodes : b.Encodes n other linked) (agree : interner.Agree other)
    (same : a.SameValues b) : a.Alike b := by
  have configs : a.memoryConfig? = b.memoryConfig? := Option.ext fun config =>
    ⟨encodes.memoryConfig?_eq_some otherEncodes agree,
      otherEncodes.memoryConfig?_eq_some encodes agree.symm⟩
  obtain ⟨record, encoded, filled⟩ := encodes
  obtain ⟨otherRecord, otherEncoded, otherFilled⟩ := otherEncodes
  exact same.alike_of_erased encoded otherEncoded
    (filled.erased.symm.trans otherFilled.erased) configs

end

/-! ## Contexts -/

/-- The states of a lowering context, which starts with empty tables and is asked for
references, operations and functions one after another, whether this succeeds or not. -/
inductive LoweringState.Reached (m : Module) (options : LoweringOptions) : LoweringState → Prop
  | empty : Reached m options {}
  | debugInfo {before after : LoweringState} {outcome : Except LoweringError Handle}
      (reached : Reached m options before)
      (run : Runs (Lowering.interning (Interning.intern .debugInfos .debugInfo
        (pure (options.debugRecord m.text)))) before outcome after) : Reached m options after
  | reference {before after : LoweringState} {outcome : Except LoweringError Handle}
      {reference : Reference} (reached : Reached m options before)
      (run : Runs (reference.link m) before outcome after) : Reached m options after
  | operation {before after : LoweringState}
      {outcome : Except LoweringError (OperationRecord Handle)} {operation : Operation}
      (reached : Reached m options before)
      (run : Runs (operation.lower m) before outcome after) : Reached m options after
  | function {before after : LoweringState} {outcome : Except LoweringError Program}
      {function : Function} {debugInfo : Handle} (reached : Reached m options before)
      (run : Runs (function.lower m debugInfo) before outcome after) : Reached m options after

section

variable {m : Module} {options : LoweringOptions} {interner : Interner} {a b operation : Operation}
  {before after otherAfter : LoweringState} {linked : OperationRecord Handle}

theorem LoweringState.Reached.sound (reached : before.Reached m options) :
    before.interner.Sound m options := by
  induction reached with
  | empty => exact sound_empty
  | debugInfo _ run sound =>
      exact (Lowering.advances_interning advances_debugInfo _ _ _ run).2 sound
  | reference _ run sound => exact (closed_advances.link _ _ _ _ run).2 sound
  | operation _ run sound => exact (closed_advances.operation _ _ _ _ run).2 sound
  | function _ run sound => exact (closed_advances.function _ _ _ _ _ run).2 sound

/-- Steps that link references one after another, and what may stand for the references in
finished tables. -/
def Fills (interner : Interner) {α : Type} (steps : Lowering α) (values : SetM α)
    (_ : List Reference) : Prop :=
  ∀ before value after, Runs steps before (.ok value) after →
    before.interner.Grows after.interner ∧ (after.interner.Grows interner → value ∈ values.run)

theorem fills_relates (distinct : interner.Distinct) :
    OperationRecord.Relates (Reference.link m) (OperationRecord.choices (Reference.Stored interner))
      (Fills interner) where
  pure value := by
    intro before result after run
    obtain ⟨same, rfl⟩ := runs_pure.mp run
    exact ⟨Std.Refl.refl _, fun _ => OperationRecord.mem_run_pure.mpr (Except.ok.inj same.symm)⟩
  bind {α β first second next other references later} firstFills nextFills := by
    intro before result after run
    obtain ⟨value, middle, ran, rest⟩ := runs_bind_ok.mp run
    obtain ⟨grows, chosen⟩ := firstFills before value middle ran
    obtain ⟨growsLater, chosenLater⟩ := nextFills value middle result after rest
    refine ⟨IsTrans.trans _ _ _ grows growsLater, fun whole => ?_⟩
    exact OperationRecord.mem_run_bind.mpr
      ⟨value, chosen (IsTrans.trans _ _ _ growsLater whole), chosenLater whole⟩
  step reference := by
    intro before handle after run
    have advances : Keeps (LoweringState.Advances m {}) (reference.link m) :=
      closed_advances.link reference
    refine ⟨(advances before _ after run).1, fun whole config same => ?_⟩
    subst same
    exact handle?_of_grows whole distinct (Lowering.handle?_of_runs_intern run).1

/-- An operation is recorded as it is in whatever state it is lowered. -/
theorem Operation.encodes_of_runs (run : Runs (operation.lower m) before (.ok linked) after)
    (distinct : after.interner.Distinct) : operation.Encodes m after.interner linked := by
  obtain ⟨record, middle, encoded, replaced⟩ := runs_bind_ok.mp run
  obtain ⟨encoded_eq, rfl⟩ := runs_lift.mp encoded
  have relates := fills_relates (m := m) distinct
  have chosen := (relates.mapM record _ linked after replaced).2 (Std.Refl.refl _)
  exact ⟨record, encoded_eq.symm, OperationRecord.filled_of_mem chosen⟩

/-- Two operations with the same record in a context are alike. -/
theorem LoweringState.Reached.alike (reached : before.Reached m options) (same : a.SameValues b)
    (run : Runs (a.lower m) before (.ok linked) after)
    (otherRun : Runs (b.lower m) before (.ok linked) otherAfter)
    (small : ∀ table, (after.interner.objects.records table).length < UInt32.size)
    (otherSmall : ∀ table, (otherAfter.interner.objects.records table).length < UInt32.size)
    (configs : after.interner.objects.SameConfigs otherAfter.interner.objects) : a.Alike b := by
  have sound := (reached.operation run).sound
  have otherSound := (reached.operation otherRun).sound
  exact (a.encodes_of_runs run sound.distinct).alike
    (b.encodes_of_runs otherRun otherSound.distinct)
    (sound.agree otherSound small otherSmall configs) same

/-- An operation on the same values has the same record, and leaves the same state behind, exactly
if it is alike. -/
theorem LoweringState.Reached.alike_iff (reached : before.Reached m options)
    (same : a.SameValues b) (run : Runs (a.lower m) before (.ok linked) after)
    (small : ∀ table, (after.interner.objects.records table).length < UInt32.size) :
    a.Alike b ↔ Runs (b.lower m) before (.ok linked) after := by
  constructor
  · intro alike
    rwa [← alike.lower_eq]
  · intro otherRun
    exact reached.alike same run otherRun small small ⟨rfl, rfl⟩

end

/-! ## Programs -/

/-- The records of all operations, program by program. -/
def Artifact.Binary.operationRecords (binary : Binary) :
    List (List (Option (OperationRecord Handle))) :=
  binary.programs.map fun program => program.operations.map OperationEntry.record

/-- What holds of each two operations in the same place of two modules. -/
def Module.Pointwise (related : Operation → Operation → Prop) (m n : Module) : Prop :=
  List.Forall₂
    (fun function other => List.Forall₂
      (fun instruction another => related instruction.operation another.operation) function.body
      other.body)
    m.functions n.functions

section

variable {m n : Module} {options otherOptions : LoweringOptions} {binary other : Binary}
  {interner : Interner} {function : Function} {instruction : Instruction} {entry : OperationEntry}

theorem Instruction.Linked.encodes (linked : instruction.Linked m interner function entry) :
    ∃ record, entry.record = some record ∧ instruction.operation.Encodes m interner record := by
  obtain ⟨record, replaced, encoded, found, stored⟩ := linked.record
  refine ⟨replaced, stored, record, encoded, ?_⟩
  refine (OperationRecord.filled_of_mapM found).imp fun reference handle held config same => ?_
  subst same
  exact held

/-- All operations of a module are recorded as they are. -/
theorem Module.WellFormed.encodes (wellFormed : m.WellFormed)
    (assembled : m.binary options = .ok binary) :
    List.Forall₂
      (fun function records => List.Forall₂
        (fun instruction stored => ∃ record, stored = some record ∧
          instruction.operation.Encodes m (m.interner options) record) function.body records)
      m.functions binary.operationRecords := by
  obtain ⟨programs, system, ran, _, rfl⟩ := Module.binary_eq_ok_iff.mp assembled
  refine List.forall₂_map_right_iff.mpr ((wellFormed.linked ran).imp ?_)
  intro function program linked
  exact List.forall₂_map_right_iff.mpr (linked.operations.imp fun _ _ each => each.encodes)

/-- Two modules with the same records in their artifacts have operations that are alike. -/
theorem Module.Built.pointwise_alike {buffer otherBuffer : Bytes} (built : m.Built)
    (otherBuilt : n.Built) (lowered : m.lower options = .ok buffer)
    (otherLowered : n.lower otherOptions = .ok otherBuffer)
    (assembled : m.binary options = .ok binary) (otherAssembled : n.binary otherOptions = .ok other)
    (same : m.Pointwise Operation.SameValues n)
    (records : binary.operationRecords = other.operationRecords)
    (configs : Option.Rel ObjectTables.SameConfigs binary.objects other.objects) :
    m.Pointwise Operation.Alike n := by
  have encodes := built.wellFormed.encodes assembled
  have otherEncodes := otherBuilt.wellFormed.encodes otherAssembled
  obtain ⟨_, _, _, small, _⟩ := built.wellFormed.decoded lowered
  obtain ⟨_, _, _, otherSmall, _⟩ := otherBuilt.wellFormed.decoded otherLowered
  obtain ⟨_, _, _, _, rfl⟩ := Module.binary_eq_ok_iff.mp assembled
  obtain ⟨_, _, _, _, rfl⟩ := Module.binary_eq_ok_iff.mp otherAssembled
  cases configs with
  | some configs =>
      have agree := (m.sound_interner options).agree (n.sound_interner otherOptions) small
        otherSmall configs
      rw [← records] at otherEncodes
      refine forall₂_of_triangle same encodes otherEncodes ?_
      intro function another stored bodies each otherEach
      refine forall₂_of_triangle bodies each otherEach ?_
      rintro instruction other _ values ⟨record, rfl, encoded⟩ ⟨_, found, otherEncoded⟩
      cases found
      exact encoded.alike otherEncoded agree values

end

/-! ## Ranges -/

/-- A range that ends before a given number. -/
def rangeTo (stop : Int64) : Operation :=
  .arange
    { start := 0, stop, step := 1, dataType := none, device := none, memoryConfig := none
      result := ⟨0⟩ }

/-- A draft of a function that returns such a range. -/
def rangeDraft (stop : Int64) : Draft :=
  let target : Target := { workers := { rows := 1, columns := 1 }, chips := [0], mesh := [1] }
  let tensor : ValueType := .tensor
    { shape := [32]
      dataType := .float32
      placement :=
        { grid := ⟨1, 1⟩
          region := { shape := [32], element := .scalar .float32, buffer := .dram }
          banks := some .interleaved } }
  let draft : Draft := { module := { system := .single, target }, name := "range" }
  (draft.value tensor).2.append { operation := rangeTo stop }

/-- The module of this function. -/
def rangeModule (stop : Int64) : Module :=
  ((rangeDraft stop).finish [⟨0⟩]).1

theorem built_rangeModule (stop : Int64) : (rangeModule stop).Built :=
  .finish (.empty _ _) (.append (.value (.start _) _) _) _

theorem sameValues_rangeTo (stop other : Int64) : (rangeTo stop).SameValues (rangeTo other) :=
  ⟨rfl, rfl, rfl, rfl⟩

theorem sameValues_rangeModule (stop other : Int64) :
    (rangeModule stop).Pointwise Operation.SameValues (rangeModule other) :=
  .cons (.cons (sameValues_rangeTo stop other) .nil) .nil

/-- The record of a range that ends at the greatest number below which binary32 skips none. -/
def rangeRecord : OperationRecord Handle :=
  .arange
    { start := .zero, stop := ⟨0x4b800000⟩, step := ⟨0x3f800000⟩, dataType := none, device := none
      memoryConfig := none, out := 0 }

/-- Two numbers that binary32 does not tell apart are the ends of ranges with the same record. -/
theorem exists_rangeRecord {stop : Int64} (rounded : stop = 16777216 ∨ stop = 16777217) :
    ∃ buffer binary objects, (rangeModule stop).lower {} = .ok buffer ∧
      (rangeModule stop).binary {} = .ok binary ∧ binary.operationRecords = [[some rangeRecord]] ∧
        binary.objects = some objects ∧ objects.memoryConfigs = [] ∧ objects.shards = [] := by
  have accepted : ∃ buffer, (rangeModule stop).lower {} = .ok buffer := by
    rcases rounded with rfl | rfl <;> exact Module.exists_lower_of_accepted (by decide +kernel)
  have content : ((rangeModule stop).binary {}).map (fun binary =>
      (binary.operationRecords, binary.objects.map fun objects =>
        (objects.memoryConfigs, objects.shards))) =
      .ok ([[some rangeRecord]], some ([], [])) := by
    rcases rounded with rfl | rfl <;> rfl
  obtain ⟨buffer, lowered⟩ := accepted
  obtain ⟨binary, assembled, parts⟩ := map_eq_ok_iff.mp content
  obtain ⟨records, tables⟩ := Prod.mk.inj parts
  obtain ⟨objects, stored, configs⟩ := Option.map_eq_some_iff.mp tables
  obtain ⟨memoryConfigs, shards⟩ := Prod.mk.inj configs
  exact ⟨buffer, binary, objects, lowered, assembled, records, stored, memoryConfigs, shards⟩

/-- A context in which such a range has been lowered first. -/
def afterRange (m : Module) (stop : Int64) : LoweringState :=
  (((rangeTo stop).lower m).run {}).2

/-! ## Attributes -/

/-- Records lose no attribute beyond what no record keeps.  Two operations of one kind on the same
values that have the same record in some context, and leave the same memory configurations behind,
are alike.  So are the operations of two modules whose artifacts have the same records and the
same memory configurations. -/
theorem attributes_kept :
    (∀ (m : Module) (options : LoweringOptions) (before after otherAfter : LoweringState)
      (a b : Operation) (record : OperationRecord Handle),
      before.Reached m options → a.SameValues b →
        Runs (a.lower m) before (.ok record) after →
          Runs (b.lower m) before (.ok record) otherAfter →
          (∀ table, (after.interner.objects.records table).length < UInt32.size) →
          (∀ table, (otherAfter.interner.objects.records table).length < UInt32.size) →
          after.interner.objects.SameConfigs otherAfter.interner.objects → a.Alike b) ∧
      ∀ (m n : Module) (options otherOptions : LoweringOptions) (binary other : Binary)
        (buffer otherBuffer : Bytes), m.Built → n.Built →
        m.lower options = .ok buffer → n.lower otherOptions = .ok otherBuffer →
        m.binary options = .ok binary → n.binary otherOptions = .ok other →
          m.Pointwise Operation.SameValues n → binary.operationRecords = other.operationRecords →
          Option.Rel ObjectTables.SameConfigs binary.objects other.objects →
            m.Pointwise Operation.Alike n :=
  ⟨fun _ _ _ _ _ _ _ _ reached same run otherRun small otherSmall configs =>
      reached.alike same run otherRun small otherSmall configs,
    fun _ _ _ _ _ _ _ _ built otherBuilt lowered otherLowered assembled otherAssembled same records
      configs => built.pointwise_alike otherBuilt lowered otherLowered assembled otherAssembled same
        records configs⟩

theorem attributes_kept_rangeModule :
    ((rangeTo 16777216).SameValues (rangeTo 16777217) ∧
      Runs ((rangeTo 16777216).lower (rangeModule 16777216)) {} (.ok rangeRecord)
        (afterRange (rangeModule 16777216) 16777216) ∧
      Runs ((rangeTo 16777217).lower (rangeModule 16777216)) {} (.ok rangeRecord)
        (afterRange (rangeModule 16777216) 16777217) ∧
      (rangeTo 16777216).Alike (rangeTo 16777217)) ∧
      ∃ buffer otherBuffer binary other,
        (rangeModule 16777216).lower {} = .ok buffer ∧
          (rangeModule 16777217).lower {} = .ok otherBuffer ∧
          (rangeModule 16777216).binary {} = .ok binary ∧
          (rangeModule 16777217).binary {} = .ok other ∧
          binary.operationRecords = other.operationRecords ∧
            (rangeModule 16777216).Pointwise Operation.Alike (rangeModule 16777217) := by
  constructor
  · have run : Runs ((rangeTo 16777216).lower (rangeModule 16777216)) {} (.ok rangeRecord)
        (afterRange (rangeModule 16777216) 16777216) := Prod.ext rfl rfl
    have otherRun : Runs ((rangeTo 16777217).lower (rangeModule 16777216)) {} (.ok rangeRecord)
        (afterRange (rangeModule 16777216) 16777217) := Prod.ext rfl rfl
    refine ⟨sameValues_rangeTo _ _, run, otherRun, attributes_kept.1 _ {} {} _ _ _ _ _ .empty
      (sameValues_rangeTo _ _) run otherRun ?small ?otherSmall ⟨rfl, rfl⟩⟩
    case small =>
      intro table
      cases table <;> decide +kernel
    case otherSmall =>
      intro table
      cases table <;> decide +kernel
  · obtain ⟨buffer, binary, objects, lowered, assembled, records, stored, memoryConfigs, shards⟩ :=
      exists_rangeRecord (Or.inl rfl)
    obtain ⟨otherBuffer, other, others, otherLowered, otherAssembled, otherRecords, otherStored,
      otherMemoryConfigs, otherShards⟩ := exists_rangeRecord (Or.inr rfl)
    have same : binary.operationRecords = other.operationRecords := records.trans otherRecords.symm
    have configs : Option.Rel ObjectTables.SameConfigs binary.objects other.objects := by
      rw [stored, otherStored]
      exact .some ⟨memoryConfigs.trans otherMemoryConfigs.symm, shards.trans otherShards.symm⟩
    exact ⟨buffer, otherBuffer, binary, other, lowered, otherLowered, assembled, otherAssembled,
      same, attributes_kept.2 _ _ {} {} _ _ _ _ (built_rangeModule _) (built_rangeModule _) lowered
        otherLowered assembled otherAssembled (sameValues_rangeModule _ _) same configs⟩

/-- Pairs of operations whose attributes differ: the ends of two ranges, reductions over absent
dimensions and over none, absolute values without and with a parameter, and copies to two
memories. -/
def indistinct : List (Operation × Operation) :=
  [(rangeTo 16777216, rangeTo 16777217),
    (.reduction { kind := .sum, input := ⟨0⟩, dims := none, keepDim := true, result := ⟨3⟩ },
      .reduction { kind := .sum, input := ⟨0⟩, dims := some [], keepDim := true, result := ⟨3⟩ }),
    (.elementwise (.into .abs [⟨0⟩] ⟨0⟩ ⟨3⟩),
      .elementwise { Operation.Elementwise.into .abs [⟨0⟩] ⟨0⟩ ⟨3⟩ with
        parameters := some (.scalar .zero) }),
    (.toMemoryConfig
        { input := ⟨0⟩, memoryConfig := { banks := .interleaved, buffer := .dram }, result := ⟨3⟩ },
      .toMemoryConfig
        { input := ⟨0⟩, memoryConfig := { banks := .interleaved, buffer := .l1 }, result := ⟨3⟩ })]

/-- The state of a context that has made the tensor `0`. -/
def inputMade : LoweringState :=
  (((Reference.allocated ⟨0⟩).link (copyAbs .single)).run {}).2

theorem attributes_lost :
    ((copyAbs .single).Built ∧ inputMade.Reached (copyAbs .single) {} ∧
      ∀ pair ∈ indistinct, pair.1.SameValues pair.2 ∧ pair.1.attributes ≠ pair.2.attributes ∧
        ∃ record after otherAfter,
          Runs (pair.1.lower (copyAbs .single)) inputMade (.ok record) after ∧
            Runs (pair.2.lower (copyAbs .single)) inputMade (.ok record) otherAfter) ∧
      (rangeModule 16777216).Pointwise Operation.SameValues (rangeModule 16777217) ∧
        (rangeTo 16777216).attributes ≠ (rangeTo 16777217).attributes ∧
        ∃ buffer otherBuffer binary other,
          (rangeModule 16777216).lower {} = .ok buffer ∧
            (rangeModule 16777217).lower {} = .ok otherBuffer ∧
            (rangeModule 16777216).binary {} = .ok binary ∧
            (rangeModule 16777217).binary {} = .ok other ∧
              binary.operationRecords = other.operationRecords := by
  have differ : ∀ pair ∈ indistinct, pair.1.attributes ≠ pair.2.attributes := by decide +kernel
  have run : Runs ((Reference.allocated ⟨0⟩).link (copyAbs .single)) {} (.ok 0) inputMade :=
    Prod.ext rfl rfl
  have reached : inputMade.Reached (copyAbs .single) {} := .reference .empty run
  refine ⟨⟨built_copyAbs _, reached, fun pair member => ⟨?_, differ pair member, ?_⟩⟩,
    sameValues_rangeModule _ _, differ (rangeTo 16777216, rangeTo 16777217) List.mem_cons_self, ?_⟩
  · simp only [indistinct, List.mem_cons, List.not_mem_nil, or_false] at member
    rcases member with rfl | rfl | rfl | rfl <;> exact ⟨rfl, rfl, rfl, rfl⟩
  · simp only [indistinct, List.mem_cons, List.not_mem_nil, or_false] at member
    rcases member with rfl | rfl | rfl | rfl
    · exact ⟨rangeRecord, _, _, Prod.ext rfl rfl, Prod.ext rfl rfl⟩
    · exact ⟨.reduction { kind := .of .sum, input := 0, out := 1, dims := [], keepDim := true }, _,
        _, Prod.ext rfl rfl, Prod.ext rfl rfl⟩
    · exact ⟨.elementwise { kind := .of .abs, inputs := [0], out := 0, parameters := none }, _, _,
        Prod.ext rfl rfl, Prod.ext rfl rfl⟩
    · exact ⟨.toMemoryConfig { input := 0, memoryConfig := 0, out := 1 }, _, _, Prod.ext rfl rfl,
        Prod.ext rfl rfl⟩
  · obtain ⟨buffer, binary, _, lowered, assembled, records, _⟩ := exists_rangeRecord (Or.inl rfl)
    obtain ⟨otherBuffer, other, _, otherLowered, otherAssembled, otherRecords, _⟩ :=
      exists_rangeRecord (Or.inr rfl)
    exact ⟨buffer, otherBuffer, binary, other, lowered, otherLowered, assembled, otherAssembled,
      records.trans otherRecords.symm⟩

end Tilework
