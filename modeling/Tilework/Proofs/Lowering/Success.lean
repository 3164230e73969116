import Tilework.Proofs.Lowering.Presence
import Tilework.Proofs.Lowering.Requests

/-!
# When functions are lowered

Whether a function can be lowered can be told from the function and the types of its
values: the types have to be storable, the operations need records, and what is looked up
has to be of the sort that it is looked up as.  The tables do not matter.  A row that is
there already describes its key, so it could have been made again.
-/

namespace Tilework

open Artifact Interner

/-! ## Contents that have rows -/

/-- The cores and the memory of a placement have records. -/
def Placement.Storable (workers : WorkerGrid) (place : Placement) : Prop :=
  (∃ cores, place.grid.coreRanges workers = .ok cores) ∧
    ∃ record, place.region.record place.banks = .ok record

/-- The placement and the shape of a tensor have records. -/
def TensorType.Storable (workers : WorkerGrid) (type : TensorType) : Prop :=
  type.placement.Storable workers ∧
    ∃ shape, Number.toInt32s "tensor shape" type.shape = .ok shape

/-- A value of some type has a record of its own. -/
def Module.Storable (m : Module) (value : ValueId) : Prop :=
  (∃ type, m.tensorType value = .ok type ∧ type.Storable m.target.workers) ∨
    ∃ type, m.deviceType value = .ok type ∧ ∃ record, type.record = .ok record

/-- A reference to what is of the right sort, or to a result that has a record. -/
def Reference.Possible (m : Module) : Reference → Prop
  | tensor value | written _ value => ∃ type, m.tensorType value = .ok type
  | device value => ∃ type, m.deviceType value = .ok type
  | memoryConfig _ => True
  | allocated result =>
      ∃ type, m.tensorType result = .ok type ∧ type.Storable m.target.workers
  | opened result => ∃ type, m.deviceType result = .ok type ∧ ∃ record, type.record = .ok record
  | unplaced _ => False

/-- An operation has a record, whose references are possible. -/
def Instruction.Lowerable (m : Module) (instruction : Instruction) : Prop :=
  ∃ record, instruction.operation.record m = .ok record ∧
    ∀ reference ∈ record.references, reference.Possible m

/-- The arguments of a function have records, its instructions can be lowered, and it
returns tensors. -/
def Function.Lowerable (m : Module) (function : Function) : Prop :=
  (∀ argument ∈ function.arguments, m.Storable argument) ∧
    (∀ instruction ∈ function.body, instruction.Lowerable m) ∧
      ∀ value ∈ function.returns, ∃ type, m.tensorType value = .ok type

/-! ## Requests -/

namespace Interner

variable {m : Module} {options : LoweringOptions} {interner : Interner}

/-! What has a row is storable. -/

theorem Sound.storable_placement (sound : interner.Sound m options) {place : Placement}
    (held : interner.Holds (.layouts, .placement place)) : place.Storable m.target.workers := by
  obtain ⟨handle, found⟩ := holds_iff.mp held
  obtain ⟨_, placed⟩ := sound.exists_describes found
  obtain ⟨cores, memory, ranges, backed, _⟩ := describes_placement_iff.mp placed
  obtain ⟨record, described⟩ := sound.exists_describes backed
  exact ⟨⟨cores, ranges⟩, record, describes_region_iff.mp described⟩

theorem Sound.storable_tensor (sound : interner.Sound m options) {value : ValueId}
    {type : TensorType} (typed : m.tensorType value = .ok type)
    (held : interner.Holds (.tensors, .value value)) : type.Storable m.target.workers := by
  obtain ⟨handle, found⟩ := holds_iff.mp held
  obtain ⟨_, described⟩ := sound.exists_describes found
  obtain ⟨other, otherTyped, shape, layout, narrowed, placed, _⟩ :=
    describes_tensor_iff.mp described
  cases typed.symm.trans otherTyped
  exact ⟨sound.storable_placement (holds_iff.mpr ⟨layout, placed⟩), shape, narrowed⟩

theorem Sound.storable_device (sound : interner.Sound m options) {value : ValueId}
    {type : DeviceType} (typed : m.deviceType value = .ok type)
    (held : interner.Holds (.devices, .value value)) : ∃ record, type.record = .ok record := by
  obtain ⟨handle, found⟩ := holds_iff.mp held
  obtain ⟨record, described⟩ := sound.exists_describes found
  obtain ⟨other, otherTyped, encoded⟩ := describes_device_iff.mp described
  cases typed.symm.trans otherTyped
  exact ⟨record, encoded⟩

end Interner

namespace Interning

variable {m : Module} {options : LoweringOptions} {table : Table} {key : Key}
  {build : Interning table.Record} {can : Prop}

/-- A request succeeds when its build can, or when there is a row; but then the build could
have succeeded as well. -/
theorem succeeds_intern (built : Succeeds can (Sound m options) build (Sound m options))
    (kept : Keeps (Advances m options) (intern table key build))
    (able : ∀ interner : Interner, interner.Sound m options → interner.Holds (table, key) → can) :
    Succeeds can (Sound m options) (intern table key build) (Sound m options) := by
  intro before sound
  refine ⟨?_, fun handle after run => (kept before _ after run).2 sound⟩
  simp only [runs_intern]
  cases found : before.handle? table key with
  | some known =>
      have can := able before sound (holds_iff.mpr ⟨known, found⟩)
      exact iff_of_true ⟨known, before, runs_pure.mpr ⟨rfl, rfl⟩⟩ can
  | none =>
      rw [← (built before sound).1]
      constructor
      · rintro ⟨handle, after, run⟩
        obtain ⟨record, middle, made, _⟩ := runs_bind_ok.mp run
        exact ⟨record, middle, made⟩
      · rintro ⟨record, middle, made⟩
        exact ⟨_, _, runs_bind_ok.mpr ⟨record, middle, made, runs_push.mpr ⟨rfl, rfl⟩⟩⟩

theorem succeeds_region (region : MemoryRegion) (banks : Option BankLayout) :
    Succeeds (∃ record, region.record banks = .ok record) (Sound m options)
      (intern .memories (.region region banks) (liftM (region.record banks)))
      (Sound m options) := by
  apply succeeds_intern succeeds_lift (advances_region region banks)
  intro interner sound held
  obtain ⟨handle, found⟩ := holds_iff.mp held
  obtain ⟨record, described⟩ := sound.exists_describes found
  exact ⟨record, describes_region_iff.mp described⟩

theorem succeeds_placement (place : Placement) :
    Succeeds (place.Storable m.target.workers) (Sound m options)
      (intern .layouts (.placement place) (place.record m.target.workers)) (Sound m options) := by
  apply succeeds_intern _ (advances_placement place)
    fun _ sound held => sound.storable_placement held
  have whole : Succeeds
      (∃ cores, place.grid.coreRanges m.target.workers = .ok cores ∧
        ∃ record, place.region.record place.banks = .ok record)
      (Sound m options) (place.record m.target.workers) (Sound m options) :=
    succeeds_lift_bind fun cores _ => succeeds_bind_pure _ (succeeds_region _ _)
  exact whole.congr exists_and_right

theorem succeeds_freshGlobalId :
    Succeeds True (Sound m options) freshGlobalId (Sound m options) := by
  intro before sound
  constructor
  · exact iff_true_intro ⟨_, _, runs_freshGlobalId.mpr ⟨rfl, rfl⟩⟩
  · exact fun next after run => (advances_freshGlobalId before _ after run).2 sound

theorem succeeds_tensor {value : ValueId} {type : TensorType}
    (typed : m.tensorType value = .ok type) :
    Succeeds (type.Storable m.target.workers) (Sound m options)
      (intern .tensors (.value value) (type.record m.target.workers 0 0)) (Sound m options) := by
  apply succeeds_intern _ (advances_tensor typed)
    fun _ sound held => sound.storable_tensor typed held
  refine (succeeds_bind (succeeds_placement type.placement) fun layout => ?_).congr Iff.rfl
  have numbered (shape : List Int32) : Succeeds True (Sound m options)
      (do
        let globalId ← freshGlobalId
        pure ({ globalId, address := 0, size := 0, description := some { shape, layout } } :
          TensorRecord))
      (Sound m options) := succeeds_bind_pure _ succeeds_freshGlobalId
  exact (succeeds_lift_bind fun shape _ => numbered shape).congr
    (exists_congr fun shape => and_iff_left trivial)

theorem succeeds_device {value : ValueId} {type : DeviceType}
    (typed : m.deviceType value = .ok type) :
    Succeeds (∃ record, type.record = .ok record) (Sound m options)
      (intern .devices (.value value) (liftM type.record)) (Sound m options) :=
  succeeds_intern succeeds_lift (advances_device typed)
    fun _ sound held => sound.storable_device typed held

theorem succeeds_memoryConfig (config : MemoryConfig) :
    Succeeds True (Sound m options) (intern .memoryConfigs (.memoryConfig config) config.record)
      (Sound m options) := by
  apply succeeds_intern _ (advances_memoryConfig config) fun _ _ _ => trivial
  apply succeeds_bind_pure
  cases config.shardShape with
  | none => exact succeeds_pure none
  | some shape =>
      exact succeeds_map some
        (succeeds_intern (succeeds_pure _) (advances_shard shape) fun _ _ _ => trivial)

end Interning

/-! ## Steps of lowering -/

namespace Lowering

variable {m : Module} {options : LoweringOptions} {value : ValueId} {can : Prop}

theorem succeeds_interning {α : Type} {action : Interning α}
    (succeeds : Succeeds can (Interner.Sound m options) action (Interner.Sound m options)) :
    Succeeds can (SoundState m options) (interning action) (SoundState m options) := by
  intro before sound
  obtain ⟨able, reached⟩ := succeeds before.interner sound
  constructor
  · rw [← able]
    constructor
    · rintro ⟨result, after, run⟩
      exact ⟨result, after.interner, (runs_interning.mp run).1⟩
    · rintro ⟨result, after, run⟩
      exact ⟨result, { before with interner := after }, runs_interning.mpr ⟨run, rfl⟩⟩
  · intro result after run
    exact reached result after.interner (runs_interning.mp run).1

/-- A record of a value's own is made when the value has a type whose record can be made. -/
theorem succeeds_own {τ : Type} {table : Table} {asked : Except ModuleError τ}
    {record : τ → Interning table.Record} {storable : τ → Prop}
    (succeeds : ∀ type, asked = .ok type → Succeeds (storable type) (Interner.Sound m options)
      (Interning.intern table (.value value) (record type)) (Interner.Sound m options)) :
    Succeeds (∃ type, asked = .ok type ∧ storable type) (SoundState m options)
      (own table value asked record) (SoundState m options) := by
  rw [own]
  refine (succeeds_lift_bind fun type known => ?_).congr
    (exists_congr fun type => and_congr_left fun _ => mapError_eq_ok_iff)
  exact succeeds_interning (succeeds type (mapError_eq_ok_iff.mp known))

theorem succeeds_allocate :
    Succeeds (∃ type, m.tensorType value = .ok type ∧ type.Storable m.target.workers)
      (SoundState m options) (allocate m value) (SoundState m options) :=
  succeeds_own fun _ typed => Interning.succeeds_tensor typed

theorem succeeds_openDevice :
    Succeeds (∃ type, m.deviceType value = .ok type ∧ ∃ record, type.record = .ok record)
      (SoundState m options) (openDevice m value) (SoundState m options) :=
  succeeds_own fun _ typed => Interning.succeeds_device typed

/-- An argument is lowered when its type is storable. -/
theorem succeeds_argument :
    Succeeds (m.Storable value) (SoundState m options) (m.lowerArgument value)
      (SoundState m options) := by
  have each : Succeeds (∃ type, (m.valueType value).mapError LoweringError.program = .ok type ∧
      m.Storable value) (SoundState m options) (m.lowerArgument value) (SoundState m options) := by
    rw [Module.lowerArgument]
    apply succeeds_lift_bind
    intro type known
    have typed := mapError_eq_ok_iff.mp known
    cases type with
    | device type =>
        refine (succeeds_bind_pure _ succeeds_openDevice).congr (or_iff_right ?_).symm
        rintro ⟨other, isTensor, _⟩
        cases typed.symm.trans (Module.tensorType_eq_ok_iff.mp isTensor)
    | tensor type =>
        refine (succeeds_map some succeeds_allocate).congr (or_iff_left ?_).symm
        rintro ⟨other, isDevice, _⟩
        cases typed.symm.trans (Module.deviceType_eq_ok_iff.mp isDevice)
  refine each.congr ⟨?_, fun storable => ?_⟩
  · rintro ⟨_, _, storable⟩
    exact storable
  have known : ∃ type, m.valueType value = .ok type := by
    rcases storable with ⟨type, typed, _⟩ | ⟨type, typed, _⟩
    · exact ⟨_, Module.tensorType_eq_ok_iff.mp typed⟩
    · exact ⟨_, Module.deviceType_eq_ok_iff.mp typed⟩
  obtain ⟨type, typed⟩ := known
  exact ⟨type, mapError_eq_ok_iff.mpr typed, storable⟩

end Lowering

/-! ## References -/

namespace Reference

variable {m : Module} {options : LoweringOptions} {root : ValueId → ValueId}
  {reference : Reference} {earlier later : Interner}

/-- The value that a reference looks up has the type of its root, which has a row in the
table that its sort calls for. -/
def Settled (m : Module) (interner : Interner) (root : ValueId → ValueId) (reference : Reference) :
    Prop :=
  ∀ value, reference.followed? = some value →
    m.valueType (root value) = m.valueType value ∧ Present m root [value] interner

theorem Settled.of_grows (grows : earlier.Grows later) (distinct : later.Distinct)
    (settled : reference.Settled m earlier root) : reference.Settled m later root :=
  fun value followed =>
    ⟨(settled value followed).1, (settled value followed).2.of_grows grows distinct⟩

/-- References whose lookups are settled, one after another. -/
structure Awaited (m : Module) (options : LoweringOptions) (root : ValueId → ValueId)
    (references : List Reference) (state : LoweringState) : Prop where
  sound : state.interner.Sound m options
  coherent : Coherent root state.aliases references
  settled : ∀ reference ∈ references, reference.Settled m state.interner root

/-- A value that is settled is found in a table exactly when its type is of the sort that the
table is for. -/
theorem exists_handle_iff {interner : Interner} (sound : interner.Sound m options) {table : Table}
    {value : ValueId} (typed : m.valueType (root value) = m.valueType value)
    (present : Present m root [value] interner) :
    (∃ handle, interner.handle? table (.value (root value)) = some handle) ↔
      ∃ type : ValueType, type.table = table ∧ m.valueType value = .ok type := by
  constructor
  · rintro ⟨handle, found⟩
    rw [← typed]
    exact sound.exists_type found
  · rintro ⟨type, rfl, known⟩
    exact present value List.mem_cons_self type known

/-- So it is when the value is looked up by an alias that leads to its root. -/
theorem exists_runs_shared_iff {before : LoweringState} (sound : before.interner.Sound m options)
    {table : Table} {value : ValueId} (leads : before.aliases.resolve value = root value)
    (typed : m.valueType (root value) = m.valueType value)
    (present : Present m root [value] before.interner) :
    (∃ handle after, Runs (Lowering.shared table value) before (.ok handle) after) ↔
      ∃ type : ValueType, type.table = table ∧ m.valueType value = .ok type := by
  rw [← exists_handle_iff sound typed present, ← leads]
  simp only [Lowering.runs_shared_ok, exists_and_left, exists_eq, and_true]

/-- A reference is linked exactly when it is possible. -/
theorem exists_runs_link_iff {before : LoweringState}
    (sound : before.interner.Sound m options) (coherent : Coherent root before.aliases [reference])
    (settled : reference.Settled m before.interner root) :
    (∃ handle after, Runs (reference.link m) before (.ok handle) after) ↔ reference.Possible m := by
  have leads : ∀ value, reference.followed? = some value →
      (aliasesFrom before.aliases [reference]).resolve value = root value :=
    coherent.follows [] reference [] rfl
  rw [aliasesFrom_singleton] at leads
  cases reference with
  | tensor value =>
      obtain ⟨typed, present⟩ := settled value rfl
      rw [Possible, Module.exists_tensorType_iff]
      exact exists_runs_shared_iff sound (leads value rfl) typed present
  | device value =>
      obtain ⟨typed, present⟩ := settled value rfl
      rw [Possible, Module.exists_deviceType_iff]
      exact exists_runs_shared_iff sound (leads value rfl) typed present
  | written output result =>
      obtain ⟨typed, present⟩ := settled result rfl
      have different := coherent.proper _ List.mem_cons_self (result, output) rfl
      rw [Possible, Module.exists_tensorType_iff, ← exists_handle_iff sound typed present,
        ← leads result rfl]
      simp only [link, Lowering.runs_write_ok different, exists_eq_left]
      exact Iff.rfl
  | memoryConfig config =>
      exact (Lowering.succeeds_interning (Interning.succeeds_memoryConfig config) before sound).1
  | allocated result => exact (Lowering.succeeds_allocate before sound).1
  | opened result => exact (Lowering.succeeds_openDevice before sound).1
  | unplaced name =>
      have never : Succeeds False (Lowering.SoundState m options) ((unplaced name).link m)
        fun _ => True := succeeds_throw _
      exact (never before sound).1

theorem succeeds_link (reference : Reference) (rest : List Reference) :
    Succeeds (reference.Possible m) (Awaited m options root ([reference] ++ rest))
      (reference.link m) (Awaited m options root rest) := by
  intro before awaited
  obtain ⟨first, others⟩ := awaited.coherent.append
  obtain ⟨settled, settledLater⟩ := List.forall_mem_append.mp awaited.settled
  refine ⟨exists_runs_link_iff awaited.sound first (settled reference List.mem_cons_self), ?_⟩
  intro handle after run
  have advances : Keeps (LoweringState.Advances m options) (reference.link m) :=
    closed_advances.link reference
  obtain ⟨grows, keeps⟩ := advances before _ after run
  have sound := keeps awaited.sound
  refine ⟨sound, ?_, fun other member => (settledLater other member).of_grows grows sound.distinct⟩
  rw [(handleIn_of_runs_link first run).1]
  exact others

/-- A record is linked exactly when all its references are possible. -/
theorem succeeds_relates :
    OperationRecord.Relates (Reference.link m) (Reference.link m) fun {_} steps _ references =>
      ∀ rest, Succeeds (∀ reference ∈ references, reference.Possible m)
        (Awaited m options root (references ++ rest)) steps (Awaited m options root rest) where
  pure value rest := (succeeds_pure value).congr (iff_of_true trivial nofun)
  bind {_ _ _ _ _ _ references others} first next rest := by
    rw [List.append_assoc, List.forall_mem_append]
    exact succeeds_bind (first (others ++ rest)) fun value => next value rest
  step reference rest := by
    rw [List.forall_mem_singleton]
    exact succeeds_link reference rest

end Reference

/-! ## Functions -/

section

variable {m : Module} {options : LoweringOptions} {function : Function}
  (wellFormed : function.WellFormed m)

include wellFormed

section

variable {earlier later : List Instruction} {instruction : Instruction} {state : LoweringState}
  (split : function.body = earlier ++ instruction :: later)

include split

/-- What the record of the next instruction looks up is settled. -/
theorem Function.ReachedAfter.awaited (reached : function.ReachedAfter m options earlier state)
    {record : OperationRecord Reference} (encoded : instruction.operation.record m = .ok record) :
    Reference.Awaited m options function.root record.references state := by
  have member : instruction ∈ function.body := by simp [split]
  have present {value : ValueId} (operand : value ∈ instruction.operation.operands) :
      Present m function.root [value] state.interner := by
    rw [Present, List.forall_mem_singleton]
    exact reached.present value
      (wellFormed.ordered earlier instruction later split value operand)
  refine ⟨reached.sound, ?_, ?_⟩
  · rw [reached.aliases]
    exact coherent_of_record wellFormed split encoded
  · intro reference referred value followed
    obtain ⟨⟨role, _⟩, slot, rfl⟩ := List.mem_map.mp referred
    have fits := Operation.fits_of_record encoded _ slot
    have typed {value : ValueId} (mentioned : value ∈ Reference.values _) :=
      valueType_root wellFormed (mem_definedValues_of_fits wellFormed member fits mentioned)
    cases fits with
    | tensor read | device read =>
        cases followed
        exact ⟨typed List.mem_cons_self, present (List.mem_append_left _ read)⟩
    | @written output _ given defines =>
        cases followed
        have shared : function.root value = function.root output :=
          root_of_destination wellFormed member given (by simp [defines])
        have sameType : m.valueType value = m.valueType output := by
          rw [← typed (List.mem_cons_of_mem _ List.mem_cons_self), shared,
            typed List.mem_cons_self]
        refine ⟨typed (List.mem_cons_of_mem _ List.mem_cons_self), ?_⟩
        have known := present (Operation.destination_mem given)
        rw [Present, List.forall_mem_singleton] at known ⊢
        rw [shared, sameType]
        exact known
    | memoryConfig | allocated | opened | unplaced => cases followed

/-- The next instruction is lowered exactly when it has a record that can be linked. -/
theorem succeeds_instruction :
    Succeeds (instruction.Lowerable m) (function.ReachedAfter m options earlier)
      (instruction.lower m) (function.ReachedAfter m options (earlier ++ [instruction])) := by
  have operation : Succeeds (instruction.Lowerable m) (function.ReachedAfter m options earlier)
      (instruction.operation.lower m) fun _ => True := by
    rw [Operation.lower]
    apply succeeds_lift_bind
    intro record encoded
    have links : Succeeds (∀ reference ∈ record.references, reference.Possible m)
        (Reference.Awaited m options function.root (record.references ++ []))
        (record.mapM (Reference.link m)) (Reference.Awaited m options function.root []) :=
      Reference.succeeds_relates.mapM record []
    rw [List.append_nil] at links
    exact links.and_then (fun state reached => reached.awaited wellFormed split encoded)
      fun _ _ _ _ _ => trivial
  have whole : Succeeds (instruction.Lowerable m) (function.ReachedAfter m options earlier)
      (instruction.lower m) fun _ => True := succeeds_bind_pure _ operation
  exact whole.and_then (fun _ reached => reached) fun before entry after reached run =>
    reached.next wellFormed split run

end

/-- The arguments of a function are lowered exactly when their types are storable. -/
theorem succeeds_arguments :
    Succeeds (∀ argument ∈ function.arguments, m.Storable argument)
      (function.Reached m options [] []) (function.arguments.mapM m.lowerArgument)
      (function.ReachedAfter m options []) := by
  have each : Succeeds (∀ argument ∈ function.arguments, m.Storable argument)
      (Lowering.SoundState m options) (function.arguments.mapM m.lowerArgument)
      (Lowering.SoundState m options) :=
    succeeds_mapM_of_forall fun _ _ => Lowering.succeeds_argument
  apply each.and_then (fun state reached => reached.sound)
  intro before given after reached run
  exact (leads_arguments wellFormed before _ after reached run).1 given rfl

/-- A value is returned exactly when it is a tensor. -/
theorem succeeds_returned {value : ValueId} (member : value ∈ function.returns) :
    Succeeds (∃ type, m.tensorType value = .ok type)
      (function.ReachedAfter m options function.body) (Lowering.tensor value)
      (function.ReachedAfter m options function.body) := by
  intro before reached
  have defined := wellFormed.returned value member
  have present : Present m function.root [value] before.interner := by
    rw [Present, List.forall_mem_singleton]
    exact reached.present value defined
  have leads : before.aliases.resolve value = function.root value := by
    rw [reached.aliases, resolve_aliasesAfter_body wellFormed]
  constructor
  · rw [Module.exists_tensorType_iff]
    exact Reference.exists_runs_shared_iff reached.sound leads (valueType_root wellFormed defined)
      present
  · intro handle after run
    rwa [(Lowering.runs_shared_ok.mp run).2]

/-- Whether a function is lowered does not depend on the tables. -/
theorem succeeds_function (debugInfo : Handle) :
    Succeeds (function.Lowerable m) (Lowering.SoundState m options) (function.lower m debugInfo)
      (Lowering.SoundState m options) := by
  have cleared : Succeeds True (Lowering.SoundState m options) Lowering.clearAliases
      (function.Reached m options [] []) :=
    succeeds_modify fun state sound => ⟨sound, rfl, nofun⟩
  have body : Succeeds (∀ instruction ∈ function.body, instruction.Lowerable m)
      (function.ReachedAfter m options []) (function.body.mapM (Instruction.lower m))
      (function.ReachedAfter m options function.body) :=
    succeeds_mapM fun _ _ _ split => succeeds_instruction wellFormed split
  have returned : Succeeds (∀ value ∈ function.returns, ∃ type, m.tensorType value = .ok type)
      (function.ReachedAfter m options function.body) (function.returns.mapM Lowering.tensor)
      (function.ReachedAfter m options function.body) :=
    succeeds_mapM_of_forall fun _ member => succeeds_returned wellFormed member
  have whole : Succeeds (True ∧ function.Lowerable m) (Lowering.SoundState m options)
      (function.lower m debugInfo) (function.ReachedAfter m options function.body) :=
    succeeds_bind cleared fun _ =>
      succeeds_bind (succeeds_arguments wellFormed) fun arguments =>
        succeeds_bind body fun operations => succeeds_bind_pure _ returned
  apply (whole.congr (and_iff_right trivial)).and_then (fun _ sound => sound)
  intro before program after sound run
  exact ((whole before sound).2 program after run).sound

end

/-- Functions are lowered one after another exactly when each of them can be. -/
theorem succeeds_functions {m : Module} {options : LoweringOptions} {functions : List Function}
    (wellFormed : ∀ function ∈ functions, function.WellFormed m) (debugInfo : Handle) :
    Succeeds (∀ function ∈ functions, function.Lowerable m) (Lowering.SoundState m options)
      (functions.mapM fun function => function.lower m debugInfo)
      (Lowering.SoundState m options) :=
  succeeds_mapM_of_forall fun function member =>
    succeeds_function (wellFormed function member) debugInfo

end Tilework
