import Tilework.Proofs.Lowering.Program

/-!
# What is asked of the tables

The rows that lowering asks for can be read off a function: those of its tensor and
device arguments, and those that the records of its instructions refer to.  Each of them
comes with the rows that it refers to in turn.  Lowering a function leaves exactly these
rows behind, next to those that were there before, whether or not it had to add them.
-/

namespace Tilework

open Artifact Interner

/-! ## Requests -/

/-- The rows that a placement asks for: its own, and that of its memory. -/
def Placement.requests (place : Placement) : List (Table × Key) :=
  [(.layouts, .placement place), (.memories, .region place.region place.banks)]

/-- The rows that a memory configuration asks for: its own, and that of its shard shape. -/
def MemoryConfig.requests (config : MemoryConfig) : List (Table × Key) :=
  (.memoryConfigs, .memoryConfig config) ::
    config.shardShape.toList.map fun shape => (.shards, .shard shape)

/-- The rows that a new value asks for. -/
def Module.requests (m : Module) (value : ValueId) : List (Table × Key) :=
  match m.valueType value with
  | .ok (.tensor type) => (.tensors, .value value) :: type.placement.requests
  | .ok (.device _) => [(.devices, .value value)]
  | .error _ => []

/-- The rows that a reference asks for when it is linked.  What it only looks up has to be
there already. -/
def Reference.requests (m : Module) : Reference → List (Table × Key)
  | allocated result | opened result => m.requests result
  | memoryConfig config => config.requests
  | tensor _ | device _ | written _ _ | unplaced _ => []

/-- The rows that an instruction asks for. -/
def Instruction.requests (m : Module) (instruction : Instruction) : List (Table × Key) :=
  match instruction.operation.record m with
  | .ok record => record.references.flatMap (Reference.requests m)
  | .error _ => []

/-- The rows that a function asks for. -/
def Function.requests (m : Module) (function : Function) : List (Table × Key) :=
  function.arguments.flatMap m.requests ++ function.body.flatMap (Instruction.requests m)

section

variable {m : Module} {row : Table × Key}

theorem Placement.mem_requests_iff {place : Placement} :
    row ∈ place.requests ↔
      row = (.layouts, .placement place) ∨ row = (.memories, .region place.region place.banks) := by
  simp [requests]

theorem MemoryConfig.mem_requests_iff {config : MemoryConfig} :
    row ∈ config.requests ↔
      row = (.memoryConfigs, .memoryConfig config) ∨
        ∃ shape, config.shardShape = some shape ∧ row = (.shards, .shard shape) := by
  simp [requests, eq_comm]

theorem Module.mem_requests_iff {value : ValueId} :
    row ∈ m.requests value ↔
      (∃ type, m.tensorType value = .ok type ∧
        (row = (.tensors, .value value) ∨ row ∈ type.placement.requests)) ∨
      ∃ type, m.deviceType value = .ok type ∧ row = (.devices, .value value) := by
  simp only [Module.tensorType_eq_ok_iff, Module.deviceType_eq_ok_iff, requests]
  cases m.valueType value with
  | error error => simp
  | ok type => cases type <;> simp

/-- A function asks for its values that are roots of their own, and for the memory
configurations of its instructions. -/
theorem Function.exists_of_mem_requests {function : Function} (wellFormed : function.WellFormed m)
    (asked : row ∈ function.requests m) :
    (∃ value ∈ function.definedValues, function.root value = value ∧ row ∈ m.requests value) ∨
      ∃ instruction ∈ function.body, ∃ config,
        instruction.operation.memoryConfig? = some config ∧ row ∈ config.requests := by
  rcases List.mem_append.mp asked with argument | executed
  · obtain ⟨value, argument, asked⟩ := List.mem_flatMap.mp argument
    exact Or.inl ⟨value, List.mem_append_left _ argument, root_argument wellFormed argument, asked⟩
  · obtain ⟨instruction, member, asked⟩ := List.mem_flatMap.mp executed
    have own {result : ValueId} (placed : instruction.operation.destination = none)
        (defines : instruction.operation.results = [result]) (asked : row ∈ m.requests result) :
        ∃ value ∈ function.definedValues, function.root value = value ∧ row ∈ m.requests value := by
      have result : result ∈ instruction.operation.results := by simp [defines]
      refine ⟨_, List.mem_append_right _ (List.mem_flatMap.mpr ⟨instruction, member, result⟩),
        root_of_allocated wellFormed member placed result, asked⟩
    rw [Instruction.requests] at asked
    cases encoded : instruction.operation.record m with
    | error error =>
        rw [encoded] at asked
        cases asked
    | ok record =>
        rw [encoded] at asked
        obtain ⟨reference, referred, asked⟩ := List.mem_flatMap.mp asked
        obtain ⟨⟨role, _⟩, slot, rfl⟩ := List.mem_map.mp referred
        cases Operation.fits_of_record encoded _ slot with
        | memoryConfig given => exact Or.inr ⟨instruction, member, _, given, asked⟩
        | allocated placed defines => exact Or.inl (own placed defines asked)
        | opened opens =>
            refine Or.inl (own ?_ ?_ asked)
            · rw [opens]
              rfl
            · rw [opens]
              rfl
        | tensor | device | written | unplaced => cases asked

end

/-! ## Rows that are there -/

namespace Interner

variable {m : Module} {options : LoweringOptions} {interner : Interner} {table : Table} {key : Key}

/-- A table has a row for a key. -/
def Holds (interner : Interner) (row : Table × Key) : Prop :=
  row.2 ∈ (interner.rows row.1).keys

theorem holds_iff :
    interner.Holds (table, key) ↔ ∃ handle, interner.handle? table key = some handle := by
  rw [Holds, Rows.mem_keys_iff]
  constructor
  · rintro ⟨position, found⟩
    exact ⟨UInt32.ofNat position, by rw [handle?, found, Option.map_some]⟩
  · rintro ⟨handle, found⟩
    obtain ⟨position, at_position, _⟩ := Option.map_eq_some_iff.mp found
    exact ⟨position, at_position⟩

theorem not_holds_empty (row : Table × Key) : ¬ Interner.Holds {} row := by
  rcases row with ⟨table, key⟩
  cases table <;> exact List.not_mem_nil

theorem holds_push {record : table.Record} (row : Table × Key) :
    (interner.push table key record).Holds row ↔ interner.Holds row ∨ row = (table, key) := by
  rcases row with ⟨other, otherKey⟩
  by_cases same : other = table
  · subst same
    simp only [Holds, rows_push_self, Rows.keys, List.map_cons, List.mem_cons, Prod.mk.injEq,
      true_and]
    exact or_comm
  · simp only [Holds, rows_push_of_ne interner key record same, Prod.mk.injEq, same, false_and,
      or_false]

/-! Where there is a row for a key there are rows for all that it refers to. -/

theorem Sound.holds_placement (sound : interner.Sound m options) {place : Placement}
    (held : interner.Holds (.layouts, .placement place)) :
    interner.Holds (.memories, .region place.region place.banks) := by
  obtain ⟨handle, found⟩ := holds_iff.mp held
  obtain ⟨_, described⟩ := sound.exists_describes found
  obtain ⟨_, memory, _, backed, _⟩ := describes_placement_iff.mp described
  exact holds_iff.mpr ⟨memory, backed⟩

theorem Sound.holds_tensor (sound : interner.Sound m options) {value : ValueId} {type : TensorType}
    (typed : m.tensorType value = .ok type) (held : interner.Holds (.tensors, .value value)) :
    interner.Holds (.layouts, .placement type.placement) := by
  obtain ⟨handle, found⟩ := holds_iff.mp held
  obtain ⟨_, described⟩ := sound.exists_describes found
  obtain ⟨other, otherTyped, _, layout, _, placed, _⟩ := describes_tensor_iff.mp described
  cases typed.symm.trans otherTyped
  exact holds_iff.mpr ⟨layout, placed⟩

theorem Sound.holds_memoryConfig (sound : interner.Sound m options) {config : MemoryConfig}
    {shape : List Int64} (given : config.shardShape = some shape)
    (held : interner.Holds (.memoryConfigs, .memoryConfig config)) :
    interner.Holds (.shards, .shard shape) := by
  obtain ⟨handle, found⟩ := holds_iff.mp held
  obtain ⟨_, described⟩ := sound.exists_describes found
  obtain ⟨shard, _, shards⟩ := describes_memoryConfig_iff.mp described
  rw [given] at shards
  cases shard with
  | none => cases shards
  | some shardHandle => exact holds_iff.mpr ⟨shardHandle, Option.some.inj shards⟩

end Interner

/-! ## Steps on tables -/

namespace Interning

variable {m : Module} {options : LoweringOptions} {table : Table} {key : Key}
  {build : Interning table.Record} {requests : List (Table × Key)}

/-- Asking for a row leaves it behind together with what its build asks for.  Where the row is
there already nothing is built, but then the rows that it refers to are there as well. -/
theorem adds_intern (adds : Adds Holds (Sound m options) requests build)
    (kept : Keeps (Advances m options) (intern table key build))
    (refers : ∀ interner : Interner, interner.Sound m options → interner.Holds (table, key) →
      ∀ row ∈ requests, interner.Holds row) :
    Adds Holds (Sound m options) ((table, key) :: requests) (intern table key build) := by
  intro before handle after sound run
  refine ⟨(kept before _ after run).2 sound, fun row => ?_⟩
  rw [runs_intern] at run
  cases found : before.handle? table key with
  | some known =>
      rw [found] at run
      obtain ⟨_, rfl⟩ := runs_pure.mp run
      have held := holds_iff.mpr ⟨known, found⟩
      constructor
      · exact Or.inl
      · rintro (already | asked)
        · exact already
        · rcases List.mem_cons.mp asked with rfl | nested
          · exact held
          · exact refers after sound held row nested
  | none =>
      rw [found] at run
      obtain ⟨record, middle, built, pushed⟩ := runs_bind_ok.mp run
      obtain ⟨_, rfl⟩ := runs_push.mp pushed
      have added := (adds before record middle sound built).2 row
      rw [holds_push, added, List.mem_cons, or_assoc, or_comm (a := row = (table, key))]

theorem adds_lift {α : Type} (result : Except LoweringError α) :
    Adds Holds (Sound m options) [] (liftM result : Interning α) := by
  intro before value after sound run
  obtain ⟨_, rfl⟩ := runs_lift.mp run
  exact ⟨sound, by simp⟩

/-- A row that refers to no other row. -/
theorem adds_intern_of_nil (adds : Adds Holds (Sound m options) [] build)
    (kept : Keeps (Advances m options) (intern table key build)) :
    Adds Holds (Sound m options) [(table, key)] (intern table key build) :=
  adds_intern adds kept fun _ _ _ _ member => absurd member List.not_mem_nil

theorem adds_region (region : MemoryRegion) (banks : Option BankLayout) :
    Adds Holds (Sound m options) [(.memories, .region region banks)]
      (intern .memories (.region region banks) (liftM (region.record banks))) :=
  adds_intern_of_nil (adds_lift _) (advances_region region banks)

theorem adds_placement (place : Placement) :
    Adds Holds (Sound m options) place.requests
      (intern .layouts (.placement place) (place.record m.target.workers)) := by
  apply adds_intern _ (advances_placement place)
  · intro interner sound held
    rw [List.forall_mem_singleton]
    exact sound.holds_placement held
  · apply adds_lift_bind
    intro cores _
    exact adds_bind_pure _ (adds_region place.region place.banks)

theorem adds_freshGlobalId : Adds Holds (Sound m options) [] freshGlobalId := by
  intro before next after sound run
  refine ⟨(advances_freshGlobalId before _ after run).2 sound, fun row => ?_⟩
  obtain ⟨_, rfl⟩ := runs_freshGlobalId.mp run
  rcases row with ⟨table, key⟩
  simp only [holds_iff, handle?_nextGlobalId, List.not_mem_nil, or_false]

theorem adds_tensor {value : ValueId} {type : TensorType} (typed : m.tensorType value = .ok type) :
    Adds Holds (Sound m options) (m.requests value)
      (intern .tensors (.value value) (type.record m.target.workers 0 0)) := by
  rw [Module.requests, Module.tensorType_eq_ok_iff.mp typed]
  apply adds_intern _ (advances_tensor typed)
  · intro interner sound held
    have placed := sound.holds_tensor typed held
    rw [Placement.requests, List.forall_mem_cons, List.forall_mem_singleton]
    exact ⟨placed, sound.holds_placement placed⟩
  · have whole : Adds Holds (Sound m options) (type.placement.requests ++ [])
        (type.record m.target.workers 0 0) := by
      refine adds_bind (adds_placement type.placement) fun layout => ?_
      apply adds_lift_bind
      intro shape _
      exact adds_bind_pure _ adds_freshGlobalId
    rwa [List.append_nil] at whole

theorem adds_device {value : ValueId} {type : DeviceType} (typed : m.deviceType value = .ok type) :
    Adds Holds (Sound m options) (m.requests value)
      (intern .devices (.value value) (liftM type.record)) := by
  rw [Module.requests, Module.deviceType_eq_ok_iff.mp typed]
  exact adds_intern_of_nil (adds_lift _) (advances_device typed)

theorem adds_shard (shape : List Int64) :
    Adds Holds (Sound m options) [(.shards, .shard shape)]
      (intern .shards (.shard shape) (pure { shape } : Interning ShardRecord)) :=
  adds_intern_of_nil (adds_pure _) (advances_shard shape)

theorem adds_memoryConfig (config : MemoryConfig) :
    Adds Holds (Sound m options) config.requests
      (intern .memoryConfigs (.memoryConfig config) config.record) := by
  apply adds_intern _ (advances_memoryConfig config)
  · intro interner sound held row asked
    obtain ⟨shape, given, rfl⟩ := List.mem_map.mp asked
    exact sound.holds_memoryConfig (Option.mem_toList.mp given) held
  · apply adds_bind_pure
    cases config.shardShape with
    | none => exact adds_pure none
    | some shape => exact adds_map some (adds_shard shape)

end Interning

/-! ## Steps of lowering -/

namespace Lowering

variable {m : Module} {options : LoweringOptions} {requests : List (Table × Key)}

/-- The tables of a state describe their keys. -/
def SoundState (m : Module) (options : LoweringOptions) (state : LoweringState) : Prop :=
  state.interner.Sound m options

/-- A table of a state has a row for a key. -/
def HoldsRow (state : LoweringState) (row : Table × Key) : Prop :=
  state.interner.Holds row

theorem adds_interning {α : Type} {action : Interning α}
    (adds : Adds Holds (Sound m options) requests action) :
    Adds HoldsRow (SoundState m options) requests (interning action) := by
  intro before value after sound run
  exact adds before.interner value after.interner sound (runs_interning.mp run).1

theorem adds_modify {f : LoweringState → LoweringState}
    (same : ∀ state, (f state).interner = state.interner) :
    Adds HoldsRow (SoundState m options) [] (modify f : Lowering PUnit) := by
  intro before value after sound run
  obtain ⟨_, rfl⟩ := runs_modify.mp run
  rw [SoundState, same]
  refine ⟨sound, fun row => ?_⟩
  rw [HoldsRow, same]
  simp [HoldsRow]

theorem adds_shared (table : Table) (value : ValueId) :
    Adds HoldsRow (SoundState m options) [] (shared table value) := by
  intro before handle after sound run
  obtain ⟨_, rfl⟩ := runs_shared_ok.mp run
  exact ⟨sound, by simp⟩

theorem adds_write (output result : ValueId) :
    Adds HoldsRow (SoundState m options) [] (write output result) := by
  rw [write]
  split
  · have aliased : Adds HoldsRow (SoundState m options) [] (modify fun state : LoweringState =>
        { state with aliases := (result, output) :: state.aliases }) := adds_modify fun _ => rfl
    exact adds_bind aliased fun _ => adds_shared .tensors result
  · exact adds_shared .tensors result

/-- A record of a value's own adds what the record asks for. -/
theorem adds_own {τ : Type} {table : Table} {value : ValueId} {asked : Except ModuleError τ}
    {record : τ → Interning table.Record}
    (adds : ∀ type, asked = .ok type → Adds Holds (Sound m options) requests
      (Interning.intern table (.value value) (record type))) :
    Adds HoldsRow (SoundState m options) requests (own table value asked record) := by
  rw [own]
  apply adds_lift_bind
  intro type known
  exact adds_interning (adds type (mapError_eq_ok_iff.mp known))

theorem adds_link (reference : Reference) :
    Adds HoldsRow (SoundState m options) (reference.requests m) (reference.link m) := by
  cases reference with
  | tensor value => exact adds_shared .tensors value
  | device value => exact adds_shared .devices value
  | memoryConfig config => exact adds_interning (Interning.adds_memoryConfig config)
  | allocated result => exact adds_own fun type typed => Interning.adds_tensor typed
  | written output result => exact adds_write output result
  | opened result => exact adds_own fun type typed => Interning.adds_device typed
  | unplaced name => exact adds_throw _

theorem adds_instruction (instruction : Instruction) :
    Adds HoldsRow (SoundState m options) (instruction.requests m) (instruction.lower m) := by
  have relates : OperationRecord.Relates (Reference.link m) (Reference.link m)
      fun {_} (steps _ : Lowering _) references =>
        Adds HoldsRow (SoundState m options) (references.flatMap (Reference.requests m)) steps := by
    constructor
    · exact adds_pure
    · intro _ _ _ _ _ _ references later first next
      rw [List.flatMap_append]
      exact adds_bind first next
    · intro reference
      rw [List.flatMap_singleton]
      exact adds_link reference
  have linked : Adds HoldsRow (SoundState m options) (instruction.requests m)
      (instruction.operation.lower m) := by
    rw [Operation.lower]
    apply adds_lift_bind
    intro record encoded
    rw [Instruction.requests, encoded]
    exact relates.mapM record
  rw [Instruction.lower]
  exact adds_bind_pure _ linked

theorem adds_argument (argument : ValueId) :
    Adds HoldsRow (SoundState m options) (m.requests argument) (m.lowerArgument argument) := by
  rw [Module.lowerArgument]
  apply adds_lift_bind
  intro type _
  cases type with
  | device type =>
      exact adds_bind_pure _ (adds_own fun type typed => Interning.adds_device typed)
  | tensor type =>
      exact adds_map some (adds_own fun type typed => Interning.adds_tensor typed)

theorem adds_returns (values : List ValueId) :
    Adds HoldsRow (SoundState m options) [] (values.mapM tensor) := by
  have whole : Adds HoldsRow (SoundState m options) (values.flatMap fun _ => [])
      (values.mapM tensor) := adds_mapM fun value _ => adds_shared .tensors value
  rwa [List.flatMap_eq_nil_iff.mpr fun _ _ => rfl] at whole

/-- Lowering a function leaves the rows behind that the function asks for. -/
theorem adds_function (function : Function) (debugInfo : Handle) :
    Adds HoldsRow (SoundState m options) (function.requests m) (function.lower m debugInfo) := by
  have cleared : Adds HoldsRow (SoundState m options) [] clearAliases :=
    adds_modify fun _ => rfl
  have arguments : Adds HoldsRow (SoundState m options) (function.arguments.flatMap m.requests)
      (function.arguments.mapM m.lowerArgument) := adds_mapM fun value _ => adds_argument value
  have body : Adds HoldsRow (SoundState m options)
      (function.body.flatMap (Instruction.requests m))
      (function.body.mapM (Instruction.lower m)) :=
    adds_mapM fun instruction _ => adds_instruction instruction
  have whole : Adds HoldsRow (SoundState m options)
      ([] ++ (function.arguments.flatMap m.requests ++
        (function.body.flatMap (Instruction.requests m) ++ [])))
      (function.lower m debugInfo) := by
    refine adds_bind cleared fun _ => adds_bind arguments fun arguments => ?_
    exact adds_bind body fun operations => adds_bind_pure _ (adds_returns function.returns)
  rwa [List.nil_append, List.append_nil] at whole

theorem adds_functions (functions : List Function) (debugInfo : Handle) :
    Adds HoldsRow (SoundState m options) (functions.flatMap (Function.requests m))
      (functions.mapM fun function => function.lower m debugInfo) :=
  adds_mapM fun function _ => adds_function function debugInfo

/-- Lowering all functions of a module leaves the rows behind that they ask for, next to
the debug information. -/
theorem adds_lowerFunctions :
    Adds HoldsRow (SoundState m options)
      ((.debugInfos, .debugInfo) :: m.functions.flatMap (Function.requests m))
      (m.lowerFunctions options) := by
  have debug : Adds HoldsRow (SoundState m options) [(.debugInfos, .debugInfo)]
      (interning (Interning.intern .debugInfos .debugInfo
        (pure (options.debugRecord m.text)))) :=
    adds_interning (Interning.adds_intern_of_nil (adds_pure _) advances_debugInfo)
  exact adds_bind debug fun debugInfo => adds_functions m.functions debugInfo

end Lowering

/-- The finished tables of a module hold the rows that its functions ask for, and the debug
information, and no others. -/
theorem Module.holds_interner_iff {m : Module} {options : LoweringOptions}
    {programs : List Program}
    (lowered : ((m.lowerFunctions options).run {}).1 = .ok programs) (row : Table × Key) :
    (m.interner options).Holds row ↔
      row = (.debugInfos, .debugInfo) ∨ row ∈ m.functions.flatMap (Function.requests m) := by
  have run : Runs (m.lowerFunctions options) {} (.ok programs)
      ((m.lowerFunctions options).run {}).2 := Prod.ext lowered rfl
  have added := (Lowering.adds_lowerFunctions {} programs _ sound_empty run).2 row
  have absent : ¬ Lowering.HoldsRow {} row := not_holds_empty row
  rw [List.mem_cons, or_iff_right absent] at added
  exact added

end Tilework
