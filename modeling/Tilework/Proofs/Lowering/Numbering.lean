import Mathlib.Data.List.Flatten
import Tilework.Proofs.Lowering.Attributes
import Tilework.Proofs.Lowering.Repetition
import Tilework.Proofs.Lowering.Sharing

/-!
# The numbers of tensors

A tensor that is built takes the next number, and a build that fails takes none.  So in
every state of a lowering context the next number is the number of tensors, and each
tensor has the number of those before it.

A value gets its tensor when it is defined: as an argument, or as the result of an
operation that does not write into another tensor.  So the tensors of a lowered module
stand in the order of their definitions.
-/

namespace Tilework

open Artifact Interner

/-! ## Numbers -/

namespace Interner

variable {interner before after : Interner} {table : Table} {key : Key}

/-- The next number is the number of tensors, and each tensor has its position as its
number. -/
structure Numbered (interner : Interner) : Prop where
  next : interner.nextGlobalId = UInt32.ofNat interner.tensors.length
  own : ∀ index record, interner.tensors.records[index]? = some record →
    record.globalId = UInt32.ofNat index

/-- The tensors and the next number are left as they are. -/
structure LeavesNumbers (before after : Interner) : Prop where
  tensors : after.tensors = before.tensors
  next : after.nextGlobalId = before.nextGlobalId

instance : Std.Refl LeavesNumbers where
  refl _ := ⟨rfl, rfl⟩

instance : IsTrans Interner LeavesNumbers where
  trans _ _ _ first second :=
    ⟨second.tensors.trans first.tensors, second.next.trans first.next⟩

theorem numbered_empty : Numbered {} where
  next := rfl
  own _ _ stored := nomatch stored

theorem LeavesNumbers.numbered (leaves : before.LeavesNumbers after)
    (numbered : before.Numbered) : after.Numbered where
  next := by rw [leaves.next, leaves.tensors, numbered.next]
  own := by
    rw [leaves.tensors]
    exact numbered.own

theorem leavesNumbers_push (different : table ≠ .tensors) (record : table.Record) :
    interner.LeavesNumbers (interner.push table key record) := by
  cases table with
  | tensors => exact absurd rfl different
  | _ => exact ⟨rfl, rfl⟩

/-- A tensor that has taken the next number is stored at the position with this number. -/
theorem Numbered.push (numbered : before.Numbered) {record : TensorRecord}
    (own : record.globalId = before.nextGlobalId) (tensors : after.tensors = before.tensors)
    (next : after.nextGlobalId = before.nextGlobalId + 1) :
    (after.push .tensors key record).Numbered where
  next := by
    have pushed : (after.push .tensors key record).tensors = (key, record) :: after.tensors := rfl
    rw [pushed, List.length_cons, UInt32.ofNat_add, tensors, ← numbered.next]
    exact next
  own index stored at_index := by
    have records : (after.push .tensors key record).tensors.records =
        before.tensors.records ++ [record] := by
      simp [Interner.push, Rows.records, tensors]
    rw [records, List.getElem?_append] at at_index
    split at at_index
    · exact numbered.own index stored at_index
    · rename_i beyond
      rw [Rows.length_records] at beyond at_index
      obtain ⟨within, rfl⟩ := List.getElem?_eq_some_iff.mp at_index
      have last : index = before.tensors.length := by
        rw [List.length_singleton] at within
        omega
      rw [List.getElem_singleton, own, numbered.next, last]

/-- While 32 bits are enough, the number of a tensor is its position. -/
theorem Numbered.toNat_globalId (numbered : interner.Numbered)
    (fits : interner.tensors.length ≤ UInt32.size) {index : Nat} {record : TensorRecord}
    (stored : interner.objects.tensors[index]? = some record) :
    record.globalId.toNat = index := by
  obtain ⟨inside, _⟩ := List.getElem?_eq_some_iff.mp stored
  have bound : index < interner.tensors.length := by
    rwa [← Rows.length_records interner.tensors]
  rw [numbered.own index record stored, UInt32.toNat_ofNat_of_lt' (Nat.lt_of_lt_of_le bound fits)]

end Interner

namespace Interning

variable {table : Table} {key : Key} {workers : WorkerGrid} {type : TensorType}
  {address size : UInt64} {before after : Interner}

theorem leavesNumbers_intern {build : Interning table.Record} (different : table ≠ .tensors)
    (kept : Keeps LeavesNumbers build) : Keeps LeavesNumbers (intern table key build) :=
  keeps_intern kept fun _ record _ _ _ => leavesNumbers_push different record

theorem leavesNumbers_placement (place : Placement) :
    Keeps LeavesNumbers (place.record workers) := by
  refine keeps_bind (keeps_lift _) fun cores => ?_
  refine keeps_bind (leavesNumbers_intern (by decide) (keeps_lift _)) fun memory => ?_
  exact keeps_pure _

theorem leavesNumbers_memoryConfig (config : MemoryConfig) :
    Keeps LeavesNumbers config.record := by
  refine keeps_bind ?_ fun shard => keeps_pure _
  cases config.shardShape with
  | none => exact keeps_pure _
  | some shape => exact keeps_map some (leavesNumbers_intern (by decide) (keeps_pure _))

/-- A tensor that is built takes the next number.  A build that fails takes none. -/
theorem numbers_of_runs_tensor {outcome : Except LoweringError TensorRecord}
    (run : Runs (type.record workers address size) before outcome after) :
    (∃ record, outcome = .ok record ∧ record.globalId = before.nextGlobalId ∧
        after.tensors = before.tensors ∧ after.nextGlobalId = before.nextGlobalId + 1) ∨
      ∃ error, outcome = .error error ∧ before.LeavesNumbers after := by
  have placed : Keeps LeavesNumbers
      (intern .layouts (.placement type.placement) (type.placement.record workers)) :=
    leavesNumbers_intern (by decide) (leavesNumbers_placement type.placement)
  rcases runs_bind.mp run with ⟨layout, middle, interned, shaped⟩ | ⟨error, failed, rfl⟩
  · obtain ⟨tensors, next⟩ := placed _ _ _ interned
    rcases runs_bind.mp shaped with ⟨shape, last, narrowed, counted⟩ | ⟨error, failed, rfl⟩
    · obtain ⟨_, rfl⟩ := runs_lift.mp narrowed
      rcases runs_bind.mp counted with ⟨globalId, final, taken, stored⟩ | ⟨error, failed, _⟩
      · obtain ⟨same, rfl⟩ := runs_freshGlobalId.mp taken
        obtain ⟨rfl, rfl⟩ := runs_pure.mp stored
        cases same
        exact Or.inl ⟨_, rfl, next, tensors, congrArg (· + 1) next⟩
      · cases (runs_freshGlobalId.mp failed).1
    · obtain ⟨_, rfl⟩ := runs_lift.mp failed
      exact Or.inr ⟨error, rfl, tensors, next⟩
  · exact Or.inr ⟨error, rfl, placed _ _ _ failed⟩

/-- A request for a tensor keeps the numbers in order, whether or not it succeeds. -/
theorem numbered_of_runs_intern {outcome : Except LoweringError Handle}
    (run : Runs (intern .tensors key (type.record workers address size)) before outcome after)
    (numbered : before.Numbered) : after.Numbered := by
  rw [runs_intern] at run
  cases found : before.handle? .tensors key with
  | some known =>
      rw [found] at run
      obtain ⟨_, rfl⟩ := runs_pure.mp run
      exact numbered
  | none =>
      rw [found] at run
      rcases runs_bind.mp run with ⟨record, middle, made, pushed⟩ | ⟨error, failed, _⟩
      · obtain ⟨_, rfl⟩ := runs_push.mp pushed
        rcases numbers_of_runs_tensor made with ⟨_, same, own, tensors, next⟩ | ⟨_, other, _⟩
        · cases same
          exact numbered.push own tensors next
        · cases other
      · rcases numbers_of_runs_tensor failed with ⟨_, other, _⟩ | ⟨_, _, leaves⟩
        · cases other
        · exact leaves.numbered numbered

end Interning

/-! ## Numbers in a context -/

/-- Where the tensors are numbered before, they are numbered after. -/
def LoweringState.KeepsNumbers (before after : LoweringState) : Prop :=
  before.interner.Numbered → after.interner.Numbered

instance : Std.Refl LoweringState.KeepsNumbers where
  refl _ := id

instance : IsTrans LoweringState LoweringState.KeepsNumbers where
  trans _ _ _ first second := second ∘ first

namespace Lowering

/-- Steps that leave the numbers alone. -/
theorem keepsNumbers_interning {α : Type} {action : Interning α}
    (kept : Keeps LeavesNumbers action) :
    Keeps LoweringState.KeepsNumbers (interning action) := by
  intro before outcome after run
  exact (kept _ _ _ (runs_interning.mp run).1).numbered

/-- Every step of lowering keeps the tensors numbered. -/
theorem closed_keepsNumbers {m : Module} :
    Closed m fun {_} action => Keeps LoweringState.KeepsNumbers action where
  pure := keeps_pure
  bind := keeps_bind
  resolve value := by
    rw [resolve]
    exact keeps_bind keeps_get fun state => keeps_pure _
  lookup _ _ := keepsNumbers_interning Interning.keeps_lookup
  modify f := by
    intro before outcome after run
    obtain ⟨_, rfl⟩ := runs_modify.mp run
    exact id
  program later := keeps_lift_bind fun value found => later value (mapError_eq_ok_iff.mp found)
  internTensor _ := by
    intro before outcome after run
    exact Interning.numbered_of_runs_intern (runs_interning.mp run).1
  internDevice _ :=
    keepsNumbers_interning (Interning.leavesNumbers_intern (by decide) (keeps_lift _))
  memoryConfig config := keepsNumbers_interning
    (Interning.leavesNumbers_intern (by decide) (Interning.leavesNumbers_memoryConfig config))
  unplaced _ := keeps_throw _
  encode _ := keeps_lift _

end Lowering

/-- The tensors of a context are numbered, whatever it was asked for before. -/
theorem LoweringState.Reached.numbered {m : Module} {options : LoweringOptions}
    {state : LoweringState} (reached : state.Reached m options) : state.interner.Numbered := by
  have closed := Lowering.closed_keepsNumbers (m := m)
  induction reached with
  | empty => exact numbered_empty
  | debugInfo _ run numbered =>
      exact Lowering.keepsNumbers_interning
        (Interning.leavesNumbers_intern (by decide) (keeps_pure _)) _ _ _ run numbered
  | reference _ run numbered => exact closed.link _ _ _ _ run numbered
  | operation _ run numbered => exact closed.operation _ _ _ _ run numbered
  | function _ run numbered => exact closed.function _ _ _ _ _ run numbered

/-! ## Definitions in order -/

/-- The result that a reference allocates. -/
def Reference.allocated? : Reference → Option ValueId
  | allocated result => some result
  | _ => none

/-- The results of an operation that get tensors of their own.  Those that are written into
another tensor do not, and devices are no tensors. -/
def Operation.newTensors : Operation → List ValueId
  | getDevice _ => []
  | operation => if operation.destination = none then operation.results else []

/-- The values that get tensors of their own in a function, in the order of their definitions. -/
def Function.newTensors (m : Module) (function : Function) : List ValueId :=
  function.tensorArguments m ++
    function.body.flatMap fun instruction => instruction.operation.newTensors

/-- The values that get tensors of their own in a module, function by function. -/
def Module.newTensors (m : Module) : List ValueId :=
  m.functions.flatMap fun function => function.newTensors m

namespace Operation

variable {m : Module} {operation : Operation} {record : OperationRecord Reference}

theorem allocated?_of_optional {α : Type} {wrap : α → Reference}
    (plain : ∀ a, (wrap a).allocated? = none) (given : Option α) :
    (given.map wrap).toList.filterMap Reference.allocated? = [] := by
  cases given <;> simp [plain]

theorem allocated?_of_tensors (values : List ValueId) :
    (values.map Reference.tensor).filterMap Reference.allocated? = [] := by
  simp [List.filterMap_eq_nil_iff, Reference.allocated?]

/-- An operation allocates its results that get tensors of their own, and no others, unless it
fails to name the tensor that it has to write into. -/
theorem newTensors_of_record (encoded : operation.record m = .ok record)
    (placed : ∀ name, .unplaced name ∉ record.references) :
    record.references.filterMap Reference.allocated? = operation.newTensors := by
  cases operation with
  | unregistered op => cases encoded
  | elementwise op =>
      cases encoded
      cases given : op.output with
      | some output =>
          simp [OperationRecord.references, OperationRecord.slots, Elementwise.out, given,
            Reference.allocated?, newTensors, destination, signature]
      | none =>
          by_cases needed : op.kind.needsOutput
          · have missing : op.out = .unplaced op.kind.operationName := by
              simp [Elementwise.out, given, needed]
            exact absurd (by simp [OperationRecord.references, OperationRecord.slots, missing])
              (placed op.kind.operationName)
          · simp [OperationRecord.references, OperationRecord.slots, Elementwise.out, given, needed,
              Reference.allocated?, newTensors, destination, results, signature]
  | _ op =>
      first
      | obtain ⟨inner, found, rfl⟩ := map_eq_ok_iff.mp encoded
        rw [OperationRecord.references]
        first
        | rw [slots_getDevice found]
        | rw [slots_empty found]
        | rw [slots_full found]
        | rw [slots_meshShard found]
      | cases encoded
      simp only [OperationRecord.references, OperationRecord.slots, Conversion.record,
        ConstantFill.record, List.map_append, OperationRecord.map_snd_slotsFor,
        List.filterMap_append, allocated?_of_tensors, List.nil_append, List.append_nil,
        allocated?_of_optional (fun _ => rfl : ∀ value, (Reference.tensor value).allocated? = none),
        allocated?_of_optional (fun _ => rfl : ∀ value, (Reference.device value).allocated? = none),
        allocated?_of_optional
          (fun _ => rfl : ∀ config, (Reference.memoryConfig config).allocated? = none)]
      rfl

end Operation

/-! ## Steps that define tensors -/

/-- The keys of all tensors, newest first. -/
def Interner.tensorKeys (interner : Interner) : List Key :=
  interner.tensors.keys

/-- The keys of all tensors of a state, newest first. -/
def LoweringState.tensorKeys (state : LoweringState) : List Key :=
  state.interner.tensorKeys

/-- A request for a tensor enters its key. -/
theorem Interning.enters_tensor {key : Key} {workers : WorkerGrid} {type : TensorType}
    {address size : UInt64} :
    Enters Interner.tensorKeys [key] (intern .tensors key (type.record workers address size)) := by
  intro before handle after run
  have inserted : entered before.tensorKeys [key] = before.tensorKeys.insert key := rfl
  rw [inserted]
  rw [runs_intern] at run
  cases found : before.handle? .tensors key with
  | some known =>
      rw [found] at run
      obtain ⟨_, rfl⟩ := runs_pure.mp run
      have held : key ∈ after.tensorKeys := holds_iff.mpr ⟨known, found⟩
      exact (List.insert_of_mem held).symm
  | none =>
      rw [found] at run
      obtain ⟨record, middle, made, pushed⟩ := runs_bind_ok.mp run
      obtain ⟨_, rfl⟩ := runs_push.mp pushed
      have absent : key ∉ before.tensorKeys :=
        Rows.position?_eq_none_iff.mp (Option.map_eq_none_iff.mp found)
      have pushedKeys : (middle.push .tensors key record).tensorKeys = key :: middle.tensorKeys :=
        rfl
      rcases numbers_of_runs_tensor made with ⟨_, _, _, tensors, _⟩ | ⟨_, other, _⟩
      · rw [pushedKeys, List.insert_of_not_mem absent, tensorKeys, tensors, tensorKeys]
      · cases other

namespace Lowering

variable {m : Module} {entries : List Key}

theorem enters_interning {α : Type} {action : Interning α}
    (enters : Enters Interner.tensorKeys entries action) :
    Enters LoweringState.tensorKeys entries (interning action) :=
  fun _ value _ run => enters _ value _ (runs_interning.mp run).1

/-- Requests that leave the tensors alone enter nothing. -/
theorem enters_nil_of_leaves {α : Type} {action : Interning α}
    (kept : Keeps LeavesNumbers action) :
    Enters LoweringState.tensorKeys [] (interning action) :=
  enters_interning fun before _ after run =>
    congrArg Rows.keys (kept before _ after run).tensors

theorem enters_shared (table : Table) (value : ValueId) :
    Enters LoweringState.tensorKeys [] (shared table value) := by
  intro before handle after run
  rw [(runs_shared_ok.mp run).2]
  rfl

theorem enters_own {τ : Type} {table : Table} {value : ValueId} {asked : Except ModuleError τ}
    {record : τ → Interning table.Record}
    (enters : ∀ type, Enters LoweringState.tensorKeys entries
      (interning (Interning.intern table (.value value) (record type)))) :
    Enters LoweringState.tensorKeys entries (own table value asked record) := by
  rw [own]
  exact enters_lift_bind fun type _ => enters type

theorem enters_modify (f : Aliases → Aliases) :
    Enters LoweringState.tensorKeys []
      (modify fun state => { state with aliases := f state.aliases } : Lowering PUnit) := by
  intro before value after run
  rw [(runs_modify.mp run).2]
  rfl

theorem enters_write (output result : ValueId) :
    Enters LoweringState.tensorKeys [] (write output result) := by
  rw [write]
  split
  · exact enters_bind (enters_modify ((result, output) :: ·)) fun _ => enters_shared .tensors result
  · exact enters_shared .tensors result

theorem enters_allocate (value : ValueId) :
    Enters LoweringState.tensorKeys [.value value] (allocate m value) :=
  enters_own fun _ => enters_interning Interning.enters_tensor

theorem enters_openDevice (value : ValueId) :
    Enters LoweringState.tensorKeys [] (openDevice m value) :=
  enters_own fun _ =>
    enters_nil_of_leaves (Interning.leavesNumbers_intern (by decide) (keeps_lift _))

/-- Linking a reference enters the result that it allocates. -/
theorem enters_link (reference : Reference) :
    Enters LoweringState.tensorKeys (reference.allocated?.toList.map .value)
      (reference.link m) := by
  cases reference with
  | tensor value => exact enters_shared .tensors value
  | device value => exact enters_shared .devices value
  | memoryConfig config =>
      exact enters_nil_of_leaves
        (Interning.leavesNumbers_intern (by decide) (Interning.leavesNumbers_memoryConfig config))
  | allocated result => exact enters_allocate result
  | written output result => exact enters_write output result
  | opened result => exact enters_openDevice result
  | unplaced name => exact enters_throw _

/-- Linking references enters the results that they allocate, in order. -/
theorem enters_relates :
    OperationRecord.Relates (Reference.link m) (Reference.link m) fun {_} steps _ references =>
      Enters LoweringState.tensorKeys
        ((references.filterMap Reference.allocated?).map .value) steps where
  pure := enters_pure
  bind first rest := by
    rw [List.filterMap_append, List.map_append]
    exact enters_bind first rest
  step reference := by
    have single : [reference].filterMap Reference.allocated? = reference.allocated?.toList := by
      cases reference <;> rfl
    rw [single]
    exact enters_link reference

/-- References that are linked do not fail to name a tensor. -/
theorem placed_relates :
    OperationRecord.Relates (Reference.link m) (Reference.link m) fun {_} steps _ references =>
      ∀ before value after, Runs steps before (.ok value) after →
        ∀ name, .unplaced name ∉ references where
  pure _ _ _ _ _ _ := List.not_mem_nil
  bind first rest := by
    intro before value after run name member
    obtain ⟨given, middle, ran, continued⟩ := runs_bind_ok.mp run
    rcases List.mem_append.mp member with early | late
    · exact first _ _ _ ran name early
    · exact rest given _ _ _ continued name late
  step reference := by
    intro before handle after run name member
    cases List.mem_singleton.mp member
    cases (runs_throw.mp run).1

/-- Lowering an operation enters its results that get tensors of their own. -/
theorem enters_operation (operation : Operation) :
    Enters LoweringState.tensorKeys (operation.newTensors.map .value) (operation.lower m) := by
  intro before linked after run
  obtain ⟨record, middle, encoded, replaced⟩ := runs_bind_ok.mp run
  obtain ⟨found, rfl⟩ := runs_lift.mp encoded
  have placed := placed_relates.mapM record _ _ _ replaced
  rw [← Operation.newTensors_of_record found.symm placed]
  exact enters_relates.mapM record _ _ _ replaced

theorem enters_instruction (instruction : Instruction) :
    Enters LoweringState.tensorKeys (instruction.operation.newTensors.map .value)
      (instruction.lower m) := by
  rw [Instruction.lower]
  exact enters_bind_pure _ (enters_operation instruction.operation)

/-- Lowering an argument enters it if it is a tensor. -/
theorem enters_argument (argument : ValueId) :
    Enters LoweringState.tensorKeys (([argument].filter m.isTensor).map .value)
      (m.lowerArgument argument) := by
  rw [Module.lowerArgument]
  apply enters_lift_bind
  intro type known
  have typed := mapError_eq_ok_iff.mp known
  cases type with
  | device type =>
      have isDevice : m.isTensor argument = false := by simp [Module.isTensor, typed]
      rw [List.filter_cons_of_neg (by simp [isDevice])]
      exact enters_bind_pure _ (enters_openDevice argument)
  | tensor type =>
      have isTensor : m.isTensor argument = true := by simp [Module.isTensor, typed]
      rw [List.filter_cons_of_pos isTensor]
      exact enters_bind_pure _ (enters_allocate argument)

theorem enters_arguments (arguments : List ValueId) :
    Enters LoweringState.tensorKeys ((arguments.filter m.isTensor).map .value)
      (arguments.mapM m.lowerArgument) := by
  have each := enters_mapM fun argument (_ : argument ∈ arguments) =>
    enters_argument (m := m) argument
  rwa [← List.map_flatMap, ← List.filter_flatMap, List.flatMap_singleton'] at each

theorem enters_returns (values : List ValueId) :
    Enters LoweringState.tensorKeys [] (values.mapM tensor) := by
  have each := enters_mapM fun value (_ : value ∈ values) => enters_shared .tensors value
  rwa [List.flatMap_eq_nil_iff.mpr fun _ _ => rfl] at each

/-- Lowering a function enters the values that get tensors of their own, in order. -/
theorem enters_function (function : Function) (debugInfo : Handle) :
    Enters LoweringState.tensorKeys ((function.newTensors m).map .value)
      (function.lower m debugInfo) := by
  have cleared : Enters LoweringState.tensorKeys [] clearAliases := enters_modify fun _ => []
  have body := enters_mapM fun instruction (_ : instruction ∈ function.body) =>
    enters_instruction (m := m) instruction
  rw [← List.map_flatMap] at body
  have whole : Enters LoweringState.tensorKeys
      ([] ++ ((function.tensorArguments m).map .value ++
        ((function.body.flatMap fun instruction => instruction.operation.newTensors).map .value ++
          []))) (function.lower m debugInfo) := by
    refine enters_bind cleared fun _ => ?_
    refine enters_bind (enters_arguments function.arguments) fun arguments => ?_
    exact enters_bind body fun operations => enters_bind_pure _ (enters_returns function.returns)
  rwa [List.nil_append, List.append_nil, ← List.map_append] at whole

theorem enters_lowerFunctions (options : LoweringOptions) :
    Enters LoweringState.tensorKeys (m.newTensors.map .value) (m.lowerFunctions options) := by
  have debug : Enters LoweringState.tensorKeys [] (interning (Interning.intern .debugInfos
      .debugInfo (pure (options.debugRecord m.text)))) :=
    enters_nil_of_leaves (Interning.leavesNumbers_intern (by decide) (keeps_pure _))
  rw [Module.newTensors, List.map_flatMap]
  exact enters_bind debug fun debugInfo =>
    enters_mapM fun function _ => enters_function function debugInfo

end Lowering

/-! ## Handles in order -/

/-- In a table without duplicates the keys are found at their positions, oldest first. -/
theorem Rows.position?_eq_some_iff_getElem? {ρ : Type} {rows : Rows ρ} (distinct : rows.keys.Nodup)
    {key : Key} {position : Nat} :
    rows.position? key = some position ↔ rows.keys.reverse[position]? = some key := by
  have stored {other : Key} (found : rows.position? other = some position) :
      rows.keys.reverse[position]? = some other := by
    obtain ⟨newer, record, older, rfl, _, rfl⟩ := Rows.position?_eq_some_iff.mp found
    simp [keys]
  refine ⟨stored, fun at_position => ?_⟩
  obtain ⟨inside, _⟩ := List.getElem?_eq_some_iff.mp at_position
  rw [List.length_reverse, keys, List.length_map] at inside
  obtain ⟨other, found⟩ := Rows.exists_key_of_lt distinct inside
  rw [stored found] at at_position
  rwa [← Option.some.inj at_position]

section

variable {m : Module} {options : LoweringOptions} {function : Function} {value : ValueId}
  {interner : Interner} {handle : Handle}

/-- Values that get tensors of their own are among the results, in the same order. -/
theorem Operation.newTensors_sublist (operation : Operation) :
    operation.newTensors.Sublist operation.results := by
  unfold Operation.newTensors
  split
  · exact List.nil_sublist _
  · split
    · exact List.Sublist.refl _
    · exact List.nil_sublist _

theorem Operation.destination_of_mem_newTensors {operation : Operation}
    (own : value ∈ operation.newTensors) : operation.destination = none := by
  unfold Operation.newTensors at own
  split at own
  · cases own
  · split at own
    · assumption
    · cases own

theorem Function.newTensors_sublist (m : Module) (function : Function) :
    (function.newTensors m).Sublist function.definedValues :=
  List.filter_sublist.append
    (List.Sublist.flatMap_right _ fun instruction _ => instruction.operation.newTensors_sublist)

theorem Module.WellFormed.nodup_newTensors (wellFormed : m.WellFormed) : m.newTensors.Nodup :=
  wellFormed.distinct.sublist
    (List.Sublist.flatMap_right _ fun function _ => function.newTensors_sublist m)

/-- A value that gets a tensor of its own is its own root. -/
theorem root_of_mem_newTensors (wellFormed : function.WellFormed m)
    (own : value ∈ function.newTensors m) : function.root value = value := by
  rcases List.mem_append.mp own with argument | result
  · exact root_argument wellFormed (List.mem_filter.mp argument).1
  · obtain ⟨instruction, member, own⟩ := List.mem_flatMap.mp result
    exact root_of_allocated wellFormed member (Operation.destination_of_mem_newTensors own)
      (instruction.operation.newTensors_sublist.mem own)

/-- The tensors of a lowered module stand in the order of their definitions. -/
theorem Module.WellFormed.tensorKeys_interner (wellFormed : m.WellFormed) {programs : List Program}
    (lowered : ((m.lowerFunctions options).run {}).1 = .ok programs) :
    (m.interner options).tensorKeys = (m.newTensors.map .value).reverse := by
  have run : Runs (m.lowerFunctions options) {} (.ok programs)
      ((m.lowerFunctions options).run {}).2 := Prod.ext lowered rfl
  have distinct : (m.newTensors.map Key.value).Nodup :=
    wellFormed.nodup_newTensors.map fun _ _ => Key.value.inj
  have keys : (m.interner options).tensorKeys = entered [] (m.newTensors.map .value) :=
    Lowering.enters_lowerFunctions options {} _ _ run
  rw [keys, entered_eq_reverse_append distinct (List.disjoint_nil_right _), List.append_nil]

/-- The handle of a tensor is the position of its definition. -/
theorem Interner.handle?_eq_some_iff_getElem? {values : List ValueId} (distinct : interner.Distinct)
    (small : ∀ table, (interner.objects.records table).length < UInt32.size)
    (keys : interner.tensorKeys = (values.map .value).reverse) :
    interner.handle? .tensors (.value value) = some handle ↔
      values[handle.toNat]? = some value := by
  have position : (interner.rows .tensors).position? (.value value) = some handle.toNat ↔
      values[handle.toNat]? = some value := by
    rw [Rows.position?_eq_some_iff_getElem? (distinct .tensors)]
    have listed : (interner.rows .tensors).keys = (values.map .value).reverse := keys
    rw [listed, List.reverse_reverse, List.getElem?_map, Option.map_eq_some_iff]
    simp
  rw [← position]
  refine ⟨position?_of_handle? (small .tensors).le, fun found => ?_⟩
  rw [handle?, found, Option.map_some, UInt32.ofNat_toNat]

end

/-! ## Numbered artifacts -/

/-- Some program holds a handle for a tensor. -/
def Module.HoldsTensor (m : Module) (binary : Binary) (value : ValueId) (handle : Handle) : Prop :=
  ∃ function program, (function, program) ∈ m.functions.zip binary.programs ∧
    function.HoldsTensor m program value handle

/-- An artifact numbers its tensors in the order in which a module defines them. -/
structure Module.Numbers (m : Module) (binary : Binary) (objects : ObjectTables) : Prop where
  length : objects.tensors.length = m.newTensors.length
  /-- The handle of a value is its position among those that get tensors of their own. -/
  handle : ∀ position value, m.newTensors[position]? = some value → ∀ handle,
    m.HoldsTensor binary value handle ↔ handle.toNat = position
  globalId : ∀ index (record : TensorRecord), objects.tensors[index]? = some record →
    record.globalId.toNat = index

theorem Module.numbered_interner (m : Module) (options : LoweringOptions) :
    (m.interner options).Numbered := by
  have kept : Keeps LoweringState.KeepsNumbers (m.lowerFunctions options) :=
    Lowering.closed_keepsNumbers.lowerFunctions (Lowering.keepsNumbers_interning
      (Interning.leavesNumbers_intern (by decide) (keeps_pure _)))
  exact kept {} _ ((m.lowerFunctions options).run {}).2 rfl numbered_empty

/-- A program holds the handle of a value that gets a tensor of its own, and no program holds
another one for it. -/
theorem Module.Finished.holdsTensor_iff {m : Module} {options : LoweringOptions}
    {interner : Interner} {binary : Binary} (finished : m.Finished options interner binary)
    (keys : interner.tensorKeys = (m.newTensors.map .value).reverse) {value : ValueId}
    (own : value ∈ m.newTensors) {handle : Handle} :
    m.HoldsTensor binary value handle ↔ m.newTensors[handle.toNat]? = some value := by
  obtain ⟨function, member, inside⟩ := List.mem_flatMap.mp own
  have wellFormed := finished.wellFormed.function function member
  have root := root_of_mem_newTensors wellFormed inside
  have defined := (function.newTensors_sublist m).mem inside
  have found_iff {handle : Handle} :
      interner.handle? .tensors (.value value) = some handle ↔
        m.newTensors[handle.toNat]? = some value :=
    handle?_eq_some_iff_getElem? finished.sound.distinct finished.small keys
  have holds {handle : Handle} (held : m.HoldsTensor binary value handle) :
      m.newTensors[handle.toNat]? = some value := by
    obtain ⟨other, program, paired, held⟩ := held
    obtain ⟨otherDefined, _, found, _⟩ := finished.of_holdsTensor paired held
    cases finished.wellFormed.unique member (List.of_mem_zip paired).1 defined otherDefined
    rw [root] at found
    exact found_iff.mp found
  refine ⟨holds, fun at_handle => ?_⟩
  have found := found_iff.mpr at_handle
  obtain ⟨_, described⟩ := finished.sound.exists_describes found
  obtain ⟨type, typed, _⟩ := describes_tensor_iff.mp described
  have isTensor := Module.isTensor_iff.mpr ⟨type, typed⟩
  obtain ⟨program, paired⟩ := finished.exists_program member
  obtain ⟨other, held, _⟩ := finished.exists_reached paired defined isTensor
  have otherFound := (finished.of_holdsTensor paired held).2.2.1
  rw [root, found] at otherFound
  rw [Option.some.inj otherFound]
  exact ⟨function, program, paired, held⟩

/-- In every state of a lowering context the number of a tensor is its position, as long as 32
bits are enough to tell.  The tensors of a lowered module are numbered in the order of their
definitions: function by function, first the arguments, then the results that are not written into
another tensor. -/
theorem tensors_numbered :
    (∀ (m : Module) (options : LoweringOptions) (state : LoweringState),
      state.Reached m options → state.interner.tensors.length < UInt32.size →
        ∀ index (record : TensorRecord), state.interner.objects.tensors[index]? = some record →
          record.globalId.toNat = index) ∧
      ∀ (m : Module) (options : LoweringOptions) (buffer : Bytes), m.Built →
        m.lower options = .ok buffer →
          ∃ binary objects, Binary.ofFrame buffer = .ok binary ∧ binary.objects = some objects ∧
            m.Numbers binary objects := by
  constructor
  · intro m options state reached small index record stored
    exact reached.numbered.toNat_globalId small.le stored
  · intro m options buffer built lowered
    have wellFormed := built.wellFormed
    obtain ⟨binary, decoded, stored, finished⟩ := wellFormed.finished lowered
    obtain ⟨assembled, made, _⟩ := Module.lower_eq_ok_iff.mp lowered
    obtain ⟨programs, _, ran, _⟩ := Module.binary_eq_ok_iff.mp made
    have keys := wellFormed.tensorKeys_interner ran
    refine ⟨binary, _, decoded, stored, ?length, ?handle, ?globalId⟩
    case length =>
      have length := congrArg List.length keys
      rw [List.length_reverse, List.length_map, Interner.tensorKeys, Rows.keys,
        List.length_map] at length
      exact (Rows.length_records _).trans length
    case handle =>
      intro position value at_position handle
      rw [finished.holdsTensor_iff keys (List.mem_of_getElem? at_position), ← at_position]
      obtain ⟨inside, _⟩ := List.getElem?_eq_some_iff.mp at_position
      rw [eq_comm, List.getElem?_inj inside wellFormed.nodup_newTensors, eq_comm]
    case globalId =>
      have small := finished.small .tensors
      rw [records_objects, Rows.length_records] at small
      exact fun index record => (m.numbered_interner options).toNat_globalId small.le

/-! ### A context with a failure -/

/-- The state after a reference has been asked for, whether or not this succeeds. -/
def LoweringState.afterLink (m : Module) (state : LoweringState) (reference : Reference) :
    LoweringState :=
  ((reference.link m).run state).2

theorem LoweringState.Reached.afterLink {m : Module} {options : LoweringOptions}
    {state : LoweringState} (reached : state.Reached m options) (reference : Reference) :
    (state.afterLink m reference).Reached m options := by
  have run : Runs (reference.link m) state ((reference.link m).run state).1
    (state.afterLink m reference) := rfl
  exact reached.reference run

theorem LoweringState.Reached.afterCalls {m : Module} {options : LoweringOptions}
    {state : LoweringState} (reached : state.Reached m options) (calls : List (Function × Handle)) :
    (state.afterCalls m calls).Reached m options := by
  induction calls generalizing state with
  | nil => exact reached
  | cons call calls ih => exact ih (reached.function rfl)

/-- A context of a module with two functions that has been asked for the argument of the second
one, for a device that is none, and then for both functions. -/
def askedInTurn : LoweringState :=
  let m := copyAbsAndPass .single
  let failed := (LoweringState.afterLink m {} (.allocated ⟨4⟩)).afterLink m (.opened ⟨0⟩)
  failed.afterCalls m (m.functions.map (·, 0))

theorem tensors_numbered_copyAbsAndPass :
    (askedInTurn.Reached (copyAbsAndPass .single) {} ∧
      askedInTurn.tensorKeys = [.value ⟨2⟩, .value ⟨0⟩, .value ⟨4⟩] ∧
      ∀ index (record : TensorRecord),
        askedInTurn.interner.objects.tensors[index]? = some record →
          record.globalId.toNat = index) ∧
      (copyAbsAndPass .single).Built ∧ (copyAbsAndPass .single).newTensors = [⟨0⟩, ⟨2⟩, ⟨4⟩] ∧
      ∃ buffer binary objects, (copyAbsAndPass .single).lower {} = .ok buffer ∧
        Binary.ofFrame buffer = .ok binary ∧ binary.objects = some objects ∧
          (copyAbsAndPass .single).Numbers binary objects := by
  constructor
  · have reached : askedInTurn.Reached (copyAbsAndPass .single) {} :=
      ((LoweringState.Reached.empty.afterLink _).afterLink _).afterCalls _
    exact ⟨reached, by decide +kernel, tensors_numbered.1 _ _ _ reached (by decide +kernel)⟩
  · obtain ⟨buffer, lowered⟩ := exists_lower_copyAbsAndPass
    obtain ⟨binary, objects, numbers⟩ :=
      tensors_numbered.2 _ _ _ (built_copyAbsAndPass .single) lowered
    exact ⟨built_copyAbsAndPass _, by decide +kernel, buffer, binary, objects, lowered, numbers⟩

end Tilework
