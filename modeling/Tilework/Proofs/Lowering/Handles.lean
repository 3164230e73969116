import Tilework.Proofs.Artifact.RoundTrip
import Tilework.Proofs.Lowering.Program

/-!
# Handles of lowered programs

A lowered program holds handles in its lists of inputs and outputs and in the slots
of its records.  Each of them is held for a value or for a memory configuration,
and what it is held for can be told from the function alone.  The handle for a
value is the one of its root.
-/

namespace Tilework

open Artifact Interner

/-! ## What handles are held for -/

/-- A slot in the entry of an instruction holds a handle for a reference. -/
def Instruction.Holds (m : Module) (instruction : Instruction) (entry : OperationEntry)
    (role : Role) (reference : Reference) (handle : Handle) : Prop :=
  ∃ record linked, instruction.operation.record m = .ok record ∧ entry.record = some linked ∧
    ((role, reference), (role, handle)) ∈ record.slots.zip linked.slots

/-- The program of a function holds a handle for a tensor: as an input, as an output,
or in a slot of a record that mentions the tensor. -/
inductive Function.HoldsTensor (m : Module) (function : Function) (program : Program) :
    ValueId → Handle → Prop
  | input {value : ValueId} {handle : Handle}
      (given : (value, handle) ∈ (function.tensorArguments m).zip program.inputs) :
      HoldsTensor m function program value handle
  | output {value : ValueId} {handle : Handle}
      (returned : (value, handle) ∈ function.returns.zip program.outputs) :
      HoldsTensor m function program value handle
  | slot {instruction : Instruction} {entry : OperationEntry} {role : Role}
      {reference : Reference} {value : ValueId} {handle : Handle}
      (executed : (instruction, entry) ∈ function.body.zip program.operations)
      (held : instruction.Holds m entry role reference handle) (isTensor : role.table = .tensors)
      (mentioned : value ∈ reference.values) : HoldsTensor m function program value handle

/-- The program of a function holds a handle for a device. -/
def Function.HoldsDevice (m : Module) (function : Function) (program : Program)
    (value : ValueId) (handle : Handle) : Prop :=
  ∃ instruction entry role reference, (instruction, entry) ∈ function.body.zip program.operations ∧
    instruction.Holds m entry role reference handle ∧ role.table = .devices ∧
      value ∈ reference.values

/-! ## Filled slots -/

/-- The slots of an entry are filled with the handles of what they refer to. -/
def Instruction.Filled (m : Module) (interner : Interner) (function : Function)
    (instruction : Instruction) (entry : OperationEntry) : Prop :=
  ∃ record linked, instruction.operation.record m = .ok record ∧ entry.record = some linked ∧
    List.Forall₂ (OperationRecord.Linked (Reference.handleIn interner function.root)) record.slots
      linked.slots

/-- A program whose lists and slots are filled with the handles of what they refer
to. -/
structure Function.Filled (m : Module) (interner : Interner) (function : Function)
    (program : Program) : Prop where
  name : program.name = function.name
  inputs : List.Forall₂ (fun value handle => interner.handle? .tensors (.value value) = some handle)
    (function.tensorArguments m) program.inputs
  devices : ∀ value ∈ function.arguments, ∀ type, m.deviceType value = .ok type →
    ∃ handle, interner.handle? .devices (.value value) = some handle
  operations : List.Forall₂ (Instruction.Filled m interner function) function.body
    program.operations
  outputs : List.Forall₂
    (fun value handle => interner.handle? .tensors (.value (function.root value)) = some handle)
    function.returns program.outputs

section

variable {m : Module} {interner : Interner} {function : Function} {program : Program}
  {instruction : Instruction} {entry : OperationEntry}

/-- Reading an entry back leaves its slots as they are. -/
theorem Instruction.Linked.filled (linked : instruction.Linked m interner function entry) :
    instruction.Filled m interner function entry.normalized := by
  obtain ⟨record, replaced, encoded, found, stored⟩ := linked.record
  refine ⟨record, replaced.normalized, encoded, ?_, ?_⟩
  · simp [OperationEntry.normalized, stored]
  · rw [OperationRecord.slots_normalized]
    exact OperationRecord.slots_of_mapM found

theorem Function.Linked.filled (linked : function.Linked m interner program) :
    function.Filled m interner program.normalized where
  name := linked.name
  inputs := linked.inputs
  devices := linked.devices
  operations := List.forall₂_map_right_iff.mpr
    (linked.operations.imp fun _ _ each => each.filled)
  outputs := linked.outputs

/-- What is held in a slot fits its role and is the handle of what it is held for. -/
theorem Instruction.Filled.handleIn {role : Role} {reference : Reference} {handle : Handle}
    (filled : instruction.Filled m interner function entry)
    (held : instruction.Holds m entry role reference handle) :
    reference.Fits instruction.operation role ∧
      reference.handleIn interner function.root = some handle := by
  rcases filled with ⟨record, linked, encoded, stored, each⟩
  rcases held with ⟨other, otherLinked, otherEncoded, otherStored, slot⟩
  rw [encoded] at otherEncoded
  cases otherEncoded
  rw [stored] at otherStored
  cases otherStored
  refine ⟨Operation.fits_of_record encoded _ (List.of_mem_zip slot).1, ?_⟩
  exact (List.forall₂_zip each slot).2

/-- Something is held for each value that an instruction uses or defines. -/
theorem Instruction.Filled.exists_holds {value : ValueId}
    (filled : instruction.Filled m interner function entry)
    (used : value ∈ instruction.operation.operands ++ instruction.operation.results) :
    ∃ role reference handle, instruction.Holds m entry role reference handle ∧
      value ∈ reference.values := by
  rcases filled with ⟨record, linked, encoded, stored, each⟩
  have replaced {slot : Role × Reference} (member : slot ∈ record.slots) :
      ∃ handle, (slot, (slot.1, handle)) ∈ record.slots.zip linked.slots ∧
        slot.2.handleIn interner function.root = some handle := by
    obtain ⟨⟨role, handle⟩, pair, sameRole, found⟩ := exists_mem_zip each member
    refine ⟨handle, ?_, found⟩
    rw [sameRole]
    exact pair
  have placed : ∀ name, .unplaced name ∉ record.references := by
    intro name member
    rcases List.mem_map.mp member with ⟨⟨role, reference⟩, inside, rfl⟩
    obtain ⟨handle, _, found⟩ := replaced inside
    cases found
  obtain ⟨reference, member, mentioned⟩ :=
    List.mem_flatMap.mp (Operation.mem_values_of_record encoded placed value used)
  rcases List.mem_map.mp member with ⟨⟨role, reference⟩, inside, rfl⟩
  obtain ⟨handle, pair, _⟩ := replaced inside
  exact ⟨role, reference, handle, ⟨record, linked, encoded, stored, pair⟩, mentioned⟩

end

/-! ## Handles of roots -/

section

variable {m : Module} {options : LoweringOptions} {interner : Interner} {function : Function}
  {program : Program} {instruction : Instruction} {value : ValueId} {handle : Handle}
  (wellFormed : function.WellFormed m)

include wellFormed

/-- The handle in a slot for a tensor or a device is the one of the root of each value
that the slot mentions. -/
theorem handle?_of_fits {role : Role} {reference : Reference}
    (member : instruction ∈ function.body) (fits : reference.Fits instruction.operation role)
    (found : reference.handleIn interner function.root = some handle)
    (mentioned : value ∈ reference.values) :
    interner.handle? role.table (.value (function.root value)) = some handle := by
  cases fits with
  | tensor read | device read =>
      rw [List.mem_singleton.mp mentioned]
      exact found
  | memoryConfig asked => cases mentioned
  | allocated placed defines =>
      rw [List.mem_singleton.mp mentioned,
        root_of_allocated wellFormed member placed (by simp [defines])]
      exact found
  | @written output result given defines =>
      have shared : function.root result = function.root output :=
        root_of_destination wellFormed member given (by simp [defines])
      rcases List.mem_cons.mp mentioned with rfl | mentioned
      · rw [← shared]
        exact found
      · rw [List.mem_singleton.mp mentioned]
        exact found
  | @opened result opens =>
      have placed : instruction.operation.destination = none := by rw [opens]; rfl
      have defines : instruction.operation.results = [result] := by rw [opens]; rfl
      rw [List.mem_singleton.mp mentioned,
        root_of_allocated wellFormed member placed (by simp [defines])]
      exact found
  | unplaced name => cases mentioned

/-- What a slot mentions is used or defined by the operation, and defined in the
function. -/
theorem mem_definedValues_of_fits {role : Role} {reference : Reference}
    (member : instruction ∈ function.body) (fits : reference.Fits instruction.operation role)
    (mentioned : value ∈ reference.values) : value ∈ function.definedValues := by
  have result : ∀ value ∈ instruction.operation.results, value ∈ function.definedValues :=
    fun value defines =>
      List.mem_append_right _ (List.mem_flatMap.mpr ⟨instruction, member, defines⟩)
  cases fits with
  | tensor read | device read =>
      rw [List.mem_singleton.mp mentioned]
      exact wellFormed.operand_mem member (List.mem_append_left _ read)
  | allocated placed defines =>
      exact result value (defines ▸ mentioned)
  | written given defines =>
      rcases List.mem_cons.mp mentioned with rfl | mentioned
      · exact wellFormed.operand_mem member (Operation.destination_mem given)
      · exact result value (defines ▸ mentioned)
  | opened opens =>
      refine result value ?_
      rw [opens]
      exact mentioned
  | memoryConfig | unplaced => cases mentioned

/-- What is held for a value that an instruction mentions is the handle of its root, in the
table that the role is for. -/
theorem Instruction.Filled.handle?_of_holds {entry : OperationEntry} {role : Role}
    {reference : Reference} (filled : instruction.Filled m interner function entry)
    (member : instruction ∈ function.body) (held : instruction.Holds m entry role reference handle)
    (mentioned : value ∈ reference.values) :
    value ∈ function.definedValues ∧
      interner.handle? role.table (.value (function.root value)) = some handle := by
  obtain ⟨fits, found⟩ := filled.handleIn held
  exact ⟨mem_definedValues_of_fits wellFormed member fits mentioned,
    handle?_of_fits wellFormed member fits found mentioned⟩

variable (filled : function.Filled m interner program)

include filled

/-- The handle that a program holds for a tensor is the one of its root. -/
theorem handle?_of_holdsTensor (held : function.HoldsTensor m program value handle) :
    value ∈ function.definedValues ∧
      interner.handle? .tensors (.value (function.root value)) = some handle := by
  cases held with
  | input given =>
      have argument := (List.mem_filter.mp (List.of_mem_zip given).1).1
      rw [root_argument wellFormed argument]
      exact ⟨List.mem_append_left _ argument, List.forall₂_zip filled.inputs given⟩
  | output returned =>
      exact ⟨wellFormed.returned value (List.of_mem_zip returned).1,
        List.forall₂_zip filled.outputs returned⟩
  | slot executed held isTensor mentioned =>
      rw [← isTensor]
      exact (List.forall₂_zip filled.operations executed).handle?_of_holds wellFormed
        (List.of_mem_zip executed).1 held mentioned

/-- The handle that a program holds for a device is the one of its root. -/
theorem handle?_of_holdsDevice (held : function.HoldsDevice m program value handle) :
    value ∈ function.definedValues ∧
      interner.handle? .devices (.value (function.root value)) = some handle := by
  rcases held with ⟨instruction, entry, role, reference, executed, held, isDevice, mentioned⟩
  rw [← isDevice]
  exact (List.forall₂_zip filled.operations executed).handle?_of_holds wellFormed
    (List.of_mem_zip executed).1 held mentioned

end

/-! ## Decoded artifacts -/

/-- What is read back from the frame of a module: the finished tables, in which every
handle is exact, and programs that are filled from them. -/
theorem Module.WellFormed.decoded {m : Module} {options : LoweringOptions} {buffer : Bytes}
    (wellFormed : m.WellFormed) (lowered : m.lower options = .ok buffer) :
    ∃ binary, Binary.ofFrame buffer = .ok binary ∧
      binary.objects = some (m.interner options).objects ∧
      (∀ table, ((m.interner options).objects.records table).length < UInt32.size) ∧
      List.Forall₂ (Function.Filled m (m.interner options)) m.functions binary.programs := by
  rcases Module.lower_eq_ok_iff.mp lowered with ⟨binary, built, framed, verified⟩
  rcases Module.binary_eq_ok_iff.mp built with ⟨programs, system, linked, _, binary_eq⟩
  have stored : binary.objects = some (m.interner options).objects := by rw [binary_eq]
  have decoded := ofFrame_of_verified framed verified
  refine ⟨binary.normalized, decoded, stored, length_records_lt framed stored, ?_⟩
  have programs_eq : binary.programs = programs := by rw [binary_eq]
  rw [Binary.normalized, programs_eq]
  exact List.forall₂_map_right_iff.mpr
    ((wellFormed.linked linked).imp fun _ _ each => each.filled)

/-! ## An example -/

/-- What is read back from the artifact of a module can be computed without computing a
digest. -/
theorem Module.exists_decoded_of_accepted {m : Module} {options : LoweringOptions}
    {P : Binary → Prop}
    (accepted : ∃ binary, binary ∈ (m.binary options).toOption ∧
      (headerBytes - lengthBytes + (Wire.Message.encode binary).length < UInt32.size ∧
        () ∈ binary.verify.toOption) ∧ P binary.normalized) :
    ∃ buffer binary, m.lower options = .ok buffer ∧ Binary.ofFrame buffer = .ok binary ∧
      P binary := by
  rcases accepted with ⟨binary, found, ⟨fits, passes⟩, holds⟩
  have framed := toFrame_eq_ok_iff.mpr ⟨fits, rfl⟩
  have verified := mem_toOption_iff.mp passes
  exact ⟨_, binary.normalized,
    Module.lower_eq_ok_iff.mpr ⟨binary, mem_toOption_iff.mp found, framed, verified⟩,
    ofFrame_of_verified framed verified, holds⟩

/-- Whether a module is lowered can be computed without computing a digest. -/
theorem Module.exists_lower_of_accepted {m : Module} {options : LoweringOptions}
    (accepted : ∃ binary, binary ∈ (m.binary options).toOption ∧
      (headerBytes - lengthBytes + (Wire.Message.encode binary).length < UInt32.size ∧
        () ∈ binary.verify.toOption)) : ∃ buffer, m.lower options = .ok buffer := by
  rcases accepted with ⟨binary, found, passes⟩
  obtain ⟨buffer, _, lowered, _⟩ :=
    Module.exists_decoded_of_accepted (P := fun _ => True) ⟨binary, found, passes, trivial⟩
  exact ⟨buffer, lowered⟩

/-- A draft of a function that copies a tensor to a device and writes its absolute values
into the copy. -/
def copyAbsDraft (m : Module) : Draft :=
  let tensor : ValueType := .tensor
    { shape := [32]
      dataType := .float32
      placement :=
        { grid := ⟨1, 1⟩
          region := { shape := [32], element := .scalar .float32, buffer := .dram }
          banks := some .interleaved } }
  let (input, draft) := { module := m, name := "copy_abs" : Draft }.argument tensor
  let (device, draft) := draft.argument (.device { chips := [0], mesh := [1] })
  let (copy, draft) := draft.value tensor
  let (result, draft) := draft.value tensor
  let memoryConfig := some { banks := .interleaved, buffer := .dram }
  let draft := draft.append
    { operation := .toDevice { input, device, memoryConfig, result := copy } }
  draft.append { operation := .elementwise (.into .abs [input] copy result) }

theorem from_copyAbsDraft (m : Module) : (copyAbsDraft m).From m :=
  .append (.append (.value (.value (.argument (.argument (.start _) _) _) _) _) _) _

/-- The module of this function, which returns its result, for some system. -/
def copyAbs (system : System) : Module :=
  let target : Target := { workers := { rows := 1, columns := 1 }, chips := [0], mesh := [1] }
  ((copyAbsDraft { system, target }).finish [⟨3⟩]).1

theorem built_copyAbs (system : System) : (copyAbs system).Built :=
  .finish (.empty _ _) (from_copyAbsDraft _) _

theorem names_copyAbs (system : System) :
    (copyAbs system).functions.map Function.name = ["copy_abs"] := rfl

theorem exists_lower_copyAbs : ∃ buffer, (copyAbs .single).lower {} = .ok buffer :=
  Module.exists_lower_of_accepted (by decide +kernel)

/-- A draft of a function that returns its argument. -/
def passDraft (m : Module) : Draft :=
  let tensor : ValueType := .tensor
    { shape := [32]
      dataType := .float32
      placement :=
        { grid := ⟨1, 1⟩
          region := { shape := [32], element := .scalar .float32, buffer := .dram }
          banks := some .interleaved } }
  ({ module := m, name := "pass" : Draft }.argument tensor).2

theorem from_passDraft (m : Module) : (passDraft m).From m :=
  .argument (.start _) _

/-- The module of both functions, for some system. -/
def copyAbsAndPass (system : System) : Module :=
  ((passDraft (copyAbs system)).finish [⟨4⟩]).1

theorem built_copyAbsAndPass (system : System) : (copyAbsAndPass system).Built :=
  .finish (built_copyAbs system) (from_passDraft _) _

theorem names_copyAbsAndPass (system : System) :
    (copyAbsAndPass system).functions.map Function.name = ["copy_abs", "pass"] := rfl

theorem exists_lower_copyAbsAndPass : ∃ buffer, (copyAbsAndPass .single).lower {} = .ok buffer :=
  Module.exists_lower_of_accepted (by decide +kernel)

end Tilework
