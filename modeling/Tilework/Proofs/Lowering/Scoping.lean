import Tilework.Proofs.Lowering.Buffers

/-!
# Scopes of handles

A runtime executes the records of a program one after another.  Whatever a record
reads or writes into has then been provided: as an input of the program, or by an
earlier record.  Devices are opened by earlier records or handed to the function,
and programs share neither tensors nor devices.
-/

namespace Tilework

open Artifact Interner

/-! ## Provided handles -/

namespace Artifact

/-- A tensor is an input of a program, or the result of one of some records. -/
def Program.Provides (program : Program) (entries : List OperationEntry) (handle : Handle) : Prop :=
  handle ∈ program.inputs ∨ ∃ entry ∈ entries, (Role.result, handle) ∈ entry.slots

/-- All handles of a program that refer to a table. -/
def Program.handles (program : Program) (table : Table) : List Handle :=
  (if table = .tensors then program.inputs ++ program.outputs else []) ++
    (program.operations.flatMap OperationEntry.slots).filterMap fun slot =>
      if slot.1.table = table then some slot.2 else none

end Artifact

/-- In a program whose tables are finished, whatever a record uses has been provided
before. -/
structure Function.Scoped (m : Module) (interner : Interner) (function : Function)
    (program : Program) : Prop where
  name : program.name = function.name
  operations : program.operations.length = function.body.length
  /-- What a record reads is an input or an earlier result. -/
  read : ∀ position entry, program.operations[position]? = some entry →
    ∀ handle, (Role.tensor, handle) ∈ entry.slots →
      program.Provides (program.operations.take position) handle
  /-- So is what an operation with a destination writes into. -/
  written : ∀ position entry instruction, program.operations[position]? = some entry →
    function.body[position]? = some instruction →
      instruction.operation.destination.isSome = true →
        ∀ handle, (Role.result, handle) ∈ entry.slots →
          program.Provides (program.operations.take position) handle
  outputs : ∀ handle ∈ program.outputs, program.Provides program.operations handle
  /-- A device that a record uses is opened by an earlier record, or it is an argument of
  the function. -/
  device : ∀ position entry, program.operations[position]? = some entry →
    ∀ handle, (Role.device, handle) ∈ entry.slots →
      (∃ other ∈ program.operations.take position, ∃ op,
        other.record = some (.getDevice op) ∧ op.out = handle) ∨
      ∃ argument ∈ function.arguments, (∃ type, m.deviceType argument = .ok type) ∧
        interner.handle? .devices (.value argument) = some handle

/-! ## Slots and what defines them -/

theorem exists_getElem?_of_forall₂ {α β : Type} {R : α → β → Prop} {values : List α}
    {others : List β} (each : List.Forall₂ R values others) {position : Nat} {other : β}
    (at_position : others[position]? = some other) :
    ∃ value, values[position]? = some value ∧ R value other := by
  induction each generalizing position with
  | nil => cases at_position
  | cons first later ih =>
      cases position with
      | zero =>
          cases at_position
          exact ⟨_, rfl, first⟩
      | succ position => exact ih at_position

/-- Only a record that opens a device has a slot for it. -/
theorem getDevice_of_opened {record : OperationRecord Handle} {handle : Handle}
    (opened : (Role.opened, handle) ∈ record.slots) :
    ∃ op, record = .getDevice op ∧ op.out = handle := by
  cases record with
  | getDevice op =>
      simp only [OperationRecord.slots, OperationRecord.slotsFor, List.map_cons, List.map_nil,
        List.mem_singleton, Prod.mk.injEq, true_and] at opened
      exact ⟨op, rfl, opened.symm⟩
  | _ => simp [OperationRecord.slots, OperationRecord.slotsFor] at opened

section

variable {m : Module} {options : LoweringOptions} {interner : Interner} {function : Function}
  {program : Program} {instruction : Instruction} {entry : OperationEntry} {value : ValueId}
  {handle : Handle}

/-- Every slot is held for a reference. -/
theorem Instruction.Filled.exists_reference {role : Role}
    (filled : instruction.Filled m interner function entry) (slot : (role, handle) ∈ entry.slots) :
    ∃ reference, instruction.Holds m entry role reference handle := by
  rcases filled with ⟨record, linked, encoded, stored, each⟩
  simp only [OperationEntry.slots, stored, Option.toList_some, List.flatMap_cons,
    List.flatMap_nil, List.append_nil] at slot
  obtain ⟨⟨other, reference⟩, pair, same, _⟩ := exists_mem_zip_right each slot
  cases same
  exact ⟨reference, record, linked, encoded, stored, pair⟩

theorem Instruction.Holds.mem_slots {role : Role} {reference : Reference}
    (held : instruction.Holds m entry role reference handle) : (role, handle) ∈ entry.slots := by
  rcases held with ⟨record, linked, _, stored, slot⟩
  simp only [OperationEntry.slots, stored, Option.toList_some, List.flatMap_cons,
    List.flatMap_nil, List.append_nil]
  exact (List.of_mem_zip slot).2

/-- What a slot of a record is held for fits the instruction at the same position. -/
theorem Function.Filled.exists_fits (filled : function.Filled m interner program) {position : Nat}
    {role : Role} (at_position : program.operations[position]? = some entry)
    (slot : (role, handle) ∈ entry.slots) :
    ∃ instruction reference, function.body[position]? = some instruction ∧
      Reference.Fits instruction.operation role reference ∧
        reference.handleIn interner function.root = some handle := by
  obtain ⟨instruction, at_same, filledEntry⟩ :=
    exists_getElem?_of_forall₂ filled.operations at_position
  obtain ⟨reference, held⟩ := filledEntry.exists_reference slot
  obtain ⟨fits, found⟩ := filledEntry.handleIn held
  exact ⟨instruction, reference, at_same, fits, found⟩

variable (wellFormed : function.WellFormed m) (sound : interner.Sound m options)
  (small : ∀ table, (interner.objects.records table).length < UInt32.size)

include wellFormed

/-- A slot that mentions a result of its own operation is the one that defines it. -/
theorem defines_of_fits {role : Role} {reference : Reference}
    (member : instruction ∈ function.body) (fits : reference.Fits instruction.operation role)
    (mentioned : value ∈ reference.values) (defines : value ∈ instruction.operation.results) :
    role = .result ∨ role = .opened := by
  cases fits with
  | tensor read | device read =>
      obtain ⟨earlier, later, split⟩ := List.append_of_mem member
      have used : value ∈ instruction.operation.operands := by
        rw [List.mem_singleton.mp mentioned]
        exact List.mem_append_left _ read
      exact absurd (wellFormed.ordered earlier instruction later split value used)
        (not_known_of_result wellFormed split defines)
  | memoryConfig | unplaced => cases mentioned
  | allocated | written => exact Or.inl rfl
  | opened => exact Or.inr rfl

/-- What an instruction uses is known from the instructions before it. -/
theorem known_of_operand {position : Nat}
    (at_position : function.body[position]? = some instruction)
    (used : value ∈ instruction.operation.operands) :
    function.body = function.body.take position ++ function.body.drop position ∧
      value ∈ function.arguments ++ resultsOf (function.body.take position) := by
  refine ⟨(List.take_append_drop position function.body).symm, ?_⟩
  rcases List.getElem?_eq_some_iff.mp at_position with ⟨inside, rfl⟩
  have split : function.body = function.body.take position ++
      function.body[position] :: function.body.drop (position + 1) := by
    rw [List.getElem_cons_drop, List.take_append_drop]
  exact wellFormed.ordered _ _ _ split value used

include sound

/-- The root of a known value is an argument, or some record so far defines it. -/
theorem exists_definition {earlier later : List Instruction} {entries : List OperationEntry}
    (split : function.body = earlier ++ later)
    (each : List.Forall₂ (Instruction.Filled m interner function) earlier entries)
    (known : value ∈ function.arguments ++ resultsOf earlier) {role : Role}
    (found : interner.handle? role.table (.value (function.root value)) = some handle) :
    function.root value ∈ function.arguments ∨
      ∃ entry ∈ entries, ∃ definer, definer.table = role.table ∧
        (definer = .result ∨ definer = .opened) ∧ (definer, handle) ∈ entry.slots := by
  obtain ⟨inside, _, own⟩ := root_among_known wellFormed split known
  rcases List.mem_append.mp inside with argument | result
  · exact Or.inl argument
  · rcases List.mem_flatMap.mp result with ⟨instruction, within, defines⟩
    have member : instruction ∈ function.body := by
      rw [split]
      exact List.mem_append_left _ within
    obtain ⟨entry, pair, filled⟩ := exists_mem_zip each within
    obtain ⟨definer, reference, other, held, mentioned⟩ :=
      filled.exists_holds (List.mem_append_right _ defines)
    obtain ⟨defined, otherFound⟩ := filled.handle?_of_holds wellFormed member held mentioned
    rw [own] at otherFound
    obtain ⟨type, typed⟩ := wellFormed.typed _ defined
    have sort : definer.table = role.table :=
      (sound.table_eq otherFound typed).trans (sound.table_eq found typed).symm
    rw [sort, found] at otherFound
    cases otherFound
    exact Or.inr ⟨entry, (List.of_mem_zip pair).2, definer, sort,
      defines_of_fits wellFormed member (filled.handleIn held).1 mentioned defines,
      held.mem_slots⟩

include small

/-- A tensor that is known is provided by the records so far. -/
theorem provides_of_known {earlier later : List Instruction} {entries : List OperationEntry}
    (filled : function.Filled m interner program) (split : function.body = earlier ++ later)
    (each : List.Forall₂ (Instruction.Filled m interner function) earlier entries)
    (known : value ∈ function.arguments ++ resultsOf earlier)
    (found : interner.handle? .tensors (.value (function.root value)) = some handle) :
    program.Provides entries handle := by
  have foundFor : interner.handle? Role.tensor.table (.value (function.root value)) = some handle :=
    found
  rcases exists_definition wellFormed sound split each known foundFor with
    argument | ⟨entry, member, definer, sort, defining, slot⟩
  · obtain ⟨type, typed, _⟩ := sound.describesTensor small found
    have isTensor := Module.isTensor_iff.mpr ⟨type, typed⟩
    obtain ⟨other, pair, otherFound⟩ :=
      exists_mem_zip filled.inputs (List.mem_filter.mpr ⟨argument, isTensor⟩)
    rw [found] at otherFound
    cases otherFound
    exact Or.inl (List.of_mem_zip pair).2
  · rcases defining with rfl | rfl
    · exact Or.inr ⟨entry, member, slot⟩
    · cases sort

/-- A device that is known is opened by a record so far, or is an argument. -/
theorem opened_of_known {earlier later : List Instruction} {entries : List OperationEntry}
    (split : function.body = earlier ++ later)
    (each : List.Forall₂ (Instruction.Filled m interner function) earlier entries)
    (known : value ∈ function.arguments ++ resultsOf earlier)
    (found : interner.handle? .devices (.value (function.root value)) = some handle) :
    (∃ entry ∈ entries, ∃ op, entry.record = some (.getDevice op) ∧ op.out = handle) ∨
      ∃ argument ∈ function.arguments, (∃ type, m.deviceType argument = .ok type) ∧
        interner.handle? .devices (.value argument) = some handle := by
  have foundFor : interner.handle? Role.device.table (.value (function.root value)) = some handle :=
    found
  rcases exists_definition wellFormed sound split each known foundFor with
    argument | ⟨entry, member, definer, sort, defining, slot⟩
  · obtain ⟨type, typed, _⟩ := sound.describesDevice small found
    exact Or.inr ⟨function.root value, argument, ⟨type, typed⟩, found⟩
  · rcases defining with rfl | rfl
    · cases sort
    · rcases List.mem_flatMap.mp slot with ⟨record, stored, opened⟩
      obtain ⟨op, rfl, out⟩ := getDevice_of_opened opened
      exact Or.inl ⟨entry, member, op, Option.mem_toList.mp stored, out⟩

/-- Programs that are filled from finished tables respect the scopes of handles. -/
theorem Function.Filled.scoped (filled : function.Filled m interner program) :
    function.Scoped m interner program := by
  have before (position : Nat) : List.Forall₂ (Instruction.Filled m interner function)
      (function.body.take position) (program.operations.take position) :=
    List.forall₂_take position filled.operations
  have provides {position : Nat} {instruction : Instruction} {value : ValueId} {handle : Handle}
      (at_position : function.body[position]? = some instruction)
      (used : value ∈ instruction.operation.operands)
      (found : interner.handle? .tensors (.value (function.root value)) = some handle) :
      program.Provides (program.operations.take position) handle := by
    obtain ⟨split, known⟩ := known_of_operand wellFormed at_position used
    exact provides_of_known wellFormed sound small filled split (before position) known found
  constructor
  · exact filled.name
  · exact filled.operations.length_eq.symm
  · intro position entry at_position handle slot
    obtain ⟨instruction, reference, at_same, fits, found⟩ := filled.exists_fits at_position slot
    cases fits with
    | tensor read => exact provides at_same (List.mem_append_left _ read) found
  · intro position entry instruction at_position at_same hasDestination handle slot
    obtain ⟨other, reference, at_other, fits, found⟩ := filled.exists_fits at_position slot
    rw [at_same] at at_other
    cases at_other
    cases fits with
    | allocated placed => simp [placed] at hasDestination
    | unplaced => cases found
    | @written output result given defines =>
        have member := List.mem_of_getElem? at_same
        have shared : function.root result = function.root output :=
          root_of_destination wellFormed member given (by simp [defines])
        rw [Reference.handleIn, shared] at found
        exact provides at_same (Operation.destination_mem given) found
  · intro handle member
    obtain ⟨value, pair, found⟩ := exists_mem_zip_right filled.outputs member
    have known := wellFormed.returned value (List.of_mem_zip pair).1
    exact provides_of_known wellFormed sound small filled (List.append_nil _).symm
      filled.operations known found
  · intro position entry at_position handle slot
    obtain ⟨instruction, reference, at_same, fits, found⟩ := filled.exists_fits at_position slot
    cases fits with
    | device read =>
        obtain ⟨split, known⟩ :=
          known_of_operand wellFormed at_same (List.mem_append_left _ read)
        exact opened_of_known wellFormed sound small split (before position) known found

end

/-! ## Programs next to each other -/

section

variable {m : Module} {options : LoweringOptions} {interner : Interner} {function : Function}
  {program : Program} {handle : Handle}

/-- Whatever a program holds belongs to a value that its function defines. -/
theorem Function.Filled.exists_holder (wellFormed : function.WellFormed m)
    (filled : function.Filled m interner program) {table : Table}
    (sort : table = .tensors ∨ table = .devices) (member : handle ∈ program.handles table) :
    ∃ value ∈ function.definedValues,
      interner.handle? table (.value (function.root value)) = some handle := by
  rcases List.mem_append.mp member with listed | slot
  · by_cases tensors : table = .tensors
    · rw [if_pos tensors] at listed
      rw [tensors]
      rcases List.mem_append.mp listed with input | output
      · obtain ⟨value, pair, found⟩ := exists_mem_zip_right filled.inputs input
        exact ⟨value, handle?_of_holdsTensor wellFormed filled (.input pair)⟩
      · obtain ⟨value, pair, found⟩ := exists_mem_zip_right filled.outputs output
        exact ⟨value, handle?_of_holdsTensor wellFormed filled (.output pair)⟩
    · rw [if_neg tensors] at listed
      cases listed
  · rcases List.mem_filterMap.mp slot with ⟨⟨role, other⟩, inside, chosen⟩
    by_cases same : role.table = table
    · rw [if_pos same] at chosen
      cases chosen
      rcases List.mem_flatMap.mp inside with ⟨entry, within, slot⟩
      obtain ⟨instruction, pair, filledEntry⟩ := exists_mem_zip_right filled.operations within
      obtain ⟨reference, held⟩ := filledEntry.exists_reference slot
      obtain ⟨fits, found⟩ := filledEntry.handleIn held
      have executed := (List.of_mem_zip pair).1
      have mentioned : ∃ value, value ∈ reference.values := by
        cases fits with
        | memoryConfig => rcases sort with rfl | rfl <;> cases same
        | unplaced => cases found
        | _ => exact ⟨_, List.mem_cons_self⟩
      rcases mentioned with ⟨value, mentioned⟩
      rw [← same]
      exact ⟨value, filledEntry.handle?_of_holds wellFormed executed held mentioned⟩
    · rw [if_neg same] at chosen
      cases chosen

/-- Programs of functions that define different values share no tensors or devices. -/
theorem disjoint_handles {other : Function} {otherProgram : Program}
    (small : ∀ table, (interner.objects.records table).length < UInt32.size)
    (first : function.WellFormed m ∧ function.Filled m interner program)
    (second : other.WellFormed m ∧ other.Filled m interner otherProgram)
    (separate : List.Disjoint function.definedValues other.definedValues) {table : Table}
    (sort : table = .tensors ∨ table = .devices) :
    List.Disjoint (program.handles table) (otherProgram.handles table) := by
  intro handle inFirst inSecond
  obtain ⟨value, defined, found⟩ := first.2.exists_holder first.1 sort inFirst
  obtain ⟨otherValue, otherDefined, otherFound⟩ := second.2.exists_holder second.1 sort inSecond
  have sameRoot := Key.value.inj (handle?_inj small found otherFound)
  have inside := root_mem first.1 defined
  rw [sameRoot] at inside
  exact separate inside (root_mem second.1 otherDefined)

theorem pairwise_of_forall₂ {α β : Type} {R : α → β → Prop} {S : α → α → Prop} {T : β → β → Prop}
    {values : List α} {others : List β} (each : List.Forall₂ R values others)
    (separate : values.Pairwise S)
    (related : ∀ value other laterValue laterOther, R value other → R laterValue laterOther →
      S value laterValue → T other laterOther) : others.Pairwise T := by
  induction each with
  | nil => exact .nil
  | cons first later ih =>
      rcases List.pairwise_cons.mp separate with ⟨fromFirst, rest⟩
      refine List.pairwise_cons.mpr ⟨fun other member => ?_, ih rest⟩
      obtain ⟨value, pair, holds⟩ := exists_mem_zip_right later member
      exact related _ _ _ _ first holds (fromFirst value (List.of_mem_zip pair).1)

/-- In every program of a lowered module, each record uses only what has been provided
before, and no two programs share a tensor or a device. -/
theorem Module.Built.programs_scoped {buffer : Bytes} (built : m.Built)
    (lowered : m.lower options = .ok buffer) :
    ∃ binary, Binary.ofFrame buffer = .ok binary ∧
      List.Forall₂ (Function.Scoped m (m.interner options)) m.functions binary.programs ∧
      binary.programs.Pairwise fun program other =>
        ∀ table, table = .tensors ∨ table = .devices →
          List.Disjoint (program.handles table) (other.handles table) := by
  obtain ⟨binary, decoded, _, small, filled⟩ := built.wellFormed.decoded lowered
  have sound := m.sound_interner options
  have each : List.Forall₂ (fun function program =>
      function.WellFormed m ∧ function.Filled m (m.interner options) program)
      m.functions binary.programs := by
    rw [List.forall₂_iff_zip] at filled ⊢
    refine ⟨filled.1, fun {function program} paired => ⟨?_, filled.2 paired⟩⟩
    exact built.wellFormed.function function (List.of_mem_zip paired).1
  refine ⟨binary, decoded, each.imp fun function program both => ?_, ?_⟩
  · exact both.2.scoped both.1 sound small
  · have separate := (List.nodup_flatMap.mp built.wellFormed.distinct).2
    exact pairwise_of_forall₂ each separate fun _ _ _ _ first second apart table sort =>
      disjoint_handles small first second apart sort

end

theorem programs_scoped_copyAbs :
    (copyAbs .single).functions.map Function.name = ["copy_abs"] ∧ (copyAbs .single).Built ∧
      ∃ buffer, (copyAbs .single).lower {} = .ok buffer ∧
        ∃ binary, Binary.ofFrame buffer = .ok binary ∧
          List.Forall₂ (Function.Scoped (copyAbs .single) ((copyAbs .single).interner {}))
            (copyAbs .single).functions binary.programs ∧
          binary.programs.Pairwise fun program other =>
            ∀ table, table = .tensors ∨ table = .devices →
              List.Disjoint (program.handles table) (other.handles table) := by
  rcases exists_lower_copyAbs with ⟨buffer, lowered⟩
  exact ⟨names_copyAbs _, built_copyAbs _, buffer, lowered,
    Module.Built.programs_scoped (built_copyAbs _) lowered⟩

end Tilework
