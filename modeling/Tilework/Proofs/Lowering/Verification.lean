import Tilework.Proofs.Artifact.Checks
import Tilework.Proofs.Lowering.Errors
import Tilework.Proofs.Lowering.Handles

/-!
# Verification of lowered modules

Lowering emits handles of rows that exist, sets all fields that are mandatory and
numbers members of enumerations only.  The one thing that it copies unseen are the
chip indices of the system, so the artifact of a module passes verification exactly
when these are in range.
-/

namespace Tilework

open Artifact Interner

/-! ## Attributes -/

section

variable {m : Module}

theorem hold_cutLast {type : TensorType} {distribution : Distribution}
    (cut : type.cutLast = .ok distribution) : Check.Hold distribution.checks := by
  simp only [TensorType.cutLast] at cut
  split at cut
  · cases cut
  · cases cut
    exact Check.hold_nil

theorem hold_distribution {type : TensorType} {mesh : List Int64} {distribution : Distribution}
    (chosen : type.distribution mesh = .ok distribution) : Check.Hold distribution.checks := by
  rw [TensorType.distribution.eq_def] at chosen
  split at chosen
  · exact hold_cutLast chosen
  · split at chosen
    · exact hold_cutLast chosen
    · rcases bind_eq_ok_iff.mp chosen with ⟨y, _, rest⟩
      rcases bind_eq_ok_iff.mp rest with ⟨x, _, rest⟩
      cases rest
      simp [Distribution.checks]
  · cases chosen

theorem hold_strategyChecks {name : String} {type : TensorType} {device : Option DeviceType}
    {strategy : Strategy} {shards : UInt32}
    (chosen : type.strategy device = .ok (strategy, shards)) :
    Check.Hold (strategyChecks name (some strategy)) := by
  have distributed : ∀ distribution, strategy.distribution = some distribution →
      Check.Hold distribution.checks := by
    intro distribution given
    cases device with
    | none =>
        cases chosen
        cases given
    | some device =>
        rcases bind_eq_ok_iff.mp chosen with ⟨volume, _, rest⟩
        rcases bind_eq_ok_iff.mp rest with ⟨count, _, rest⟩
        split at rest
        · cases rest
          cases given
        · rcases bind_eq_ok_iff.mp rest with ⟨cut, found, rest⟩
          cases rest
          cases given
          exact hold_distribution found
  simp only [strategyChecks, Check.hold_cons, Check.run_field_some, true_and, Option.toList_some,
    Check.hold_flatMap, List.mem_singleton, forall_eq, Option.mem_toList]
  exact distributed

theorem hold_creationStrategy {name : String} {device : Option ValueId} {result : ValueId}
    {strategy : Strategy} {shards : UInt32}
    (chosen : Operation.creationStrategy m device result = .ok (strategy, shards)) :
    Check.Hold (strategyChecks name (some strategy)) := by
  rcases bind_eq_ok_iff.mp chosen with ⟨deviceType, _, rest⟩
  rcases bind_eq_ok_iff.mp rest with ⟨type, _, rest⟩
  exact hold_strategyChecks rest

/-- The attributes of an encoded operation are in order. -/
theorem hold_attributeChecks {operation : Operation} {record : OperationRecord Reference}
    (encoded : operation.record m = .ok record) : Check.Hold record.attributeChecks := by
  cases operation with
  | unregistered op => cases encoded
  | getDevice op =>
      rcases map_eq_ok_iff.mp encoded with ⟨inner, found, rfl⟩
      rcases bind_eq_ok_iff.mp found with ⟨type, _, rest⟩
      rcases bind_eq_ok_iff.mp rest with ⟨mesh, _, rest⟩
      cases rest
      simp [OperationRecord.attributeChecks]
  | empty op =>
      rcases map_eq_ok_iff.mp encoded with ⟨inner, found, rfl⟩
      rcases bind_eq_ok_iff.mp found with ⟨⟨strategy, shards⟩, chosen, rest⟩
      cases rest
      simp [OperationRecord.attributeChecks, hold_creationStrategy chosen]
  | full op =>
      rcases map_eq_ok_iff.mp encoded with ⟨inner, found, rfl⟩
      rcases bind_eq_ok_iff.mp found with ⟨⟨strategy, shards⟩, chosen, rest⟩
      cases rest
      exact hold_creationStrategy chosen
  | meshShard op =>
      rcases map_eq_ok_iff.mp encoded with ⟨inner, found, rfl⟩
      simp only [Operation.MeshShard.record] at found
      split at found
      · cases found
        simp [OperationRecord.attributeChecks]
      · cases found
  | _ op =>
      cases encoded
      simp [OperationRecord.attributeChecks, Operation.Conversion.record,
        Operation.ConstantFill.record]

end

/-! ## Programs -/

section

variable {m : Module} {interner : Interner} {function : Function}

/-- A handle that is held in a slot is the one of a row of the slot's table. -/
theorem exists_key_of_handleIn {operation : Operation} {role : Role} {reference : Reference}
    {root : ValueId → ValueId} {handle : Handle} (fits : reference.Fits operation role)
    (found : reference.handleIn interner root = some handle) :
    ∃ key, interner.handle? role.table key = some handle := by
  cases fits with
  | unplaced => cases found
  | _ => exact ⟨_, found⟩

/-- The record of a linked operation is in order. -/
theorem hold_operation {instruction : Instruction} {entry : OperationEntry}
    (linked : instruction.Linked m interner function entry) :
    Check.Hold (entry.checks interner.objects) := by
  obtain ⟨record, replaced, encoded, found, stored⟩ := linked.record
  have attributes := hold_attributeChecks encoded
  rw [← OperationRecord.attributeChecks_of_mapM found] at attributes
  have slots : Check.Hold (replaced.slotChecks interner.objects) := by
    rw [OperationRecord.slotChecks, Check.hold_map]
    intro slot member
    obtain ⟨other, pair, sameRole, reads⟩ :=
      exists_mem_zip_right (OperationRecord.slots_of_mapM found) member
    have fits := Operation.fits_of_record encoded other (List.of_mem_zip pair).1
    obtain ⟨key, inside⟩ := exists_key_of_handleIn fits reads
    rw [sameRole] at inside
    exact Check.run_handle (handle?_lt inside)
  have whole : Check.Hold (replaced.checks interner.objects) := by
    intro check member
    rcases OperationRecord.mem_checks_iff.mp member with member | member
    · exact slots check member
    · exact attributes check member
  simpa [OperationEntry.checks, stored] using whole

/-- The program of a linked function is in order. -/
theorem hold_program {program : Program} (linked : function.Linked m interner program) :
    Check.Hold (program.checks interner.objects) := by
  have tensors : ∀ handle ∈ program.inputs ++ program.outputs,
      (Check.handle interner.objects .tensors handle).run = .ok () := by
    intro handle member
    rcases List.mem_append.mp member with member | member
    · obtain ⟨value, _, found⟩ := exists_mem_zip_right linked.inputs member
      exact Check.run_handle (handle?_lt found)
    · obtain ⟨value, _, found⟩ := exists_mem_zip_right linked.outputs member
      exact Check.run_handle (handle?_lt found)
  have operations : ∀ entry ∈ program.operations, Check.Hold (entry.checks interner.objects) := by
    intro entry member
    obtain ⟨instruction, _, each⟩ := exists_mem_zip_right linked.operations member
    exact hold_operation each
  simp only [Program.checks, tensorChecks, Check.hold_append, Check.hold_cons, Check.hold_map,
    Check.hold_flatMap]
  exact ⟨tensors, Check.run_handle (handle?_lt linked.debugInfo), operations⟩

end

/-! ## Tables -/

section

variable {m : Module} {options : LoweringOptions} {interner : Interner}

theorem hold_coreRanges {grid : CoreGrid} {workers : WorkerGrid} {cores : List CoreRange}
    (ranges : grid.coreRanges workers = .ok cores) :
    ∀ range ∈ cores, Check.Hold range.checks := by
  intro range member
  rw [CoreGrid.coreRanges] at ranges
  split at ranges
  · cases ranges
  · obtain ⟨rectangle, _, described⟩ := exists_mem_zip_right (mapM_eq_ok_iff.mp ranges) member
    rcases bind_eq_ok_iff.mp described with ⟨y, _, rest⟩
    rcases bind_eq_ok_iff.mp rest with ⟨x, _, rest⟩
    rcases bind_eq_ok_iff.mp rest with ⟨rows, _, rest⟩
    rcases bind_eq_ok_iff.mp rest with ⟨columns, _, rest⟩
    cases rest
    simp [CoreRange.checks]

theorem hold_memory {region : MemoryRegion} {banks : Option BankLayout} {record : MemoryRecord}
    (described : region.record banks = .ok record) : Check.Hold record.checks := by
  rcases bind_eq_ok_iff.mp described with ⟨⟨tileShape, elementBytes⟩, _, rest⟩
  rcases bind_eq_ok_iff.mp rest with ⟨bytes, _, rest⟩
  rcases bind_eq_ok_iff.mp rest with ⟨shape, _, rest⟩
  rcases bind_eq_ok_iff.mp rest with ⟨space, _, rest⟩
  cases rest
  simp [MemoryRecord.checks]

theorem hold_debug (options : LoweringOptions) (source : String) :
    Check.Hold (options.debugRecord source).checks := by
  simp [DebugRecord.checks, LoweringOptions.debugRecord, GoldenEntry.checks, GoldenTensor.record]

/-- The rows of sound tables are in order. -/
theorem Interner.Sound.hold_tables (sound : interner.Sound m options) :
    Check.Hold interner.objects.checks := by
  have each (table : Table) {record : table.Record}
      (member : record ∈ interner.objects.records table) :
      ∃ key, Describes m options interner table key record := by
    rw [records_objects, Rows.records] at member
    rcases List.mem_map.mp member with ⟨row, inside, rfl⟩
    exact ⟨row.1, sound.describes table row (List.mem_reverse.mp inside)⟩
  simp only [ObjectTables.checks, Check.hold_append, Check.hold_flatMap]
  refine ⟨⟨⟨⟨?_, ?_⟩, ?_⟩, ?_⟩, ?_⟩
  · intro tensor member
    obtain ⟨key, value, type, _, _, shape, layout, _, placed, _, _, description⟩ :=
      each .tensors member
    simp [TensorRecord.checks, description, Check.run_handle (handle?_lt placed)]
  · intro layout member
    obtain ⟨key, place, _, cores, memory, ranges, backed, rfl⟩ := each .layouts member
    simpa [LayoutRecord.checks, Check.run_handle (handle?_lt backed)] using hold_coreRanges ranges
  · intro memory member
    obtain ⟨key, region, banks, _, described⟩ := each .memories member
    exact hold_memory described
  · intro config member
    obtain ⟨key, given, _, shard, rfl, shards⟩ := each .memoryConfigs member
    cases shard with
    | none => simp [MemoryConfigRecord.checks]
    | some handle =>
        rcases Option.map_eq_some_iff.mp shards with ⟨shape, _, found⟩
        simp [MemoryConfigRecord.checks, Check.run_handle (handle?_lt found)]
  · intro debug member
    obtain ⟨key, _, rfl⟩ := each .debugInfos member
    exact hold_debug options m.text

end

/-! ## Systems -/

section

variable {system : System} {record : SystemRecord}

theorem hold_chip {chip : Chip} {record : ChipRecord} (described : chip.record = .ok record) :
    Check.Hold record.checks := by
  rcases bind_eq_ok_iff.mp described with ⟨grid, _, rest⟩
  rcases bind_eq_ok_iff.mp rest with ⟨tileSizes, _, rest⟩
  cases rest
  simp [ChipRecord.checks]

theorem length_chips (described : system.record = .ok record) :
    record.chips.length = system.chips.length := by
  rcases bind_eq_ok_iff.mp described with ⟨chips, found, rest⟩
  rcases bind_eq_ok_iff.mp rest with ⟨links, _, rest⟩
  cases rest
  exact (mapM_eq_ok_iff.mp found).length_eq.symm

/-- What is asked of a chip index in a system with some number of chips. -/
def chipIndexCheck (length : Nat) (index : UInt32) : Check :=
  .isWithin "chip_descs" index length

/-- The conditions on a system hold for its chips, which leaves those on its chip
indices. -/
theorem checks_system (described : system.record = .ok record) :
    ∃ chips, Check.Hold chips ∧
      record.checks = chips ++ system.chipIndices.map (chipIndexCheck system.chips.length) := by
  rcases bind_eq_ok_iff.mp described with ⟨chips, found, rest⟩
  rcases bind_eq_ok_iff.mp rest with ⟨links, _, rest⟩
  cases rest
  have each := mapM_eq_ok_iff.mp found
  refine ⟨chips.flatMap ChipRecord.checks, ?_, ?_⟩
  · rw [Check.hold_flatMap]
    intro chip member
    obtain ⟨source, _, described⟩ := exists_mem_zip_right each member
    exact hold_chip described
  · rw [SystemRecord.checks, each.length_eq]
    rfl

/-- Chip indices fail at the first one that is out of range. -/
theorem forM_chipIndexCheck_eq_error_iff {indices : List UInt32} {length : Nat}
    {error : ArtifactError} :
    (indices.map (chipIndexCheck length)).forM Check.run = .error error ↔
      ∃ earlier index later, indices = earlier ++ index :: later ∧
        (∀ other ∈ earlier, other.toNat < length) ∧ length ≤ index.toNat ∧
          error = .invalidHandle "chip_descs" index length := by
  simp only [List.forM_eq_forM]
  induction indices with
  | nil =>
      constructor
      · nofun
      · rintro ⟨earlier, index, later, split, _⟩
        cases earlier <;> cases split
  | cons first indices ih =>
      rw [List.map_cons, List.forM_cons, chipIndexCheck, Check.run]
      by_cases inside : first.toNat < length
      · rw [if_pos inside]
        refine Iff.trans ih ⟨?_, ?_⟩
        · rintro ⟨earlier, index, later, rfl, before, outside, same⟩
          exact ⟨first :: earlier, index, later, rfl, List.forall_mem_cons.mpr ⟨inside, before⟩,
            outside, same⟩
        · rintro ⟨earlier, index, later, split, before, outside, same⟩
          cases earlier with
          | nil =>
              cases split
              omega
          | cons other earlier =>
              obtain ⟨rfl, rfl⟩ := List.cons.inj split
              exact ⟨earlier, index, later, rfl, (List.forall_mem_cons.mp before).2, outside, same⟩
      · rw [if_neg inside]
        constructor
        · intro failed
          cases failed
          exact ⟨[], first, indices, rfl, nofun, Nat.le_of_not_lt inside, rfl⟩
        · rintro ⟨earlier, index, later, split, before, outside, rfl⟩
          cases earlier with
          | nil =>
              cases split
              rfl
          | cons other earlier =>
              obtain ⟨rfl, rfl⟩ := List.cons.inj split
              exact absurd (List.forall_mem_cons.mp before).1 inside

theorem forM_chipIndexCheck_eq_ok_iff {indices : List UInt32} {length : Nat} :
    (indices.map (chipIndexCheck length)).forM Check.run = .ok () ↔
      ∀ index ∈ indices, index.toNat < length := by
  rw [forM_eq_ok_iff, List.forall_mem_map]
  simp [chipIndexCheck, Check.run]

end

/-! ## Modules -/

section

variable {m : Module} {options : LoweringOptions} {binary : Binary}

/-- Verifying the artifact of a module comes down to the chip indices of its system. -/
theorem Module.WellFormed.verify_eq (wellFormed : m.WellFormed)
    (built : m.binary options = .ok binary) :
    binary.verify =
      (m.system.chipIndices.map (chipIndexCheck m.system.chips.length)).forM Check.run := by
  rcases Module.binary_eq_ok_iff.mp built with ⟨programs, system, lowered, described, rfl⟩
  obtain ⟨chips, chipsHold, checks⟩ := checks_system described
  have each := wellFormed.linked lowered
  have tables := (m.sound_interner options).hold_tables
  have listed : ∀ program ∈ programs, Check.Hold (program.checks (m.interner options).objects) := by
    intro program member
    obtain ⟨function, _, linked⟩ := exists_mem_zip_right each member
    exact hold_program linked
  have front : Check.Hold
      (.field "Binary" "version" (some options.version) ::
        .field "Binary" "system_desc" (some system) :: chips) := by
    simpa using chipsHold
  have back : Check.Hold
      (.field "Binary" "objects" (some (m.interner options).objects) ::
        ((m.interner options).objects.checks ++
          programs.flatMap (Program.checks (m.interner options).objects))) := by
    simp only [Check.hold_cons, Check.run_field_some, Check.hold_append, Check.hold_flatMap]
    exact ⟨trivial, tables, listed⟩
  rw [← Check.forM_append_hold _ back, ← Check.forM_append_of_hold front, Binary.verify]
  congr 1
  simp [Binary.checks, checks]

/-- Past the frame, lowering fails exactly when verification does. -/
theorem Module.lower_eq_verification_error_iff {error : ArtifactError}
    (fits : ∀ binary, m.binary options = .ok binary →
      headerBytes - lengthBytes + (Wire.Message.encode binary).length < UInt32.size) :
    m.lower options = .error (.verification error) ↔
      ∃ binary, m.binary options = .ok binary ∧ binary.verify = .error error := by
  constructor
  · intro failed
    rcases bind_eq_error_iff.mp failed with early | ⟨binary, built, failed⟩
    · exact absurd rfl (rejects_binary options _ early error)
    · have framed := toFrame_eq_ok_iff.mpr ⟨fits binary built, rfl⟩
      rcases bind_eq_error_iff.mp failed with large | ⟨buffer, toFrame, failed⟩
      · rw [framed] at large
        cases large
      · rw [mapError_eq_ok_iff] at toFrame
        rcases bind_eq_error_iff.mp failed with rejected | ⟨decoded, _, returned⟩
        · rcases mapError_eq_error_iff.mp rejected with ⟨inner, rejected, same⟩
          cases same
          rw [ofFrame_toFrame toFrame, map_eq_error_iff] at rejected
          exact ⟨binary, built, rejected⟩
        · cases returned
  · rintro ⟨binary, built, rejected⟩
    have framed := toFrame_eq_ok_iff.mpr ⟨fits binary built, rfl⟩
    refine bind_eq_error_iff.mpr (Or.inr ⟨binary, built, ?_⟩)
    refine bind_eq_error_iff.mpr (Or.inr ⟨_, mapError_eq_ok_iff.mpr framed, ?_⟩)
    refine bind_eq_error_iff.mpr (Or.inl (mapError_eq_error_iff.mpr ⟨error, ?_, rfl⟩))
    rw [ofFrame_toFrame framed, rejected]
    rfl

/-- A module whose artifact can be framed fails verification only for a chip index that
is out of range, and otherwise its frame is returned and can be read back. -/
theorem Module.Built.verification_error_iff (built : m.Built)
    (fits : ∀ binary, m.binary options = .ok binary →
      headerBytes - lengthBytes + (Wire.Message.encode binary).length < UInt32.size) :
    (∀ error, m.lower options = .error (.verification error) ↔
      ∃ programs system, ((m.lowerFunctions options).run {}).1 = .ok programs ∧
        m.system.record = .ok system ∧
        ∃ earlier index later, m.system.chipIndices = earlier ++ index :: later ∧
          (∀ other ∈ earlier, other.toNat < system.chips.length) ∧
          system.chips.length ≤ index.toNat ∧
          error = .invalidHandle "chip_descs" index system.chips.length) ∧
    ∀ programs system, ((m.lowerFunctions options).run {}).1 = .ok programs →
      m.system.record = .ok system →
      (∀ index ∈ m.system.chipIndices, index.toNat < system.chips.length) →
        ∃ binary buffer, m.binary options = .ok binary ∧ binary.toFrame = .ok buffer ∧
          Binary.ofFrame buffer = .ok binary.normalized ∧ m.lower options = .ok buffer := by
  constructor
  · intro error
    rw [Module.lower_eq_verification_error_iff fits]
    constructor
    · rintro ⟨binary, lowered, rejected⟩
      rw [built.wellFormed.verify_eq lowered, forM_chipIndexCheck_eq_error_iff] at rejected
      rcases Module.binary_eq_ok_iff.mp lowered with ⟨programs, system, linked, described, _⟩
      rw [← length_chips described] at rejected
      exact ⟨programs, system, linked, described, rejected⟩
    · rintro ⟨programs, system, linked, described, rejected⟩
      have lowered := Module.binary_eq_ok_iff.mpr ⟨programs, system, linked, described, rfl⟩
      refine ⟨_, lowered, ?_⟩
      rw [built.wellFormed.verify_eq lowered, forM_chipIndexCheck_eq_error_iff,
        ← length_chips described]
      exact rejected
  · intro programs system linked described inside
    have lowered := Module.binary_eq_ok_iff.mpr ⟨programs, system, linked, described, rfl⟩
    have framed := toFrame_eq_ok_iff.mpr ⟨fits _ lowered, rfl⟩
    rw [length_chips described] at inside
    have verified := (built.wellFormed.verify_eq lowered).trans
      (forM_chipIndexCheck_eq_ok_iff.mpr inside)
    refine ⟨_, _, lowered, framed, ?_, Module.lower_eq_ok_iff.mpr ⟨_, lowered, framed, verified⟩⟩
    rw [ofFrame_toFrame framed, verified]
    rfl

end

/-- A system with a single chip description, which is not what all its indices are. -/
def strayIndices : System :=
  { System.single with chipIndices := [0, 3, 7] }

theorem verification_error_copyAbs :
    (copyAbs strayIndices).Built ∧
      (∀ binary, (copyAbs strayIndices).binary {} = .ok binary →
        headerBytes - lengthBytes + (Wire.Message.encode binary).length < UInt32.size) ∧
      (copyAbs strayIndices).lower {} =
        .error (.verification (.invalidHandle "chip_descs" 3 1)) := by
  have accepted : ∃ binary, binary ∈ ((copyAbs strayIndices).binary {}).toOption ∧
      headerBytes - lengthBytes + (Wire.Message.encode binary).length < UInt32.size := by
    decide +kernel
  rcases accepted with ⟨binary, found, small⟩
  have lowered := mem_toOption_iff.mp found
  have fits : ∀ binary, (copyAbs strayIndices).binary {} = .ok binary →
      headerBytes - lengthBytes + (Wire.Message.encode binary).length < UInt32.size := by
    intro other again
    rw [lowered] at again
    cases again
    exact small
  rcases Module.binary_eq_ok_iff.mp lowered with ⟨programs, system, linked, described, _⟩
  have one : system.chips.length = 1 := length_chips described
  refine ⟨built_copyAbs _, fits, ?_⟩
  refine ((Module.Built.verification_error_iff (built_copyAbs _) fits).1 _).2 ?_
  refine ⟨programs, system, linked, described, [0], 3, [7], rfl, ?_, ?_, ?_⟩
  · simp [one]
  · simp [one]
  · rw [one]

end Tilework
