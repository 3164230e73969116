import Mathlib.Logic.Equiv.Fin.Basic
import Tilework.Proofs.Lowering.Success

/-!
# The order of functions

The order in which the functions of a module are lowered decides which row comes first in
a table, but neither whether they can be lowered nor which rows there are.  So the tables
of two orders are the same up to a renaming of their handles, and so are the programs.
Only the numbers that tensors are given by their order of creation are left aside.
-/

namespace Tilework

open Artifact Interner

/-! ## Renamings -/

namespace Artifact

/-- For each table, a bijection between the rows in two artifacts. -/
def Renaming (first second : ObjectTables) : Type :=
  ∀ table, Fin (first.records table).length ≃ Fin (second.records table).length

namespace Renaming

variable {first second : ObjectTables} (moves : Renaming first second)

/-- The handles of two rows that correspond to each other. -/
def Handles (table : Table) (handle other : Handle) : Prop :=
  ∃ index, handle = UInt32.ofNat index.val ∧ other = UInt32.ofNat (moves table index).val

/-- Two records are the same when the handles in them are renamed.  The number of a tensor
does not matter. -/
def Records : (table : Table) → table.Record → table.Record → Prop
  | .tensors, record, other =>
      record.address = other.address ∧ record.size = other.size ∧
        Option.Rel (fun description renamed => description.shape = renamed.shape ∧
            moves.Handles .layouts description.layout renamed.layout)
          record.description other.description
  | .layouts, record, other =>
      record.outOfBounds = other.outOfBounds ∧ record.cores = other.cores ∧
        moves.Handles .memories record.memory other.memory
  | .memoryConfigs, record, other =>
      record.banks = other.banks ∧ record.buffer = other.buffer ∧
        Option.Rel (moves.Handles .shards) record.shard other.shard
  | .devices, record, other => record = other
  | .memories, record, other => record = other
  | .shards, record, other => record = other
  | .debugInfos, record, other => record = other

/-- Two entries have the same texts, and their records are the same when the handles in
their slots are renamed. -/
structure Entries (entry other : OperationEntry) : Prop where
  record : Option.Rel (fun record renamed => record.erased = renamed.erased ∧
      List.Forall₂ (fun slot renamedSlot => slot.1 = renamedSlot.1 ∧
        moves.Handles slot.1.table slot.2 renamedSlot.2) record.slots renamed.slots)
    entry.record other.record
  debugText : entry.debugText = other.debugText
  locationText : entry.locationText = other.locationText

/-- Two programs are the same when all handles in them are renamed. -/
structure Programs (program other : Program) : Prop where
  name : program.name = other.name
  inputs : List.Forall₂ (moves.Handles .tensors) program.inputs other.inputs
  outputs : List.Forall₂ (moves.Handles .tensors) program.outputs other.outputs
  operations : List.Forall₂ moves.Entries program.operations other.operations
  debugInfo : program.debugInfo = other.debugInfo

end Renaming

end Artifact

/-! ## Tables with the same keys -/

namespace Rows

variable {ρ τ : Type}

/-- The keys of distinct rows are as many as their positions. -/
theorem exists_equiv {rows : Rows ρ} (distinct : rows.keys.Nodup) :
    ∃ places : { key // key ∈ rows.keys } ≃ Fin rows.length,
      ∀ key, rows.position? key.val = some (places key).val := by
  have present (key : { key // key ∈ rows.keys }) :
      ∃ position, rows.position? key.val = some position := mem_keys_iff.mp key.property
  choose position found using present
  refine ⟨Equiv.ofBijective (fun key => ⟨position key, position?_lt (found key)⟩) ⟨?_, ?_⟩, found⟩
  · intro key other same
    have samePosition : position key = position other := congrArg Fin.val same
    have foundOther := found other
    rw [← samePosition] at foundOther
    exact Subtype.ext (position?_inj (found key) foundOther)
  · intro index
    obtain ⟨key, at_index⟩ := exists_key_of_lt distinct index.isLt
    have member : key ∈ rows.keys := mem_keys_iff.mpr ⟨index.val, at_index⟩
    exact ⟨⟨key, member⟩, Fin.ext (Option.some.inj ((found ⟨key, member⟩).symm.trans at_index))⟩

/-- Rows with the same keys correspond to each other. -/
theorem exists_equiv_of_same {rows : Rows ρ} {others : Rows τ} (distinct : rows.keys.Nodup)
    (distinctOthers : others.keys.Nodup) (same : ∀ key, key ∈ rows.keys ↔ key ∈ others.keys) :
    ∃ moves : Fin rows.length ≃ Fin others.length, ∀ key index,
      rows.position? key = some index.val → others.position? key = some (moves index).val := by
  obtain ⟨places, found⟩ := exists_equiv distinct
  obtain ⟨otherPlaces, foundOther⟩ := exists_equiv distinctOthers
  refine ⟨places.symm.trans ((Equiv.subtypeEquivRight same).trans otherPlaces), ?_⟩
  intro key index at_index
  have member : key ∈ rows.keys := mem_keys_iff.mpr ⟨index.val, at_index⟩
  have placed : places.symm index = ⟨key, member⟩ := by
    rw [Equiv.symm_apply_eq]
    exact Fin.ext (Option.some.inj (at_index.symm.trans (found ⟨key, member⟩)))
  rw [Equiv.trans_apply, placed]
  exact foundOther ⟨key, (same key).mp member⟩

end Rows

namespace Artifact.Renaming

variable {m : Module} {options : LoweringOptions} {first second : Interner} {table : Table}
  {key : Key} {handle other : Handle}

/-- Rows correspond to each other when they have the same key. -/
def Follows {first second : Interner} (moves : Renaming first.objects second.objects) : Prop :=
  ∀ table key index, (first.rows table).position? key = some index.val →
    (second.rows table).position? key = some (moves table index).val

theorem exists_follows (distinct : first.Distinct) (distinctSecond : second.Distinct)
    (same : ∀ row, first.Holds row ↔ second.Holds row) :
    ∃ moves : Renaming first.objects second.objects, moves.Follows := by
  have each (table : Table) :
      ∃ moves : Fin (first.objects.records table).length ≃
          Fin (second.objects.records table).length,
        ∀ key index, (first.rows table).position? key = some index.val →
          (second.rows table).position? key = some (moves index).val := by
    rw [records_objects, records_objects, Rows.length_records, Rows.length_records]
    exact Rows.exists_equiv_of_same (distinct table) (distinctSecond table)
      fun key => same (table, key)
  choose moves follows using each
  exact ⟨moves, follows⟩

variable {moves : Renaming first.objects second.objects} (follows : moves.Follows)

include follows

theorem Follows.handles (found : first.handle? table key = some handle)
    (foundOther : second.handle? table key = some other) : moves.Handles table handle other := by
  obtain ⟨position, at_position, rfl⟩ := Option.map_eq_some_iff.mp found
  have inside : position < (first.objects.records table).length := by
    rw [records_objects, Rows.length_records]
    exact Rows.position?_lt at_position
  refine ⟨⟨position, inside⟩, rfl, ?_⟩
  have moved := follows table key ⟨position, inside⟩ at_position
  rw [handle?, moved] at foundOther
  exact (Option.some.inj foundOther).symm

/-- Rows that describe the same key are the same when their handles are renamed. -/
theorem Follows.records_of_describes {record otherRecord : table.Record}
    (describes : Describes m options first table key record)
    (describesOther : Describes m options second table key otherRecord) :
    moves.Records table record otherRecord := by
  cases table with
  | tensors =>
      obtain ⟨value, type, rfl, typed, shape, layout, narrowed, placed, address, size,
        description⟩ := describes
      obtain ⟨_, otherType, same, otherTyped, otherShape, otherLayout, otherNarrowed, otherPlaced,
        otherAddress, otherSize, otherDescription⟩ := describesOther
      cases same
      cases typed.symm.trans otherTyped
      cases narrowed.symm.trans otherNarrowed
      refine ⟨address.trans otherAddress.symm, size.trans otherSize.symm, ?_⟩
      rw [description, otherDescription]
      exact .some ⟨rfl, follows.handles placed otherPlaced⟩
  | layouts =>
      obtain ⟨place, rfl, cores, memory, ranges, backed, rfl⟩ := describes
      obtain ⟨_, same, otherCores, otherMemory, otherRanges, otherBacked, rfl⟩ := describesOther
      cases same
      cases ranges.symm.trans otherRanges
      exact ⟨rfl, rfl, follows.handles backed otherBacked⟩
  | memoryConfigs =>
      obtain ⟨config, rfl, shard, rfl, shards⟩ := describes
      obtain ⟨_, same, otherShard, rfl, otherShards⟩ := describesOther
      cases same
      refine ⟨rfl, rfl, ?_⟩
      cases given : config.shardShape with
      | none =>
          rw [given] at shards otherShards
          rw [Option.map_eq_none_iff.mp shards.symm, Option.map_eq_none_iff.mp otherShards.symm]
          exact .none
      | some shape =>
          rw [given] at shards otherShards
          cases shard with
          | none => cases shards
          | some shard =>
              cases otherShard with
              | none => cases otherShards
              | some otherShard =>
                  exact .some
                    (follows.handles (Option.some.inj shards) (Option.some.inj otherShards))
  | devices =>
      obtain ⟨value, type, rfl, typed, encoded⟩ := describes
      obtain ⟨_, otherType, same, otherTyped, otherEncoded⟩ := describesOther
      cases same
      cases typed.symm.trans otherTyped
      exact Except.ok.inj (encoded.symm.trans otherEncoded)
  | memories =>
      obtain ⟨region, banks, rfl, described⟩ := describes
      obtain ⟨_, _, same, otherDescribed⟩ := describesOther
      cases same
      exact Except.ok.inj (described.symm.trans otherDescribed)
  | shards =>
      obtain ⟨shape, rfl, rfl⟩ := describes
      obtain ⟨_, same, rfl⟩ := describesOther
      cases same
      rfl
  | debugInfos => exact describes.2.trans describesOther.2.symm

/-- All rows are the same when their handles are renamed. -/
theorem Follows.records (sound : first.Sound m options) (soundSecond : second.Sound m options)
    (table : Table) (index : Fin (first.objects.records table).length) :
    moves.Records table ((first.objects.records table).get index)
      ((second.objects.records table).get (moves table index)) := by
  have length_eq : (first.objects.records table).length = (first.rows table).length := by
    rw [records_objects, Rows.length_records]
  have inside : index.val < (first.rows table).length := Nat.lt_of_lt_of_eq index.isLt length_eq
  obtain ⟨key, at_index⟩ := Rows.exists_key_of_lt (sound.distinct table) inside
  obtain ⟨record, row, stored⟩ := Rows.exists_row at_index
  obtain ⟨other, otherRow, otherStored⟩ := Rows.exists_row (follows table key index at_index)
  rw [← records_objects] at stored otherStored
  have record_eq : (first.objects.records table).get index = record :=
    Option.some.inj ((List.getElem?_eq_getElem index.isLt).symm.trans stored)
  have other_eq : (second.objects.records table).get (moves table index) = other :=
    Option.some.inj
      ((List.getElem?_eq_getElem (moves table index).isLt).symm.trans otherStored)
  rw [record_eq, other_eq]
  exact follows.records_of_describes (sound.describes table (key, record) row)
    (soundSecond.describes table (key, other) otherRow)

/-! ## Programs -/

/-- What one slot is for has corresponding handles. -/
theorem Follows.handles_of_fits {operation : Operation} {role : Role} {reference : Reference}
    {root : ValueId → ValueId} (fits : reference.Fits operation role)
    (found : reference.handleIn first root = some handle)
    (foundOther : reference.handleIn second root = some other) :
    moves.Handles role.table handle other := by
  cases fits with
  | unplaced => cases found
  | _ => exact follows.handles found foundOther

theorem Follows.entries {function : Function} {instruction : Instruction}
    {entry otherEntry : OperationEntry} (linked : instruction.Linked m first function entry)
    (linkedOther : instruction.Linked m second function otherEntry) :
    moves.Entries entry otherEntry where
  record := by
    obtain ⟨record, replaced, encoded, found, stored⟩ := linked.record
    obtain ⟨same, otherReplaced, otherEncoded, otherFound, otherStored⟩ := linkedOther.record
    cases encoded.symm.trans otherEncoded
    rw [stored, otherStored]
    refine .some ⟨?_, ?_⟩
    · rw [OperationRecord.erased_of_mapM found, OperationRecord.erased_of_mapM otherFound]
    · apply forall₂_of_common (OperationRecord.slots_of_mapM found)
        (OperationRecord.slots_of_mapM otherFound)
      rintro slot member linkedSlot otherSlot ⟨sameRole, held⟩ ⟨otherRole, otherHeld⟩
      have fits := Operation.fits_of_record encoded slot member
      rw [← sameRole, ← otherRole]
      exact ⟨rfl, follows.handles_of_fits fits held otherHeld⟩
  debugText := linked.debugText.trans linkedOther.debugText.symm
  locationText := linked.locationText.trans linkedOther.locationText.symm

/-- The programs of a function are the same when their handles are renamed. -/
theorem Follows.programs {function : Function} (wellFormed : function.WellFormed m)
    {debugInfo : Handle} {program renamed : Program} {before after start last : LoweringState}
    (run : Runs (function.lower m debugInfo) before (.ok program) after)
    (grows : after.interner.Grows first) (distinct : first.Distinct)
    (runRenamed : Runs (function.lower m debugInfo) start (.ok renamed) last)
    (growsSecond : last.interner.Grows second) (distinctSecond : second.Distinct) :
    moves.Programs program renamed := by
  obtain ⟨⟨name, debug⟩, ⟨inputs, _⟩, operations, outputs⟩ :=
    parts_of_runs_function wellFormed run grows distinct
  obtain ⟨⟨otherName, otherDebug⟩, ⟨otherInputs, _⟩, otherOperations, otherOutputs⟩ :=
    parts_of_runs_function wellFormed runRenamed growsSecond distinctSecond
  refine ⟨name.trans otherName.symm, ?_, ?_, ?_, debug.trans otherDebug.symm⟩
  · exact forall₂_of_common inputs otherInputs fun _ _ _ _ found foundOther =>
      follows.handles found foundOther
  · exact forall₂_of_common outputs otherOutputs fun _ _ _ _ found foundOther =>
      follows.handles found foundOther
  · exact forall₂_of_common operations otherOperations fun _ _ _ _ linked linkedOther =>
      follows.entries linked linkedOther

end Artifact.Renaming

/-! ## Orders -/

/-- Lower some functions of a module one after another, with fresh tables. -/
def Module.lowerInOrder (m : Module) (functions : List Function) (debugInfo : Handle) :
    Except LoweringError (List Program) × LoweringState :=
  (functions.mapM fun function : Function => function.lower m debugInfo).run {}

section

variable {m : Module} {functions others : List Function} {debugInfo : Handle}

theorem Module.sound_lowerInOrder (m : Module) (functions : List Function) (debugInfo : Handle) :
    (m.lowerInOrder functions debugInfo).2.interner.Sound m {} := by
  have advances : Keeps (LoweringState.Advances m {})
      (functions.mapM fun function => function.lower m debugInfo) :=
    closed_advances.mapM (closed_advances.function · debugInfo) _
  exact (advances {} _ (m.lowerInOrder functions debugInfo).2 rfl).2 sound_empty

/-- Functions can be lowered in some order exactly when each of them can be lowered. -/
theorem Module.WellFormed.exists_lowerInOrder_iff (wellFormed : m.WellFormed)
    (inside : ∀ function ∈ functions, function ∈ m.functions) :
    (∃ programs, (m.lowerInOrder functions debugInfo).1 = .ok programs) ↔
      ∀ function ∈ functions, function.Lowerable m := by
  have sound : Lowering.SoundState m {} {} := sound_empty
  rw [← (succeeds_functions (fun function member => wellFormed.function function
    (inside function member)) debugInfo {} sound).1]
  constructor
  · rintro ⟨programs, lowered⟩
    exact ⟨programs, _, Prod.ext lowered rfl⟩
  · rintro ⟨programs, after, run⟩
    exact ⟨programs, congrArg Prod.fst run⟩

/-- Functions that are lowered leave the rows behind that they ask for, and no others. -/
theorem Module.holds_lowerInOrder_iff {programs : List Program}
    (lowered : (m.lowerInOrder functions debugInfo).1 = .ok programs) (row : Table × Key) :
    (m.lowerInOrder functions debugInfo).2.interner.Holds row ↔
      row ∈ functions.flatMap (Function.requests m) := by
  have sound : Lowering.SoundState m {} {} := sound_empty
  have added := (Lowering.adds_functions functions debugInfo {} programs _ sound
    (Prod.ext lowered rfl)).2 row
  have absent : ¬ Lowering.HoldsRow {} row := not_holds_empty row
  rwa [or_iff_right absent] at added

/-- Each function is lowered to one of the programs. -/
theorem Module.exists_runs_of_lowerInOrder {programs : List Program}
    (lowered : (m.lowerInOrder functions debugInfo).1 = .ok programs) :
    List.Forall₂ (fun function program => ∃ before after,
      Runs (function.lower m debugInfo) before (.ok program) after ∧
        after.interner.Grows (m.lowerInOrder functions debugInfo).2.interner)
      functions programs :=
  forall₂_of_runs_functions (fun _ _ before _ after ran grows => ⟨before, after, ran, grows⟩)
    (Prod.ext lowered rfl) (Std.Refl.refl _)

/-- Two orders in which the functions of a module are lowered give the same tables and
programs, up to a renaming of handles. -/
theorem Module.WellFormed.exists_renaming (wellFormed : m.WellFormed)
    (inside : ∀ function ∈ functions, function ∈ m.functions)
    (same : ∀ function, function ∈ functions ↔ function ∈ others)
    {programs renamed : List Program}
    (lowered : (m.lowerInOrder functions debugInfo).1 = .ok programs)
    (loweredOthers : (m.lowerInOrder others debugInfo).1 = .ok renamed) :
    ∃ moves : Renaming (m.lowerInOrder functions debugInfo).2.interner.objects
        (m.lowerInOrder others debugInfo).2.interner.objects, moves.Follows ∧
      ∀ function program other, (function, program) ∈ functions.zip programs →
        (function, other) ∈ others.zip renamed → moves.Programs program other := by
  have sound := m.sound_lowerInOrder functions debugInfo
  have soundOthers := m.sound_lowerInOrder others debugInfo
  have sameRows (row : Table × Key) :
      (m.lowerInOrder functions debugInfo).2.interner.Holds row ↔
        (m.lowerInOrder others debugInfo).2.interner.Holds row := by
    rw [Module.holds_lowerInOrder_iff lowered, Module.holds_lowerInOrder_iff loweredOthers]
    simp only [List.mem_flatMap, same]
  obtain ⟨moves, follows⟩ := Renaming.exists_follows sound.distinct soundOthers.distinct sameRows
  refine ⟨moves, follows, fun function program other paired pairedOther => ?_⟩
  obtain ⟨_, _, run, grows⟩ :=
    List.forall₂_zip (Module.exists_runs_of_lowerInOrder lowered) paired
  obtain ⟨_, _, runOther, growsOther⟩ :=
    List.forall₂_zip (Module.exists_runs_of_lowerInOrder loweredOthers) pairedOther
  exact follows.programs
    (wellFormed.function function (inside function (List.of_mem_zip paired).1))
    run grows sound.distinct runOther growsOther soundOthers.distinct

/-- The order in which the functions of a module are lowered does not matter.  All of them
can be lowered in one order exactly when they can in the other, and then both orders give
the same rows and the same programs, up to a renaming of handles. -/
theorem Module.Built.order_irrelevant (built : m.Built) (permuted : functions.Perm m.functions)
    (debugInfo : Handle) :
    ((∃ programs, (m.lowerInOrder functions debugInfo).1 = .ok programs) ↔
      ∃ programs, (m.lowerInOrder m.functions debugInfo).1 = .ok programs) ∧
    ∀ programs renamed, (m.lowerInOrder m.functions debugInfo).1 = .ok programs →
      (m.lowerInOrder functions debugInfo).1 = .ok renamed →
        programs.length = m.functions.length ∧ renamed.length = functions.length ∧
        ∃ moves : Renaming (m.lowerInOrder m.functions debugInfo).2.interner.objects
            (m.lowerInOrder functions debugInfo).2.interner.objects,
          (∀ table index, moves.Records table
            (((m.lowerInOrder m.functions debugInfo).2.interner.objects.records table).get index)
            (((m.lowerInOrder functions debugInfo).2.interner.objects.records table).get
              (moves table index))) ∧
          ∀ function program other, (function, program) ∈ m.functions.zip programs →
            (function, other) ∈ functions.zip renamed → moves.Programs program other := by
  have wellFormed := built.wellFormed
  have same (function : Function) : function ∈ m.functions ↔ function ∈ functions :=
    permuted.mem_iff.symm
  constructor
  · rw [wellFormed.exists_lowerInOrder_iff fun function => (same function).mpr,
      wellFormed.exists_lowerInOrder_iff fun function => id]
    simp only [same]
  · intro programs renamed lowered loweredPermuted
    obtain ⟨moves, follows, related⟩ :=
      wellFormed.exists_renaming (fun function => id) same lowered loweredPermuted
    refine ⟨(Module.exists_runs_of_lowerInOrder lowered).length_eq.symm,
      (Module.exists_runs_of_lowerInOrder loweredPermuted).length_eq.symm, moves, ?_, related⟩
    exact follows.records (m.sound_lowerInOrder m.functions debugInfo)
      (m.sound_lowerInOrder functions debugInfo)

theorem order_irrelevant_copyAbsAndPass :
    (copyAbsAndPass .single).functions.map Function.name = ["copy_abs", "pass"] ∧
      (copyAbsAndPass .single).Built ∧
      ∃ programs renamed,
        ((copyAbsAndPass .single).lowerInOrder (copyAbsAndPass .single).functions 0).1 =
          .ok programs ∧
        ((copyAbsAndPass .single).lowerInOrder (copyAbsAndPass .single).functions.reverse 0).1 =
          .ok renamed ∧
        ∃ moves : Renaming
            ((copyAbsAndPass .single).lowerInOrder
              (copyAbsAndPass .single).functions 0).2.interner.objects
            ((copyAbsAndPass .single).lowerInOrder
              (copyAbsAndPass .single).functions.reverse 0).2.interner.objects,
          ∀ function program other,
            (function, program) ∈ (copyAbsAndPass .single).functions.zip programs →
            (function, other) ∈ (copyAbsAndPass .single).functions.reverse.zip renamed →
              moves.Programs program other := by
  obtain ⟨again, related⟩ := Module.Built.order_irrelevant (built_copyAbsAndPass .single)
    (List.reverse_perm _) 0
  have succeeds : ((copyAbsAndPass .single).lowerInOrder
      (copyAbsAndPass .single).functions 0).1.toOption.isSome = true := by
    decide +kernel
  obtain ⟨programs, found⟩ := Option.isSome_iff_exists.mp succeeds
  have lowered := mem_toOption_iff.mp found
  obtain ⟨renamed, loweredReverse⟩ := again.mpr ⟨programs, lowered⟩
  obtain ⟨_, _, moves, _, same⟩ := related programs renamed lowered loweredReverse
  exact ⟨names_copyAbsAndPass _, built_copyAbsAndPass _, programs, renamed, lowered,
    loweredReverse, moves, same⟩

end

end Tilework
