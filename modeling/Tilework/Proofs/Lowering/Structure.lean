import Tilework.Lowering.Registry
import Tilework.Proofs.Lowering.Requests
import Tilework.Proofs.Lowering.Handles

/-!
# The structure of artifacts

The artifact of a module has the structure of the module.  It has one program for each
function and one entry for each instruction, all in the order of the module, and each
entry tells which kind of instruction it was made from.  All programs share the only row
of debug information, which comes first in its table and holds the text of the module.
-/

namespace Tilework

open Artifact Interner

/-! ## Mirrored modules -/

/-- An entry has the tag of the kind of an instruction, its text and its location. -/
structure Instruction.Mirrored (m : Module) (instruction : Instruction) (entry : OperationEntry) :
    Prop where
  tag : ∃ kind record, instruction.operation.kind? = some kind ∧ entry.record = some record ∧
    record.tag = kind.tag
  debugText : entry.debugText = m.instructionText instruction
  locationText : entry.locationText = instruction.location.text

/-- A program has the name of a function and one entry for each of its instructions, in
order. -/
structure Function.Mirrored (m : Module) (function : Function) (program : Program) : Prop where
  name : program.name = function.name
  operations : List.Forall₂ (Instruction.Mirrored m) function.body program.operations
  debugInfo : program.debugInfo = 0

/-- Add the modules after some compiler passes, one after another. -/
def LoweringOptions.withPasses (options : LoweringOptions) (added : List (String × String)) :
    LoweringOptions :=
  added.foldl (fun options (pass, source) => options.withPass pass source) options

/-- Debug information holds a text, and what the options add to it. -/
structure LoweringOptions.Mirrored (options : LoweringOptions) (text : String)
    (debug : DebugRecord) : Prop where
  source : ∃ snapshot, debug.snapshot = some snapshot ∧ snapshot.source = text
  generatedSource : debug.generatedSource = options.generatedSource.getD ""
  /-- The passes are listed in the order in which they were added. -/
  passes : ∀ (earlier : LoweringOptions) added, options = earlier.withPasses added →
    debug.passes.map (fun pass => (pass.name, pass.source)) = earlier.passes ++ added
  golden : ∃ table, debug.golden = some table ∧
    List.Forall₂ (fun tensor entry => entry.key = tensor.name ∧ entry.value = some tensor.record)
      options.golden table.entries

/-- An artifact has one program for each function of a module, in order, one row of debug
information, and the origin that the options give. -/
structure Module.Mirrored (m : Module) (options : LoweringOptions) (binary : Binary) : Prop where
  programs : List.Forall₂ (Function.Mirrored m) m.functions binary.programs
  debugInfo : ∃ objects debug, binary.objects = some objects ∧ objects.debugInfos = [debug] ∧
    options.Mirrored m.text debug
  version : binary.version = some options.version
  buildIdentity : binary.buildIdentity = options.buildIdentity

/-! ## Tags -/

namespace Artifact.OperationRecord

variable {ρ τ : Type}

/-- The number that tells a record from those of the other members of its family. -/
def member? : OperationRecord ρ → Option Int32
  | elementwise op => some op.kind.number
  | reduction op => some op.kind.number
  | _ => none

/-- What tells the kind of operation that a record belongs to. -/
def code (record : OperationRecord ρ) : Nat × Option Int32 :=
  (record.tag, record.member?)

/-- The code of a record does not depend on what the record refers to. -/
@[simp]
theorem code_erased (record : OperationRecord ρ) : record.erased.code = record.code := by
  cases record <;> rfl

/-- Linking a record keeps its tag. -/
theorem tag_of_mapM {g : ρ → Option τ} {record : OperationRecord ρ} {linked : OperationRecord τ}
    (replaced : record.mapM g = some linked) : linked.tag = record.tag := by
  have same := congrArg code (erased_of_mapM replaced)
  rw [code_erased, code_erased] at same
  exact congrArg Prod.fst same

end Artifact.OperationRecord

/-- The record of an operation has the code of its kind. -/
theorem Operation.code_of_record {m : Module} {operation : Operation}
    {record : OperationRecord Reference} (encoded : operation.record m = .ok record) :
    ∃ kind, operation.kind? = some kind ∧ record.code = kind.code := by
  cases operation with
  | getDevice op | empty op | full op | meshShard op =>
      obtain ⟨inner, _, rfl⟩ := map_eq_ok_iff.mp encoded
      exact ⟨_, rfl, rfl⟩
  | unregistered op => cases encoded
  | _ =>
      cases encoded
      exact ⟨_, rfl, rfl⟩

/-- The record of an operation has the tag of its kind. -/
theorem Operation.tag_of_record {m : Module} {operation : Operation}
    {record : OperationRecord Reference} (encoded : operation.record m = .ok record) :
    ∃ kind, operation.kind? = some kind ∧ record.tag = kind.tag := by
  obtain ⟨kind, known, code⟩ := Operation.code_of_record encoded
  exact ⟨kind, known, congrArg Prod.fst code⟩

/-- Reading a record back keeps its tag. -/
theorem Artifact.OperationRecord.tag_normalized (record : OperationRecord Handle) :
    record.normalized.tag = record.tag := by
  cases record <;> rfl

theorem Instruction.Linked.mirrored {m : Module} {interner : Interner} {function : Function}
    {instruction : Instruction} {entry : OperationEntry}
    (linked : instruction.Linked m interner function entry) :
    instruction.Mirrored m entry.normalized where
  tag := by
    obtain ⟨record, replaced, encoded, found, stored⟩ := linked.record
    obtain ⟨kind, known, tagged⟩ := Operation.tag_of_record encoded
    refine ⟨kind, replaced.normalized, known, ?_, ?_⟩
    · simp [OperationEntry.normalized, stored]
    · rw [OperationRecord.tag_normalized, OperationRecord.tag_of_mapM found, tagged]
  debugText := linked.debugText
  locationText := linked.locationText

/-! ## Debug information -/

theorem LoweringOptions.passes_withPasses (options : LoweringOptions)
    (added : List (String × String)) :
    (options.withPasses added).passes = options.passes ++ added := by
  induction added generalizing options with
  | nil => simp [withPasses]
  | cons pass added ih =>
      have step : options.withPasses (pass :: added) =
          (options.withPass pass.1 pass.2).withPasses added := rfl
      rw [step, ih, withPass, List.append_assoc, List.singleton_append]

theorem LoweringOptions.mirrored_debugRecord (options : LoweringOptions) (text : String) :
    options.Mirrored text (options.debugRecord text) where
  source := ⟨_, rfl, rfl⟩
  generatedSource := rfl
  passes earlier added same := by
    rw [← passes_withPasses, ← same]
    simp [debugRecord, Function.comp_def]
  golden := by
    refine ⟨_, rfl, ?_⟩
    rw [List.forall₂_map_right_iff, List.forall₂_same]
    exact fun tensor _ => ⟨rfl, rfl⟩

section

variable {m : Module} {options : LoweringOptions} {programs : List Program}

/-- A lowered module has a single row of debug information. -/
theorem Module.debugInfos_interner
    (lowered : ((m.lowerFunctions options).run {}).1 = .ok programs) :
    (m.interner options).debugInfos = [(.debugInfo, options.debugRecord m.text)] := by
  have sound := m.sound_interner options
  have asked : (m.interner options).Holds (.debugInfos, .debugInfo) :=
    (Module.holds_interner_iff lowered _).mpr (Or.inl rfl)
  have described : ∀ row ∈ (m.interner options).debugInfos,
      row.1 = .debugInfo ∧ row.2 = options.debugRecord m.text := sound.describes .debugInfos
  have distinct : (m.interner options).debugInfos.keys.Nodup := sound.distinct .debugInfos
  have held : Key.debugInfo ∈ (m.interner options).debugInfos.keys := asked
  generalize (m.interner options).debugInfos = rows at described distinct held
  cases rows with
  | nil => cases held
  | cons row older =>
      rw [List.forall_mem_cons] at described
      obtain ⟨first, rest⟩ := described
      cases older with
      | nil => rw [← first.1, ← first.2]
      | cons second older =>
          have same : row.1 = second.1 := first.1.trans (rest second List.mem_cons_self).1.symm
          simp [Rows.keys, same] at distinct

/-- The handle of the debug information is the first one. -/
theorem Module.debugInfo_eq_zero (lowered : ((m.lowerFunctions options).run {}).1 = .ok programs)
    {handle : Handle} (found : (m.interner options).handle? .debugInfos .debugInfo = some handle) :
    handle = 0 := by
  have single :
      (m.interner options).rows .debugInfos = [(.debugInfo, options.debugRecord m.text)] :=
    Module.debugInfos_interner lowered
  rw [handle?, single] at found
  exact (Option.some.inj found).symm

theorem Function.Linked.mirrored (lowered : ((m.lowerFunctions options).run {}).1 = .ok programs)
    {function : Function} {program : Program}
    (linked : function.Linked m (m.interner options) program) :
    function.Mirrored m program.normalized where
  name := linked.name
  operations := List.forall₂_map_right_iff.mpr
    (linked.operations.imp fun _ _ each => each.mirrored)
  debugInfo := Module.debugInfo_eq_zero lowered linked.debugInfo

/-! ## Artifacts -/

/-- What is read back from the artifact of a module has the structure of the module. -/
theorem Module.Built.artifact_mirrored {buffer : Bytes} (built : m.Built)
    (lowered : m.lower options = .ok buffer) :
    ∃ binary, Binary.ofFrame buffer = .ok binary ∧ m.Mirrored options binary := by
  obtain ⟨binary, assembled, framed, verified⟩ := Module.lower_eq_ok_iff.mp lowered
  have decoded := ofFrame_of_verified framed verified
  obtain ⟨programs, system, ran, _, rfl⟩ := Module.binary_eq_ok_iff.mp assembled
  refine ⟨_, decoded, ?_, ?_, rfl, rfl⟩
  · exact List.forall₂_map_right_iff.mpr
      ((built.wellFormed.linked ran).imp fun _ _ linked => linked.mirrored ran)
  · refine ⟨_, _, rfl, ?_, options.mirrored_debugRecord m.text⟩
    rw [Interner.objects, Module.debugInfos_interner ran]
    rfl

theorem artifact_mirrored_copyAbs :
    (copyAbs .single).functions.map Function.name = ["copy_abs"] ∧ (copyAbs .single).Built ∧
      ∃ buffer, (copyAbs .single).lower {} = .ok buffer ∧
        ∃ binary, Binary.ofFrame buffer = .ok binary ∧ (copyAbs .single).Mirrored {} binary := by
  obtain ⟨buffer, lowered⟩ := exists_lower_copyAbs
  exact ⟨names_copyAbs _, built_copyAbs _, buffer, lowered,
    Module.Built.artifact_mirrored (built_copyAbs _) lowered⟩

end

end Tilework
