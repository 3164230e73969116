import Tilework.Proofs.Artifact.Checks
import Tilework.Proofs.Lowering.Structure

/-!
# Parameters of elementwise operations

The kind of an elementwise operation and its parameters are independent of each other.
Clamps take bounds, leaky rectifiers take a slope, and all other kinds take nothing.  An
artifact keeps what the kind of an operation takes, up to the signs of zeros.  Parameters of
another form are not kept, and nothing reports them.
-/

namespace Tilework

open Artifact

/-! ## Kept parameters -/

/-- The elementwise operation of an instruction. -/
def Instruction.elementwise? (instruction : Instruction) : Option Operation.Elementwise :=
  match instruction.operation with
  | .elementwise op => some op
  | _ => none

/-- The elementwise record of an entry. -/
def Artifact.OperationEntry.elementwise? (entry : OperationEntry) :
    Option (OperationRecord.Elementwise Handle) :=
  match entry.record with
  | some (.elementwise record) => some record
  | _ => none

theorem Instruction.elementwise?_eq_some_iff {instruction : Instruction}
    {op : Operation.Elementwise} :
    instruction.elementwise? = some op ↔ instruction.operation = .elementwise op := by
  unfold Instruction.elementwise?
  split <;> simp_all

theorem Artifact.OperationEntry.elementwise?_eq_some_iff {entry : OperationEntry}
    {record : OperationRecord.Elementwise Handle} :
    entry.elementwise? = some record ↔ entry.record = some (.elementwise record) := by
  unfold OperationEntry.elementwise?
  split <;> simp_all

/-- A record has the kind of an operation, and carries those parameters of the operation that
its kind takes. -/
structure Operation.Elementwise.KeptBy (op : Operation.Elementwise)
    (record : OperationRecord.Elementwise Handle) : Prop where
  kind : record.kind = .of op.kind
  /-- The record has bounds exactly if it is a clamp and the operation was given bounds. -/
  bounds : ∀ stored, record.parameters = some (.clamp stored) ↔
    record.kind = .of ElementwiseKind.clamp ∧ ∃ min max, op.parameters = some (.clamp min max) ∧
      stored = { min := min.normalized, max := max.normalized }
  /-- The record has a slope exactly if it is a leaky rectifier and the operation was given
  one. -/
  slope : ∀ stored, record.parameters = some (.scalar stored) ↔
    record.kind = .of ElementwiseKind.leakyRelu ∧ ∃ value, op.parameters = some (.scalar value) ∧
      stored = { value := value.normalized }
  other : record.kind ≠ .of ElementwiseKind.clamp → record.kind ≠ .of ElementwiseKind.leakyRelu →
    record.parameters = none

/-- An entry has an elementwise record exactly if its instruction is elementwise, and the
record keeps the parameters. -/
def Instruction.ParametersKept (instruction : Instruction) (entry : OperationEntry) : Prop :=
  Option.Rel Operation.Elementwise.KeptBy instruction.elementwise? entry.elementwise?

/-! ## Encoding -/

section

variable {kind : ElementwiseKind} {given : Option Operation.ElementwiseParameters}

/-- Bounds are read back exactly where a clamp was given bounds. -/
theorem ElementwiseKind.readBack_eq_clamp_iff {stored : OperationRecord.ClampParameters} :
    (kind.parameters given).map OperationRecord.ElementwiseParameters.normalized =
        some (.clamp stored) ↔
      kind = .clamp ∧ ∃ min max, given = some (.clamp min max) ∧
        stored = { min := min.normalized, max := max.normalized } := by
  unfold parameters
  split
  case h_1 min max =>
    simp [OperationRecord.ElementwiseParameters.normalized,
      OperationRecord.ClampParameters.normalized, eq_comm]
  case h_2 slope => simp [OperationRecord.ElementwiseParameters.normalized]
  case h_3 noBounds noSlope =>
    refine iff_of_false (by simp) ?_
    rintro ⟨rfl, min, max, rfl, -⟩
    exact noBounds min max rfl rfl

/-- A slope is read back exactly where a leaky rectifier was given one. -/
theorem ElementwiseKind.readBack_eq_scalar_iff {stored : OperationRecord.ScalarParameters} :
    (kind.parameters given).map OperationRecord.ElementwiseParameters.normalized =
        some (.scalar stored) ↔
      kind = .leakyRelu ∧ ∃ value, given = some (.scalar value) ∧
        stored = { value := value.normalized } := by
  unfold parameters
  split
  case h_1 min max => simp [OperationRecord.ElementwiseParameters.normalized]
  case h_2 slope =>
    simp [OperationRecord.ElementwiseParameters.normalized,
      OperationRecord.ScalarParameters.normalized, eq_comm]
  case h_3 noBounds noSlope =>
    refine iff_of_false (by simp) ?_
    rintro ⟨rfl, value, rfl, -⟩
    exact noSlope value rfl rfl

end

/-- What is read back for the record of an operation keeps its parameters. -/
theorem Operation.Elementwise.keptBy_normalized (op : Operation.Elementwise)
    (inputs : List Handle) (out : Handle) :
    op.KeptBy
      { kind := .of op.kind
        inputs
        out
        parameters := (op.kind.parameters op.parameters).map
          OperationRecord.ElementwiseParameters.normalized } where
  kind := rfl
  bounds stored := by
    rw [Coded.of_inj]
    exact ElementwiseKind.readBack_eq_clamp_iff
  slope stored := by
    rw [Coded.of_inj]
    exact ElementwiseKind.readBack_eq_scalar_iff
  other notClamp notLeaky := by
    rw [ne_eq, Coded.of_inj] at notClamp notLeaky
    rw [Option.eq_none_iff_forall_ne_some]
    rintro (bounds | scalar) kept
    · exact notClamp (ElementwiseKind.readBack_eq_clamp_iff.mp kept).1
    · exact notLeaky (ElementwiseKind.readBack_eq_scalar_iff.mp kept).1

/-! ## Entries -/

section

variable {m : Module} {interner : Interner} {function : Function} {instruction : Instruction}
  {entry : OperationEntry} {program : Program}

/-- Only elementwise operations have the tag of elementwise records. -/
theorem Instruction.Mirrored.elementwise {record : OperationRecord.Elementwise Handle}
    (mirrored : instruction.Mirrored m entry) (read : entry.record = some (.elementwise record)) :
    ∃ op, instruction.operation = .elementwise op := by
  obtain ⟨kind, stored, known, found, tagged⟩ := mirrored.tag
  rw [read] at found
  cases found
  cases operation : instruction.operation with
  | elementwise op => exact ⟨op, rfl⟩
  | unregistered op => simp [operation, Operation.kind?] at known
  | _ =>
      rw [operation] at known
      cases known
      cases tagged

/-- The entry of an elementwise instruction is read back with its parameters. -/
theorem Instruction.Linked.elementwise {op : Operation.Elementwise}
    (linked : instruction.Linked m interner function entry)
    (isElementwise : instruction.operation = .elementwise op) :
    ∃ record, entry.normalized.record = some (.elementwise record) ∧ op.KeptBy record := by
  obtain ⟨record, replaced, encoded, found, stored⟩ := linked.record
  rw [isElementwise] at encoded
  cases encoded
  simp only [OperationRecord.mapM, Option.bind_eq_bind, Option.bind_eq_some_iff,
    Option.pure_def, Option.some.injEq] at found
  obtain ⟨inputs, _, out, _, rfl⟩ := found
  refine ⟨_, ?_, op.keptBy_normalized inputs out⟩
  rw [OperationEntry.normalized, stored]
  rfl

theorem Instruction.Linked.parametersKept
    (linked : instruction.Linked m interner function entry) :
    instruction.ParametersKept entry.normalized := by
  rw [ParametersKept]
  cases isElementwise : instruction.elementwise? with
  | none =>
      have absent : entry.normalized.elementwise? = none := by
        rw [Option.eq_none_iff_forall_ne_some]
        intro record read
        obtain ⟨op, found⟩ :=
          linked.mirrored.elementwise (OperationEntry.elementwise?_eq_some_iff.mp read)
        rw [Instruction.elementwise?_eq_some_iff.mpr found] at isElementwise
        cases isElementwise
      rw [absent]
      exact .none
  | some op =>
      obtain ⟨record, read, kept⟩ :=
        linked.elementwise (Instruction.elementwise?_eq_some_iff.mp isElementwise)
      rw [OperationEntry.elementwise?_eq_some_iff.mpr read]
      exact .some kept

theorem Function.Linked.parametersKept (linked : function.Linked m interner program) :
    List.Forall₂ Instruction.ParametersKept function.body program.normalized.operations :=
  List.forall₂_map_right_iff.mpr (linked.operations.imp fun _ _ each => each.parametersKept)

end

/-! ## Artifacts -/

/-- What is read back from the artifact of a module has one elementwise record for each
elementwise instruction, in the same place, and the record keeps the parameters. -/
theorem Module.Built.parameters_kept {m : Module} {options : LoweringOptions} {buffer : Bytes}
    (built : m.Built) (lowered : m.lower options = .ok buffer) :
    ∃ binary, Binary.ofFrame buffer = .ok binary ∧
      List.Forall₂
        (fun function program =>
          List.Forall₂ Instruction.ParametersKept function.body program.operations)
        m.functions binary.programs := by
  obtain ⟨binary, assembled, framed, verified⟩ := Module.lower_eq_ok_iff.mp lowered
  have decoded := ofFrame_of_verified framed verified
  obtain ⟨programs, system, ran, _, rfl⟩ := Module.binary_eq_ok_iff.mp assembled
  exact ⟨_, decoded, List.forall₂_map_right_iff.mpr
    ((built.wellFormed.linked ran).imp fun _ _ linked => linked.parametersKept)⟩

/-- A draft of a function of four elementwise operations.  A clamp has its bounds and a leaky
rectifier its slope, absolute values have bounds, and another clamp has none. -/
def boundedDraft : Draft :=
  let target : Target := { workers := { rows := 1, columns := 1 }, chips := [0], mesh := [1] }
  let tensor : ValueType := .tensor
    { shape := [32]
      dataType := .float32
      placement :=
        { grid := ⟨1, 1⟩
          region := { shape := [32], element := .scalar .float32, buffer := .dram }
          banks := some .interleaved } }
  let draft : Draft := { module := { system := .single, target }, name := "bounded" }
  let (input, draft) := draft.argument tensor
  let (output, draft) := draft.argument tensor
  let (clamped, draft) := draft.value tensor
  let (rectified, draft) := draft.value tensor
  let (absolute, draft) := draft.value tensor
  let (unbounded, draft) := draft.value tensor
  let draft := draft.append
    { operation := .elementwise (.clamp input ⟨0x80000000⟩ ⟨0x3f800000⟩ clamped) }
  let draft := draft.append
    { operation := .elementwise (.leakyRelu clamped ⟨0x3c23d70a⟩ output rectified) }
  let draft := draft.append
    { operation := .elementwise
        { Operation.Elementwise.into .abs [input] output absolute with
          parameters := some (.clamp ⟨0x80000000⟩ ⟨0x3f800000⟩) } }
  draft.append
    { operation := .elementwise
        { Operation.Elementwise.clamp input .zero .zero unbounded with parameters := none } }

/-- The module of this function. -/
def bounded : Module :=
  (boundedDraft.finish [⟨5⟩]).1

theorem built_bounded : bounded.Built :=
  .finish (.empty _ _)
    (.append (.append (.append (.append
      (.value (.value (.value (.value (.argument (.argument (.start _) _) _) _) _) _) _) _) _) _) _)
    _

theorem parameters_kept_bounded :
    bounded.Built ∧ ∃ buffer, bounded.lower {} = .ok buffer ∧
      ∃ binary, Binary.ofFrame buffer = .ok binary ∧
        List.Forall₂
          (fun function program =>
            List.Forall₂ Instruction.ParametersKept function.body program.operations)
          bounded.functions binary.programs := by
  obtain ⟨buffer, lowered⟩ : ∃ buffer, bounded.lower {} = .ok buffer :=
    Module.exists_lower_of_accepted (by decide +kernel)
  exact ⟨built_bounded, buffer, lowered, Module.Built.parameters_kept built_bounded lowered⟩

/-- Bounds that are given to absolute values are lost, and a clamp without bounds is accepted.
The record of neither has parameters. -/
theorem parameters_lost_bounded :
    bounded.Built ∧
      bounded.functions.map (fun function =>
          function.body.map fun instruction =>
            instruction.elementwise?.map fun op => (op.kind, op.parameters)) =
        [[some (.clamp, some (.clamp ⟨0x80000000⟩ ⟨0x3f800000⟩)),
          some (.leakyRelu, some (.scalar ⟨0x3c23d70a⟩)),
          some (.abs, some (.clamp ⟨0x80000000⟩ ⟨0x3f800000⟩)),
          some (.clamp, none)]] ∧
      ∃ buffer binary, bounded.lower {} = .ok buffer ∧ Binary.ofFrame buffer = .ok binary ∧
        binary.programs.map (fun program =>
            program.operations.map fun entry =>
              entry.elementwise?.map fun record => (record.kind, record.parameters)) =
          [[some (.of .clamp, some (.clamp ⟨⟨0⟩, ⟨0x3f800000⟩⟩)),
            some (.of .leakyRelu, some (.scalar ⟨⟨0x3c23d70a⟩⟩)),
            some (.of .abs, none),
            some (.of .clamp, none)]] := by
  refine ⟨built_bounded, by decide +kernel, ?_⟩
  exact Module.exists_decoded_of_accepted (by decide +kernel)

end Tilework
