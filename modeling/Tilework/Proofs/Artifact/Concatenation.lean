import Tilework.Proofs.Artifact.Merge
import Tilework.Proofs.Artifact.RoundTrip
import Tilework.Proofs.Wire.Concatenation

/-!
# Reading concatenated artifacts

The bytes of two messages of one type, one after the other, are read as the merge of the two
messages.  Joining, which is what reading does to what was read before, is compared with merging
for components, for fields that hold choices and for messages, each from its parts.  What is
merged is what would be read back by itself, where zeros have lost their signs.
-/

namespace Tilework.Artifact

open Wire
open Merging (merge normalized)

/-! ## What is read back as it is -/

/-- Types whose values are read back as they are. -/
class Plain (τ : Type) [Merging τ] : Prop where
  normalized_eq (value : τ) : normalized value = value := by exact fun _ => rfl

section

variable {α σ : Type}

instance [Scalar α] [DecidableEq α] [Inhabited α] [ExactScalar α] : Plain α where

instance [Scalar α] : Plain (Option α) where

instance [WordCoded α] : Plain (List α) where

instance [Message σ] [Merging σ] [Plain σ] : Plain (Option σ) where
  normalized_eq message := by
    have same : (normalized : σ → σ) = id := funext Plain.normalized_eq
    show message.map normalized = message
    rw [same, Option.map_id, id]

instance [Message σ] [Merging σ] [Plain σ] : Plain (List σ) where
  normalized_eq messages := by
    have same : (normalized : σ → σ) = id := funext Plain.normalized_eq
    show messages.map normalized = messages
    rw [same, List.map_id]

end

/-! ## Components -/

/-- Scalars whose default is not written. -/
class DefaultAbsent (α : Type) [Scalar α] [Inhabited α] : Prop where
  isDefault_default : Scalar.isDefault (default : α) = true := by rfl

instance : DefaultAbsent Int32 where

instance : DefaultAbsent Int64 where

instance : DefaultAbsent UInt32 where

instance : DefaultAbsent UInt64 where

instance : DefaultAbsent Bool where

instance : DefaultAbsent String where

instance : DefaultAbsent Bytes where

instance {ε : Type} : DefaultAbsent (Coded ε) where

theorem isDefault_iff {α : Type} [Scalar α] [Inhabited α] [ExactScalar α] [DefaultAbsent α]
    {value : α} : Scalar.isDefault value = true ↔ value = default := by
  constructor
  · exact ExactScalar.eq_default value
  · rintro rfl
    exact DefaultAbsent.isDefault_default

/-- Components that are joined by merging.  The new value is merged as it is read back. -/
class ComponentMerges (τ : Type) [Component τ] [LawfulComponent τ] [Merging τ] : Prop where
  join_eq (old new : τ) : LawfulComponent.join old new = merge old (normalized new)

/-- Message types that are joined by merging. -/
class MessageMerges (σ : Type) [Message σ] [LawfulMessage σ] [Merging σ] : Prop where
  join_default (message : σ) : LawfulMessage.join default message = normalized message := by
    exact ExactMessage.join_default
  join_eq (old new : σ) : LawfulMessage.join old new = merge old (normalized new) := by
    intro old new
    simp only [LawfulMessage.join, ComponentMerges.join_eq, Plain.normalized_eq]
    rfl

/-- Messages that are read back as they were written are plain. -/
instance {σ : Type} [Message σ] [LawfulMessage σ] [ExactMessage σ] [Merging σ]
    [MessageMerges σ] : Plain σ where
  normalized_eq message :=
    (MessageMerges.join_default message).symm.trans (ExactMessage.join_default message)

section

variable {α σ : Type}

instance [Scalar α] [LawfulScalar α] [DecidableEq α] [Inhabited α] [ExactScalar α]
    [DefaultAbsent α] : ComponentMerges α where
  join_eq old new := by
    show (if Scalar.isDefault new = true then old else new) = if new = default then old else new
    simp only [isDefault_iff]

instance : ComponentMerges Single where
  join_eq old new := by
    by_cases zero : new.isZero = true
    · have read : new.normalized = default := if_pos zero
      exact (if_pos zero).trans (if_pos read).symm
    · have read : new.normalized = new := if_neg zero
      have written : new.normalized ≠ default := by
        rw [read]
        rintro rfl
        exact zero rfl
      exact (if_neg zero).trans ((if_neg written).trans read).symm

instance [Scalar α] [LawfulScalar α] : ComponentMerges (Option α) where
  join_eq _ _ := rfl

instance [WordCoded α] [Inhabited α] [LawfulWordCoded α] : ComponentMerges (List α) where
  join_eq _ _ := rfl

instance [Message σ] [LawfulMessage σ] [Merging σ] [MessageMerges σ] :
    ComponentMerges (Option σ) where
  join_eq old new := by
    cases new with
    | none => cases old <;> rfl
    | some new =>
        cases old with
        | none => exact congrArg some (MessageMerges.join_default new)
        | some old => exact congrArg some (MessageMerges.join_eq old new)

instance [Message σ] [LawfulMessage σ] [Merging σ] [MessageMerges σ] :
    ComponentMerges (List σ) where
  join_eq old new := by
    have read : (LawfulMessage.join default : σ → σ) = normalized :=
      funext MessageMerges.join_default
    show old ++ new.map (LawfulMessage.join default) = old ++ new.map normalized
    rw [read]

end

/-! ## Choices -/

/-- A member of a choice is merged when the same member has been read before, and is read
afresh otherwise. -/
theorem join_member {σ γ : Type} [Message σ] [LawfulMessage σ] [Merging σ] [MessageMerges σ]
    [Merging γ] {wrap : σ → γ} {unwrap : γ → Option σ} (old : Option γ) (new : σ)
    (merges : ∀ first, merge first (wrap (normalized new)) =
      wrap (((unwrap first).map (merge · (normalized new))).getD (normalized new))) :
    some (wrap (LawfulMessage.join ((old.bind unwrap).getD default) new)) =
      (Merging.optional γ).merge old (some (wrap (normalized new))) := by
  have afresh := congrArg (fun read => some (wrap read)) (MessageMerges.join_default new)
  cases old with
  | none => exact afresh
  | some first =>
      show _ = some (merge first (wrap (normalized new)))
      rw [merges first, Option.bind_some]
      cases unwrap first with
      | none => exact afresh
      | some message =>
          exact congrArg (fun read => some (wrap read)) (MessageMerges.join_eq message new)

/-! ## Geometry -/

instance : MessageMerges Version where

instance : MessageMerges Extent where

instance : MessageMerges CoreRange where

/-! ## Tensors and devices -/

instance : MessageMerges MemoryRecord where

instance : MessageMerges LayoutRecord where

instance : MessageMerges TensorDescription where

instance : MessageMerges TensorRecord where

instance : MessageMerges DeviceRecord where

instance : MessageMerges ShardRecord where

instance : MessageMerges MemoryConfigRecord where

instance : MessageMerges LineCut where

instance : MessageMerges MeshCut where

instance : MessageMerges Strategy where
  join_eq old new := by
    rcases old with ⟨old⟩
    rcases new with ⟨_ | cut | cut⟩
    · cases old <;> rfl
    all_goals exact congrArg Strategy.mk (join_member old cut fun first => by cases first <;> rfl)

/-! ## Systems -/

instance : MessageMerges ChipRecord where

instance : MessageMerges ChipPosition where

instance : MessageMerges LinkRecord where

instance : MessageMerges SystemRecord where

/-! ## Debug information -/

instance : MessageMerges Snapshot where

instance : MessageMerges GoldenRecord where

instance : MessageMerges GoldenEntry where

instance : MessageMerges GoldenTable where

instance : MessageMerges DebugRecord where

/-! ## Operation records -/

namespace OperationRecord

instance : MessageMerges (GetDevice Handle) where

instance : MessageMerges (ToMemoryConfig Handle) where

instance : MessageMerges (ToLayout Handle) where

instance : MessageMerges (Conversion Handle) where

instance : MessageMerges (ToDevice Handle) where

instance : MessageMerges (FromDevice Handle) where

instance : MessageMerges (Empty Handle) where

instance : MessageMerges (Full Handle) where
  join_default := join_full

instance : MessageMerges (Arange Handle) where
  join_default := join_arange

instance : MessageMerges (ConstantFill Handle) where

instance : MessageMerges ClampParameters where
  join_default _ := rfl

instance : MessageMerges ScalarParameters where
  join_default _ := rfl

/-- An elementwise record is merged when its parameters are. -/
theorem merge_elementwise {kind newKind : Coded ElementwiseKind} {inputs newInputs : List Handle}
    {out newOut : Handle} {joined merged : Option ElementwiseParameters} (same : joined = merged) :
    Elementwise.mk (LawfulComponent.join kind newKind) (LawfulComponent.join inputs newInputs)
        (LawfulComponent.join out newOut) joined =
      Elementwise.mk (merge kind newKind) (merge inputs newInputs) (merge out newOut) merged := by
  simp only [same, ComponentMerges.join_eq, Plain.normalized_eq]

instance : MessageMerges (Elementwise Handle) where
  join_default := join_elementwise
  join_eq old new := by
    rcases old with ⟨kind, inputs, out, old⟩
    rcases new with ⟨newKind, newInputs, newOut, _ | bounds | scalar⟩
    · exact merge_elementwise (by cases old <;> rfl)
    · exact merge_elementwise (join_member old bounds fun first => by cases first <;> rfl)
    · exact merge_elementwise (join_member old scalar fun first => by cases first <;> rfl)

instance : MessageMerges (Linear Handle) where

instance : MessageMerges (Matmul Handle) where

instance : MessageMerges (CumulativeSum Handle) where

instance : MessageMerges (Reduction Handle) where

instance : MessageMerges (Product Handle) where

instance : MessageMerges (Embedding Handle) where

instance : MessageMerges (EmbeddingBackward Handle) where

instance : MessageMerges (RepeatInterleave Handle) where

instance : MessageMerges (Softmax Handle) where

instance : MessageMerges (Transpose Handle) where

instance : MessageMerges (Convolution Handle) where

instance : MessageMerges (TransposedConvolution Handle) where

instance : MessageMerges (AllGather Handle) where

instance : MessageMerges (ReduceScatter Handle) where

instance : MessageMerges (MeshShard Handle) where

instance : MessageMerges (Concat Handle) where

instance : MessageMerges (Reshape Handle) where

instance : MessageMerges (RepeatTensor Handle) where

instance : MessageMerges (Pad Handle) where
  join_default := join_pad

instance : MessageMerges (Slice Handle) where

instance : MessageMerges (MaxPool Handle) where

instance : MessageMerges (Deallocate Handle) where

instance : MessageMerges (UpdateCache Handle) where

instance : MessageMerges (FillCache Handle) where

instance : MessageMerges (Permute Handle) where
  join_default := join_permute

instance : MessageMerges UniformScale where

instance : MessageMerges ScalePerDimension where

/-- An upsampling is merged when its scale is. -/
theorem merge_upsample {input newInput out newOut : Handle} {mode newMode : String}
    {memoryConfig newMemoryConfig : Option Handle} {joined merged : Option Scale}
    (same : joined = merged) :
    Upsample.mk (LawfulComponent.join input newInput) joined (LawfulComponent.join mode newMode)
        (LawfulComponent.join memoryConfig newMemoryConfig) (LawfulComponent.join out newOut) =
      Upsample.mk (merge input newInput) merged (merge mode newMode)
        (merge memoryConfig newMemoryConfig) (merge out newOut) := by
  simp only [same, ComponentMerges.join_eq, Plain.normalized_eq]

instance : MessageMerges (Upsample Handle) where
  join_eq old new := by
    rcases old with ⟨input, old, mode, memoryConfig, out⟩
    rcases new with ⟨newInput, _ | factor | factors, newMode, newMemoryConfig, newOut⟩
    · exact merge_upsample (by cases old <;> rfl)
    · exact merge_upsample (join_member old factor fun first => by cases first <;> rfl)
    · exact merge_upsample (join_member old factors fun first => by cases first <;> rfl)

end OperationRecord

/-! ## Programs and artifacts -/

/-- An operation is merged when its record is. -/
theorem merge_entry {debugText newDebugText locationText newLocationText : String}
    {joined merged : Option (OperationRecord Handle)} (same : joined = merged) :
    OperationEntry.mk joined (LawfulComponent.join debugText newDebugText)
        (LawfulComponent.join locationText newLocationText) =
      OperationEntry.mk merged (merge debugText newDebugText)
        (merge locationText newLocationText) := by
  simp only [same, ComponentMerges.join_eq, Plain.normalized_eq]

instance : MessageMerges OperationEntry where
  join_default := join_operationEntry
  join_eq old new := by
    rcases old with ⟨old, debugText, locationText⟩
    rcases new with ⟨_ | record, newDebugText, newLocationText⟩
    · exact merge_entry (by cases old <;> rfl)
    · cases record with
      | _ op => exact merge_entry (join_member old op fun first => by cases first <;> rfl)

instance : MessageMerges ObjectTables where

instance : MessageMerges Program where
  join_default := join_program

instance : MessageMerges Binary where
  join_default := join_binary

/-! ## Message types -/

/-- A type of messages that can be merged. -/
structure MessageType where
  Carrier : Type
  [message : Message Carrier]
  [merging : Merging Carrier]

attribute [instance] MessageType.message MessageType.merging

/-- The message types of artifacts. -/
def messageTypes : List MessageType :=
  [⟨Version⟩, ⟨Extent⟩, ⟨CoreRange⟩, ⟨MemoryRecord⟩, ⟨LayoutRecord⟩, ⟨TensorDescription⟩,
   ⟨TensorRecord⟩, ⟨DeviceRecord⟩, ⟨ShardRecord⟩, ⟨MemoryConfigRecord⟩, ⟨LineCut⟩, ⟨MeshCut⟩,
   ⟨Strategy⟩, ⟨ChipRecord⟩, ⟨ChipPosition⟩, ⟨LinkRecord⟩, ⟨SystemRecord⟩, ⟨Snapshot⟩,
   ⟨GoldenRecord⟩, ⟨GoldenEntry⟩, ⟨GoldenTable⟩, ⟨DebugRecord⟩,
   ⟨OperationRecord.GetDevice Handle⟩, ⟨OperationRecord.ToMemoryConfig Handle⟩,
   ⟨OperationRecord.ToLayout Handle⟩, ⟨OperationRecord.Conversion Handle⟩,
   ⟨OperationRecord.ToDevice Handle⟩, ⟨OperationRecord.FromDevice Handle⟩,
   ⟨OperationRecord.Empty Handle⟩, ⟨OperationRecord.Full Handle⟩, ⟨OperationRecord.Arange Handle⟩,
   ⟨OperationRecord.ConstantFill Handle⟩, ⟨OperationRecord.ClampParameters⟩,
   ⟨OperationRecord.ScalarParameters⟩, ⟨OperationRecord.Elementwise Handle⟩,
   ⟨OperationRecord.Linear Handle⟩, ⟨OperationRecord.Matmul Handle⟩,
   ⟨OperationRecord.CumulativeSum Handle⟩, ⟨OperationRecord.Reduction Handle⟩,
   ⟨OperationRecord.Product Handle⟩, ⟨OperationRecord.Embedding Handle⟩,
   ⟨OperationRecord.EmbeddingBackward Handle⟩, ⟨OperationRecord.RepeatInterleave Handle⟩,
   ⟨OperationRecord.Softmax Handle⟩, ⟨OperationRecord.Transpose Handle⟩,
   ⟨OperationRecord.Convolution Handle⟩, ⟨OperationRecord.TransposedConvolution Handle⟩,
   ⟨OperationRecord.AllGather Handle⟩, ⟨OperationRecord.ReduceScatter Handle⟩,
   ⟨OperationRecord.MeshShard Handle⟩, ⟨OperationRecord.Concat Handle⟩,
   ⟨OperationRecord.Reshape Handle⟩, ⟨OperationRecord.RepeatTensor Handle⟩,
   ⟨OperationRecord.Pad Handle⟩, ⟨OperationRecord.Slice Handle⟩, ⟨OperationRecord.MaxPool Handle⟩,
   ⟨OperationRecord.Deallocate Handle⟩, ⟨OperationRecord.UpdateCache Handle⟩,
   ⟨OperationRecord.FillCache Handle⟩, ⟨OperationRecord.Permute Handle⟩,
   ⟨OperationRecord.UniformScale⟩, ⟨OperationRecord.ScalePerDimension⟩,
   ⟨OperationRecord.Upsample Handle⟩, ⟨OperationEntry⟩, ⟨ObjectTables⟩, ⟨Program⟩, ⟨Binary⟩]

/-- Written messages of a type are read back merged when one follows the other. -/
theorem decode?_append {σ : Type} [Message σ] [LawfulMessage σ] [Merging σ] [MessageMerges σ]
    (shallow : LawfulMessage.depth σ ≤ Message.maximumDepth) (first second : σ)
    (short : (Message.encode first).length < UInt64.size)
    (shortSecond : (Message.encode second).length < UInt64.size) :
    Message.decode? (Message.encode first ++ Message.encode second) =
      some (merge (normalized first) (normalized second)) := by
  rw [decode?_encode_append first second shallow short shortSecond, MessageMerges.join_default,
    MessageMerges.join_eq]

/-- Written messages of every type that artifacts have are read back merged. -/
theorem decode?_append_of_mem {type : MessageType} (listed : type ∈ messageTypes)
    (first second : type.Carrier) (short : (Message.encode first).length < UInt64.size)
    (shortSecond : (Message.encode second).length < UInt64.size) :
    Message.decode? (Message.encode first ++ Message.encode second) =
      some (merge (normalized first) (normalized second)) := by
  revert type
  simp only [messageTypes, List.forall_mem_cons, List.not_mem_nil, IsEmpty.forall_iff,
    implies_true, and_true]
  repeat' apply And.intro
  all_goals exact decode?_append (by decide +kernel)

/-! ## Artifacts -/

/-- The handles of a program, where it holds them. -/
def Program.heldHandles (program : Program) :
    List Handle × List Handle × List (List (Role × Handle)) × Handle :=
  (program.inputs, program.outputs, program.operations.map OperationEntry.slots,
    program.debugInfo)

/-- Reading a program back leaves its handles as they are. -/
theorem Program.heldHandles_normalized (program : Program) :
    program.normalized.heldHandles = program.heldHandles := by
  simp [heldHandles, Program.normalized, Function.comp_def, OperationEntry.slots_normalized]

/-- The records of a table are appended, and a table that is not there is empty. -/
theorem records_merge (first second : Option ObjectTables) (table : Table) :
    ((merge first second).getD {}).records table =
      (first.getD {}).records table ++ (second.getD {}).records table := by
  cases second with
  | none => cases first <;> cases table <;> exact (List.append_nil _).symm
  | some second => cases first <;> cases table <;> rfl

/-- The programs of merged artifacts are listed one after the other. -/
theorem programs_merge (first second : Binary) :
    (merge first.normalized second.normalized).programs =
      (first.programs ++ second.programs).map Program.normalized :=
  List.map_append.symm

/-- Two messages that are written one after the other are read as their merge, whichever
type they have.  In particular, the programs and the tables of two artifacts are appended,
and every handle stays what it is.  The bounds are ones that every byte string in memory
keeps. -/
theorem decode?_append_eq_merge :
    (∀ type ∈ messageTypes, ∀ first second : type.Carrier,
      (Message.encode first).length < UInt64.size →
      (Message.encode second).length < UInt64.size →
      Message.decode? (Message.encode first ++ Message.encode second) =
        some (merge (normalized first) (normalized second))) ∧
    ∀ first second : Binary,
      (Message.encode first).length < UInt64.size →
      (Message.encode second).length < UInt64.size →
      ∃ merged : Binary,
        Message.decode? (Message.encode first ++ Message.encode second) = some merged ∧
        merged.programs = (first.programs ++ second.programs).map Program.normalized ∧
        merged.programs.map Program.heldHandles =
          (first.programs ++ second.programs).map Program.heldHandles ∧
        ∀ table, (merged.objects.getD {}).records table =
          (first.objects.getD {}).records table ++ (second.objects.getD {}).records table := by
  constructor
  · intro type listed first second
    exact decode?_append_of_mem listed first second
  · intro first second short shortSecond
    refine ⟨merge (normalized first) (normalized second),
      decode?_append (by decide +kernel) first second short shortSecond,
      programs_merge first second, ?_, records_merge first.objects second.objects⟩
    have handles : Program.heldHandles ∘ Program.normalized = Program.heldHandles :=
      funext Program.heldHandles_normalized
    have programs : (merge (normalized first) (normalized second)).programs = _ :=
      programs_merge first second
    rw [programs, List.map_map, handles]

/-- An elementwise record that clamps between a negative zero and what is not a number. -/
def clampAbove : OperationRecord.Elementwise Handle where
  kind := ⟨8⟩
  inputs := [0]
  out := 1
  parameters := some (.clamp ⟨⟨0x80000000⟩, ⟨0x7fc00001⟩⟩)

/-- An elementwise record with a clamp whose upper bound is a zero. -/
def clampBelow : OperationRecord.Elementwise Handle where
  kind := ⟨0⟩
  inputs := [2]
  out := 0
  parameters := some (.clamp ⟨⟨0x40000000⟩, ⟨0⟩⟩)

/-- What is read for the two records, one after the other. -/
def clampBetween : OperationRecord.Elementwise Handle where
  kind := ⟨8⟩
  inputs := [0, 2]
  out := 1
  parameters := some (.clamp ⟨⟨0x40000000⟩, ⟨0x7fc00001⟩⟩)

theorem decode?_append_clamps :
    (⟨OperationRecord.Elementwise Handle⟩ : MessageType) ∈ messageTypes ∧
    Message.decode? (Message.encode clampAbove ++ Message.encode clampBelow) =
      some clampBetween ∧
    ∃ merged : Binary,
      Message.decode? (Message.encode (clampAndPad ⟨0x80000000⟩) ++
        Message.encode (clampAndPad ⟨0x3f800000⟩)) = some merged ∧
      merged.programs = (clampAndPad ⟨0⟩).programs ++ (clampAndPad ⟨0x3f800000⟩).programs := by
  obtain ⟨messages, artifacts⟩ := decode?_append_eq_merge
  have listed : (⟨OperationRecord.Elementwise Handle⟩ : MessageType) ∈ messageTypes := by
    simp [messageTypes]
  obtain ⟨merged, read, programs, _⟩ :=
    artifacts (clampAndPad ⟨0x80000000⟩) (clampAndPad ⟨0x3f800000⟩) (by decide +kernel)
      (by decide +kernel)
  exact ⟨listed,
    messages _ listed clampAbove clampBelow (by decide +kernel) (by decide +kernel),
    merged, read, programs⟩

end Tilework.Artifact
