import Tilework.Artifact.Frame
import Tilework.Proofs.Artifact.RecordCodec

/-!
# Reading artifacts back

An artifact is read back from its wire format as it was written, up to the sign
of zeros: a binary32 number that is zero is not written, so a negative zero comes
back as a positive one.  Everything else survives, numbers that are not numbers
among it.
-/

namespace Tilework

/-- The number that is read back for a binary32 number. -/
def Single.normalized (number : Single) : Single :=
  if number.isZero then .zero else number

namespace Artifact

open Wire

/-! ## Operation records -/

namespace OperationRecord

instance : LawfulMessage (GetDevice Handle) := .ofFields (.field (.field (.field .nil)))

instance : ExactMessage (GetDevice Handle) where

instance : LawfulMessage (ToMemoryConfig Handle) := .ofFields (.field (.field (.field .nil)))

instance : ExactMessage (ToMemoryConfig Handle) where

instance : LawfulMessage (ToLayout Handle) :=
  .ofFields (.field (.field (.field (.field (.field (.field .nil))))))

instance : ExactMessage (ToLayout Handle) where

instance : LawfulMessage (Conversion Handle) := .ofFields (.field (.field (.field .nil)))

instance : ExactMessage (Conversion Handle) where

instance : LawfulMessage (ToDevice Handle) := .ofFields (.field (.field (.field (.field .nil))))

instance : ExactMessage (ToDevice Handle) where

instance : LawfulMessage (FromDevice Handle) := .ofFields (.field (.field .nil))

instance : ExactMessage (FromDevice Handle) where

instance : LawfulMessage (Empty Handle) :=
  .ofFields (.field (.field (.field (.field (.field (.field (.field (.field .nil))))))))

instance : ExactMessage (Empty Handle) where

instance : LawfulMessage (Full Handle) :=
  .ofFields (.field (.field (.field (.field (.field .nil)))))

instance : LawfulMessage (Arange Handle) :=
  .ofFields (.field (.field (.field (.field (.field (.field (.field .nil)))))))

instance : LawfulMessage (ConstantFill Handle) :=
  .ofFields (.field (.field (.field (.field (.field (.field .nil))))))

instance : ExactMessage (ConstantFill Handle) where

instance : LawfulMessage ClampParameters := .ofFields (.field (.field .nil))

instance : LawfulMessage ScalarParameters := .ofFields (.field .nil)

instance : LawfulMessage (Elementwise Handle) :=
  .ofFields (.field (.field (.field (.choice (.cons (.cons .nil)) .nil))))

instance : LawfulMessage (Linear Handle) := .ofFields (.field (.field (.field (.field .nil))))

instance : ExactMessage (Linear Handle) where

instance : LawfulMessage (Matmul Handle) := .ofFields (.field (.field (.field .nil)))

instance : ExactMessage (Matmul Handle) where

instance : LawfulMessage (CumulativeSum Handle) :=
  .ofFields (.field (.field (.field (.field .nil))))

instance : ExactMessage (CumulativeSum Handle) where

instance : LawfulMessage (Reduction Handle) :=
  .ofFields (.field (.field (.field (.field (.field .nil)))))

instance : ExactMessage (Reduction Handle) where

instance : LawfulMessage (Product Handle) :=
  .ofFields (.field (.field (.field (.field (.field (.field .nil))))))

instance : ExactMessage (Product Handle) where

instance : LawfulMessage (Embedding Handle) := .ofFields (.field (.field (.field .nil)))

instance : ExactMessage (Embedding Handle) where

instance : LawfulMessage (EmbeddingBackward Handle) :=
  .ofFields (.field (.field (.field (.field (.field (.field .nil))))))

instance : ExactMessage (EmbeddingBackward Handle) where

instance : LawfulMessage (RepeatInterleave Handle) :=
  .ofFields (.field (.field (.field (.field (.field .nil)))))

instance : ExactMessage (RepeatInterleave Handle) where

instance : LawfulMessage (Softmax Handle) := .ofFields (.field (.field (.field .nil)))

instance : ExactMessage (Softmax Handle) where

instance : LawfulMessage (Transpose Handle) := .ofFields (.field (.field (.field (.field .nil))))

instance : ExactMessage (Transpose Handle) where

instance : LawfulMessage (Convolution Handle) :=
  .ofFields (.field (.field (.field (.field (.field (.field (.field (.field (.field (.field
    (.field (.field (.field (.field (.field (.field (.field (.field (.field
    .nil)))))))))))))))))))

instance : ExactMessage (Convolution Handle) where

instance : LawfulMessage (TransposedConvolution Handle) :=
  .ofFields (.field (.field (.field (.field (.field (.field (.field (.field (.field (.field
    (.field (.field (.field (.field (.field (.field .nil))))))))))))))))

instance : ExactMessage (TransposedConvolution Handle) where

instance : LawfulMessage (AllGather Handle) :=
  .ofFields (.field (.field (.field (.field (.field .nil)))))

instance : ExactMessage (AllGather Handle) where

instance : LawfulMessage (ReduceScatter Handle) :=
  .ofFields (.field (.field (.field (.field (.field (.field .nil))))))

instance : ExactMessage (ReduceScatter Handle) where

instance : LawfulMessage (MeshShard Handle) :=
  .ofFields (.field (.field (.field (.field (.field (.field (.field .nil)))))))

instance : ExactMessage (MeshShard Handle) where

instance : LawfulMessage (Concat Handle) := .ofFields (.field (.field (.field (.field .nil))))

instance : ExactMessage (Concat Handle) where

instance : LawfulMessage (Reshape Handle) := .ofFields (.field (.field (.field .nil)))

instance : ExactMessage (Reshape Handle) where

instance : LawfulMessage (RepeatTensor Handle) := .ofFields (.field (.field (.field .nil)))

instance : ExactMessage (RepeatTensor Handle) where

instance : LawfulMessage (Pad Handle) :=
  .ofFields (.field (.field (.field (.field (.field (.field .nil))))))

instance : LawfulMessage (Slice Handle) :=
  .ofFields (.field (.field (.field (.field (.field .nil)))))

instance : ExactMessage (Slice Handle) where

instance : LawfulMessage (MaxPool Handle) :=
  .ofFields (.field (.field (.field (.field (.field (.field (.field (.field (.field (.field
    (.field (.field (.field (.field (.field (.field .nil))))))))))))))))

instance : ExactMessage (MaxPool Handle) where

instance : LawfulMessage (Deallocate Handle) := .ofFields (.field (.field .nil))

instance : ExactMessage (Deallocate Handle) where

instance : LawfulMessage (UpdateCache Handle) := .ofFields (.field (.field (.field (.field .nil))))

instance : ExactMessage (UpdateCache Handle) where

instance : LawfulMessage (FillCache Handle) := .ofFields (.field (.field (.field .nil)))

instance : ExactMessage (FillCache Handle) where

instance : LawfulMessage (Permute Handle) :=
  .ofFields (.field (.field (.field (.field (.field .nil)))))

instance : LawfulMessage UniformScale := .ofFields (.field .nil)

instance : ExactMessage UniformScale where

instance : LawfulMessage ScalePerDimension := .ofFields (.field .nil)

instance : ExactMessage ScalePerDimension where

instance : LawfulMessage (Upsample Handle) :=
  .ofFields (.field (.choice (.cons (.cons .nil)) (.field (.field (.field .nil)))))

/-! ### Signs of zeros -/

/-- The bounds that are read back for the bounds of a clamp. -/
def ClampParameters.normalized (bounds : ClampParameters) : ClampParameters where
  min := bounds.min.normalized
  max := bounds.max.normalized

/-- The number that is read back for a single number. -/
def ScalarParameters.normalized (scalar : ScalarParameters) : ScalarParameters where
  value := scalar.value.normalized

/-- The parameters that are read back for those of an elementwise record. -/
def ElementwiseParameters.normalized : ElementwiseParameters → ElementwiseParameters
  | clamp bounds => clamp bounds.normalized
  | scalar value => scalar value.normalized

/-- The record that is read back for an operation record. -/
def normalized {ρ : Type} : OperationRecord ρ → OperationRecord ρ
  | full op => full { op with fillValue := op.fillValue.normalized }
  | arange op =>
      arange
        { op with
          start := op.start.normalized
          stop := op.stop.normalized
          step := op.step.normalized }
  | elementwise op =>
      elementwise { op with parameters := op.parameters.map ElementwiseParameters.normalized }
  | pad op => pad { op with value := op.value.normalized }
  | permute op => permute { op with padValue := op.padValue.normalized }
  | record => record

theorem join_full (op : Full Handle) :
    LawfulMessage.join default op = { op with fillValue := op.fillValue.normalized } := by
  simp only [LawfulMessage.join]
  congr 1 <;> first | rfl | exact LawfulComponent.join_eq _ rfl

theorem join_arange (op : Arange Handle) :
    LawfulMessage.join default op =
      { op with
        start := op.start.normalized
        stop := op.stop.normalized
        step := op.step.normalized } := by
  simp only [LawfulMessage.join]
  congr 1 <;> first | rfl | exact LawfulComponent.join_eq _ rfl

theorem join_pad (op : Pad Handle) :
    LawfulMessage.join default op = { op with value := op.value.normalized } := by
  simp only [LawfulMessage.join]
  congr 1 <;> first | rfl | exact LawfulComponent.join_eq _ rfl

theorem join_permute (op : Permute Handle) :
    LawfulMessage.join default op = { op with padValue := op.padValue.normalized } := by
  simp only [LawfulMessage.join]
  congr 1 <;> first | rfl | exact LawfulComponent.join_eq _ rfl

theorem join_elementwise (op : Elementwise Handle) :
    LawfulMessage.join default op =
      { op with parameters := op.parameters.map ElementwiseParameters.normalized } := by
  rcases op with ⟨kind, inputs, out, _ | bounds | scalar⟩
  all_goals
    simp only [LawfulMessage.join]
    congr 1
    all_goals first | rfl | exact LawfulComponent.join_eq _ rfl

theorem join_upsample (op : Upsample Handle) : LawfulMessage.join default op = op := by
  rcases op with ⟨input, _ | factor | factors, mode, memoryConfig, out⟩
  all_goals
    simp only [LawfulMessage.join]
    congr 1
    all_goals
      first
      | exact congrArg (fun factor => some (Scale.uniform factor))
          (ExactMessage.join_default factor)
      | exact congrArg (fun factors => some (Scale.perDimension factors))
          (ExactMessage.join_default factors)
      | exact LawfulComponent.join_eq _ rfl

instance : ExactMessage (Upsample Handle) where
  join_default := join_upsample

end OperationRecord

/-! ## Programs and artifacts -/

instance : LawfulMessage OperationEntry :=
  .ofFields (.choice
    (.cons (.cons (.cons (.cons (.cons (.cons (.cons (.cons (.cons (.cons (.cons (.cons (.cons
      (.cons (.cons (.cons (.cons (.cons (.cons (.cons (.cons (.cons (.cons (.cons (.cons (.cons
      (.cons (.cons (.cons (.cons (.cons (.cons (.cons (.cons (.cons (.cons (.cons (.cons (.cons
      .nil)))))))))))))))))))))))))))))))))))))))
    (.field (.field .nil)))

instance : LawfulMessage ObjectTables :=
  .ofFields (.field (.field (.field (.field (.field (.field (.field .nil)))))))

instance : ExactMessage ObjectTables where

instance : LawfulMessage Program :=
  .ofFields (.field (.field (.field (.field (.field .nil)))))

instance : LawfulMessage Binary :=
  .ofFields (.field (.field (.field (.field (.field .nil)))))

/-- The operation that is read back for an operation of a program. -/
def OperationEntry.normalized (entry : OperationEntry) : OperationEntry :=
  { entry with record := entry.record.map OperationRecord.normalized }

/-- The program that is read back for a program. -/
def Program.normalized (program : Program) : Program :=
  { program with operations := program.operations.map OperationEntry.normalized }

/-- The artifact that is read back for an artifact. -/
def Binary.normalized (binary : Binary) : Binary :=
  { binary with programs := binary.programs.map Program.normalized }

/-- An operation is read back when the record of its kind is. -/
theorem join_entry {σ : Type} [Message σ] [LawfulMessage σ] {wrap : σ → OperationRecord Handle}
    {op read : σ} {record : OperationRecord Handle} {debugText locationText : String}
    (same : LawfulMessage.join default op = read) (wrapped : wrap read = record) :
    OperationEntry.mk (some (wrap (LawfulMessage.join default op)))
        (LawfulComponent.join "" debugText) (LawfulComponent.join "" locationText) =
      OperationEntry.mk (some record) debugText locationText := by
  have text (value : String) : LawfulComponent.join "" value = value :=
    LawfulComponent.join_eq value rfl
  rw [same, wrapped, text, text]

theorem join_operationEntry (entry : OperationEntry) :
    LawfulMessage.join default entry = entry.normalized := by
  rcases entry with ⟨_ | record, debugText, locationText⟩
  · simp only [LawfulMessage.join]
    congr 1
    · exact LawfulComponent.join_eq debugText rfl
    · exact LawfulComponent.join_eq locationText rfl
  · cases record with
    | full op => exact join_entry (OperationRecord.join_full op) rfl
    | arange op => exact join_entry (OperationRecord.join_arange op) rfl
    | elementwise op => exact join_entry (OperationRecord.join_elementwise op) rfl
    | pad op => exact join_entry (OperationRecord.join_pad op) rfl
    | permute op => exact join_entry (OperationRecord.join_permute op) rfl
    | _ op => exact join_entry (ExactMessage.join_default op) rfl

theorem join_program (program : Program) :
    LawfulMessage.join default program = program.normalized := by
  have operations : (LawfulMessage.join default : OperationEntry → OperationEntry) =
      OperationEntry.normalized := funext join_operationEntry
  rcases program with ⟨name, inputs, outputs, entries, debugInfo⟩
  have entriesRead : LawfulComponent.join [] entries = entries.map OperationEntry.normalized := by
    rw [← operations]
    rfl
  simp only [LawfulMessage.join]
  congr 1
  · exact LawfulComponent.join_eq name rfl
  · exact LawfulComponent.join_eq debugInfo rfl

theorem join_binary (binary : Binary) :
    LawfulMessage.join default binary = binary.normalized := by
  have programs : (LawfulMessage.join default : Program → Program) = Program.normalized :=
    funext join_program
  rcases binary with ⟨version, buildIdentity, system, objects, listed⟩
  have programsRead : LawfulComponent.join [] listed = listed.map Program.normalized := by
    rw [← programs]
    rfl
  simp only [LawfulMessage.join]
  congr 1
  all_goals exact LawfulComponent.join_eq _ rfl

/-- A written artifact is read back, up to the sign of zeros. -/
theorem decode?_encode_binary (binary : Binary)
    (short : (Message.encode binary).length < UInt64.size) :
    Message.decode? (Message.encode binary) = some binary.normalized := by
  rw [decode?_encode binary (by decide +kernel) short, join_binary]

end Artifact

end Tilework
