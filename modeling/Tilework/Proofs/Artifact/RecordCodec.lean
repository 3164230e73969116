import Tilework.Artifact.RecordSchema
import Tilework.Proofs.Wire.Message

/-!
# Reading shared records back

Every record of a table, of a system or of debug information is read back from
its wire format exactly as it was written: none of them holds a binary32 number.
-/

namespace Tilework.Artifact

open Wire

/-! ## Enumerations -/

instance {ε : Type} : LawfulWordCoded (Coded ε) where
  ofWord_toWord code := congrArg Coded.mk (LawfulWordCoded.ofWord_toWord code.number)
  ofWord_zero := rfl

-- The messages refer to this instance by its name instead of spelling out its proof.
instance {ε : Type} : LawfulScalar (Coded ε) :=
  inferInstance

/-! ## Geometry -/

instance : LawfulMessage Version := .ofFields (.field (.field (.field .nil)))

instance : ExactMessage Version where

instance : LawfulMessage Extent := .ofFields (.field (.field .nil))

instance : ExactMessage Extent where

instance : LawfulMessage CoreRange := .ofFields (.field (.field .nil))

instance : ExactMessage CoreRange where

/-! ## Tensors and devices -/

instance : LawfulMessage MemoryRecord :=
  .ofFields (.field (.field (.field (.field (.field (.field .nil))))))

instance : ExactMessage MemoryRecord where

instance : LawfulMessage LayoutRecord := .ofFields (.field (.field (.field .nil)))

instance : ExactMessage LayoutRecord where

instance : LawfulMessage TensorDescription := .ofFields (.field (.field .nil))

instance : ExactMessage TensorDescription where

instance : LawfulMessage TensorRecord := .ofFields (.field (.field (.field (.field .nil))))

instance : ExactMessage TensorRecord where

instance : LawfulMessage DeviceRecord := .ofFields (.field .nil)

instance : ExactMessage DeviceRecord where

instance : LawfulMessage ShardRecord := .ofFields (.field .nil)

instance : ExactMessage ShardRecord where

instance : LawfulMessage MemoryConfigRecord := .ofFields (.field (.field (.field .nil)))

instance : ExactMessage MemoryConfigRecord where

instance : LawfulMessage LineCut := .ofFields (.field .nil)

instance : ExactMessage LineCut where

instance : LawfulMessage MeshCut := .ofFields (.field .nil)

instance : ExactMessage MeshCut where

instance : LawfulMessage Strategy := .ofFields (.choice (.cons (.cons .nil)) .nil)

instance : ExactMessage Strategy where
  join_default strategy := by
    rcases strategy with ⟨_ | cut | cut⟩
    · rfl
    · exact congrArg (fun cut => Strategy.mk (some (.line cut))) (ExactMessage.join_default cut)
    · exact congrArg (fun cut => Strategy.mk (some (.mesh cut))) (ExactMessage.join_default cut)

/-! ## Systems -/

instance : LawfulMessage ChipRecord :=
  .ofFields (.field (.field (.field (.field (.field (.field (.field (.field (.field (.field
    (.field (.field .nil))))))))))))

instance : ExactMessage ChipRecord where

instance : LawfulMessage ChipPosition := .ofFields (.field (.field (.field (.field .nil))))

instance : ExactMessage ChipPosition where

instance : LawfulMessage LinkRecord := .ofFields (.field (.field (.field (.field .nil))))

instance : ExactMessage LinkRecord where

instance : LawfulMessage SystemRecord := .ofFields (.field (.field (.field (.field .nil))))

instance : ExactMessage SystemRecord where

/-! ## Debug information -/

instance : LawfulMessage Snapshot := .ofFields (.field (.field .nil))

instance : ExactMessage Snapshot where

instance : LawfulMessage GoldenRecord := .ofFields (.field (.field (.field (.field (.field .nil)))))

instance : ExactMessage GoldenRecord where

instance : LawfulMessage GoldenEntry := .ofFields (.field (.field .nil))

instance : ExactMessage GoldenEntry where

instance : LawfulMessage GoldenTable := .ofFields (.field .nil)

instance : ExactMessage GoldenTable where

instance : LawfulMessage DebugRecord := .ofFields (.field (.field (.field (.field .nil))))

instance : ExactMessage DebugRecord where

end Tilework.Artifact
