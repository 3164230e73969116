import Tilework.Device.System
import Tilework.Operation.Kind
import Tilework.Sharding.Basic
import Tilework.Tensor.Placement
import Tilework.Wire.Message

/-!
# Enumerations in artifacts

An enumeration field of an artifact holds a number.  The members of an
enumeration are numbered from zero in a fixed order, which need not be the order
of their declaration.  A field that has been read may hold any number at all;
verification later asks whether it is the number of a member.
-/

namespace Tilework.Artifact

/-- Types whose values are numbered in artifacts. -/
class Enumeration (ε : Type) where
  /-- The name of the enumeration in messages. -/
  label : String
  /-- The members, in the order of their numbers. -/
  members : List ε

/-- The content of an enumeration field. -/
structure Coded (ε : Type) where
  number : Int32
  deriving DecidableEq, Inhabited

namespace Coded

variable {ε : Type} [Enumeration ε]

/-- The number of a member. -/
def of [BEq ε] (value : ε) : Coded ε :=
  ⟨Int32.ofNat (Enumeration.members.idxOf value)⟩

/-- Whether the number is that of a member. -/
def isKnown (code : Coded ε) : Bool :=
  0 ≤ code.number.toInt && code.number.toInt < (Enumeration.members : List ε).length

end Coded

instance {ε : Type} : Wire.WordCoded (Coded ε) where
  toWord code := Wire.WordCoded.toWord code.number
  ofWord word := ⟨Wire.WordCoded.ofWord word⟩

/-! ## Enumerations of the program -/

instance : Enumeration DataType := ⟨"DataType", DataType.all⟩

instance : Enumeration DataFormat := ⟨"TensorLayout", DataFormat.all⟩

instance : Enumeration Architecture := ⟨"Arch", Architecture.all⟩

instance : Enumeration ShardDirection := ⟨"MeshShardDirection", ShardDirection.all⟩

instance : Enumeration ShardKind := ⟨"MeshShardType", ShardKind.all⟩

instance : Enumeration ElementwiseKind := ⟨"EltwiseOpType", ElementwiseKind.all⟩

instance : Enumeration ReductionKind := ⟨"ReductionOpType", ReductionKind.all⟩

instance : Enumeration Buffer :=
  ⟨"BufferType", [.dram, .l1, .systemMemory, .l1Small, .trace]⟩

/-- Tensors on the host, which have no bank layout, are numbered with the bank
layouts. -/
instance : Enumeration (Option BankLayout) :=
  ⟨"TensorMemoryLayout",
    [none, some .interleaved, some .singleBank, some .heightSharded, some .widthSharded,
      some .blockSharded]⟩

/-! ## Enumerations of the artifact alone -/

/-- The memory spaces of the machine that runs an artifact. -/
inductive MemorySpace
  | system
  | systemMapped
  | deviceDram
  | deviceL1
  deriving DecidableEq, Inhabited

instance : Enumeration MemorySpace :=
  ⟨"MemorySpace", [.system, .systemMapped, .deviceDram, .deviceL1]⟩

/-- What a read outside the bounds of a padded tensor yields. -/
inductive OutOfBounds
  | undefined
  | zero
  | one
  | infinity
  | negativeInfinity
  deriving DecidableEq, Inhabited

instance : Enumeration OutOfBounds :=
  ⟨"OobVal", [.undefined, .zero, .one, .infinity, .negativeInfinity]⟩

end Tilework.Artifact
