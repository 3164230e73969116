/-!
# Kinds of operations

Elementwise operations and reductions are families: one shape of operation with
many kinds.  Every other kind has a shape of its own.  This file also holds the
small types that appear only as attributes of operations.
-/

namespace Tilework

/-! ## Families -/

/-- The kinds of elementwise operations. -/
inductive ElementwiseKind
  | abs
  | add
  | bitwiseAnd
  | bitwiseNot
  | bitwiseOr
  | bitwiseXor
  | cbrt
  | ceil
  | clamp
  | cos
  | div
  | equal
  | exp
  | expm1
  | floor
  | gelu
  | greaterEqual
  | greaterThan
  | isFinite
  | leakyRelu
  | lessEqual
  | lessThan
  | log
  | log1p
  | logicalAnd
  | logicalNot
  | logicalOr
  | logicalXor
  | maximum
  | minimum
  | multiply
  | neg
  | notEqual
  | power
  | reciprocal
  | relu
  | remainder
  | rsqrt
  | scatter
  | sigmoid
  | sign
  | sin
  | sqrt
  | subtract
  | tan
  | tanh
  | select
  deriving DecidableEq, Inhabited

namespace ElementwiseKind

/-- All elementwise kinds. -/
def all : List ElementwiseKind :=
  [.abs, .add, .bitwiseAnd, .bitwiseNot, .bitwiseOr, .bitwiseXor, .cbrt, .ceil, .clamp, .cos,
    .div, .equal, .exp, .expm1, .floor, .gelu, .greaterEqual, .greaterThan, .isFinite,
    .leakyRelu, .lessEqual, .lessThan, .log, .log1p, .logicalAnd, .logicalNot, .logicalOr,
    .logicalXor, .maximum, .minimum, .multiply, .neg, .notEqual, .power, .reciprocal, .relu,
    .remainder, .rsqrt, .scatter, .sigmoid, .sign, .sin, .sqrt, .subtract, .tan, .tanh, .select]

/-- The title of a kind. -/
def title : ElementwiseKind → String
  | abs => "Abs"
  | add => "Add"
  | bitwiseAnd => "BitwiseAnd"
  | bitwiseNot => "BitwiseNot"
  | bitwiseOr => "BitwiseOr"
  | bitwiseXor => "BitwiseXor"
  | cbrt => "Cbrt"
  | ceil => "Ceil"
  | clamp => "Clamp"
  | cos => "Cos"
  | div => "Div"
  | equal => "Equal"
  | exp => "Exp"
  | expm1 => "Expm1"
  | floor => "Floor"
  | gelu => "Gelu"
  | greaterEqual => "GreaterEqual"
  | greaterThan => "GreaterThan"
  | isFinite => "IsFinite"
  | leakyRelu => "LeakyRelu"
  | lessEqual => "LessEqual"
  | lessThan => "LessThan"
  | log => "Log"
  | log1p => "Log1p"
  | logicalAnd => "LogicalAnd"
  | logicalNot => "LogicalNot"
  | logicalOr => "LogicalOr"
  | logicalXor => "LogicalXor"
  | maximum => "Maximum"
  | minimum => "Minimum"
  | multiply => "Multiply"
  | neg => "Neg"
  | notEqual => "NotEqual"
  | power => "Power"
  | reciprocal => "Reciprocal"
  | relu => "Relu"
  | remainder => "Remainder"
  | rsqrt => "Rsqrt"
  | scatter => "Scatter"
  | sigmoid => "Sigmoid"
  | sign => "Sign"
  | sin => "Sin"
  | sqrt => "Sqrt"
  | subtract => "Subtract"
  | tan => "Tan"
  | tanh => "Tanh"
  | select => "Where"

/-- The name of operations of a kind, without their dialect. -/
def mnemonic : ElementwiseKind → String
  | abs => "abs"
  | add => "add"
  | bitwiseAnd => "bitwise_and"
  | bitwiseNot => "bitwise_not"
  | bitwiseOr => "bitwise_or"
  | bitwiseXor => "bitwise_xor"
  | cbrt => "cbrt"
  | ceil => "ceil"
  | clamp => "clamp"
  | cos => "cos"
  | div => "div"
  | equal => "eq"
  | exp => "exp"
  | expm1 => "expm1"
  | floor => "floor"
  | gelu => "gelu"
  | greaterEqual => "ge"
  | greaterThan => "gt"
  | isFinite => "isfinite"
  | leakyRelu => "leaky_relu"
  | lessEqual => "le"
  | lessThan => "lt"
  | log => "log"
  | log1p => "log1p"
  | logicalAnd => "logical_and"
  | logicalNot => "logical_not"
  | logicalOr => "logical_or"
  | logicalXor => "logical_xor"
  | maximum => "maximum"
  | minimum => "minimum"
  | multiply => "multiply"
  | neg => "neg"
  | notEqual => "ne"
  | power => "pow"
  | reciprocal => "reciprocal"
  | relu => "relu"
  | remainder => "remainder"
  | rsqrt => "rsqrt"
  | scatter => "scatter"
  | sigmoid => "sigmoid"
  | sign => "sign"
  | sin => "sin"
  | sqrt => "sqrt"
  | subtract => "subtract"
  | tan => "tan"
  | tanh => "tanh"
  | select => "where"

/-- The full name of operations of a kind. -/
def operationName (kind : ElementwiseKind) : String :=
  "ttnn." ++ kind.mnemonic

end ElementwiseKind

/-- The kinds of reductions. -/
inductive ReductionKind
  | sum
  | mean
  | max
  | min
  deriving DecidableEq, Inhabited

namespace ReductionKind

/-- All kinds of reductions. -/
def all : List ReductionKind :=
  [.sum, .mean, .max, .min]

/-- The title of a kind. -/
def title : ReductionKind → String
  | sum => "Sum"
  | mean => "Mean"
  | max => "Max"
  | min => "Min"

/-- The name of operations of a kind, without their dialect. -/
def mnemonic : ReductionKind → String
  | sum => "sum"
  | mean => "mean"
  | max => "max"
  | min => "min"

/-- The full name of operations of a kind. -/
def operationName (kind : ReductionKind) : String :=
  "ttnn." ++ kind.mnemonic

end ReductionKind

/-! ## All kinds -/

/-- The kinds of operations that can be lowered. -/
inductive OperationKind
  | getDevice
  | toMemoryConfig
  | toLayout
  | toDType
  | typecast
  | toDevice
  | fromDevice
  | empty
  | full
  | arange
  | zeros
  | ones
  | linear
  | matmul
  | cumulativeSum
  | product
  | embedding
  | embeddingBackward
  | repeatInterleave
  | softmax
  | transpose
  | convolution
  | transposedConvolution
  | allGather
  | reduceScatter
  | meshShard
  | concat
  | reshape
  | repeatTensor
  | pad
  | slice
  | maxPool
  | deallocate
  | updateCache
  | fillCache
  | permute
  | upsample
  | elementwise (kind : ElementwiseKind)
  | reduction (kind : ReductionKind)
  deriving DecidableEq

namespace OperationKind

/-- The kinds that are no member of a family. -/
def plain : List OperationKind :=
  [.getDevice, .toMemoryConfig, .toLayout, .toDType, .typecast, .toDevice, .fromDevice, .empty,
    .full, .arange, .zeros, .ones, .linear, .matmul, .cumulativeSum, .product, .embedding,
    .embeddingBackward, .repeatInterleave, .softmax, .transpose, .convolution,
    .transposedConvolution, .allGather, .reduceScatter, .meshShard, .concat, .reshape,
    .repeatTensor, .pad, .slice, .maxPool, .deallocate, .updateCache, .fillCache, .permute,
    .upsample]

/-- All kinds, the members of families last. -/
def all : List OperationKind :=
  plain ++ ElementwiseKind.all.map elementwise ++ ReductionKind.all.map reduction

/-- The title of a kind. -/
def title : OperationKind → String
  | getDevice => "GetDevice"
  | toMemoryConfig => "ToMemoryConfig"
  | toLayout => "ToLayout"
  | toDType => "ToDType"
  | typecast => "Typecast"
  | toDevice => "ToDevice"
  | fromDevice => "FromDevice"
  | empty => "Empty"
  | full => "Full"
  | arange => "Arange"
  | zeros => "Zeros"
  | ones => "Ones"
  | linear => "Linear"
  | matmul => "Matmul"
  | cumulativeSum => "MorehCumSum"
  | product => "Prod"
  | embedding => "Embedding"
  | embeddingBackward => "EmbeddingBackward"
  | repeatInterleave => "RepeatInterleave"
  | softmax => "Softmax"
  | transpose => "Transpose"
  | convolution => "Conv2d"
  | transposedConvolution => "ConvTranspose2d"
  | allGather => "AllGather"
  | reduceScatter => "ReduceScatter"
  | meshShard => "MeshShard"
  | concat => "Concat"
  | reshape => "Reshape"
  | repeatTensor => "Repeat"
  | pad => "Pad"
  | slice => "Slice"
  | maxPool => "MaxPool2d"
  | deallocate => "Deallocate"
  | updateCache => "UpdateCache"
  | fillCache => "FillCache"
  | permute => "Permute"
  | upsample => "Upsample"
  | elementwise kind => "Eltwise(" ++ kind.title ++ ")"
  | reduction kind => "Reduction(" ++ kind.title ++ ")"

end OperationKind

/-! ## Attributes -/

/-- The reductions that collective operations can apply. -/
inductive CollectiveReduction
  | sum
  | mean
  | max
  | min
  | std
  | var
  deriving DecidableEq, Inhabited

namespace CollectiveReduction

/-- All collective reductions. -/
def all : List CollectiveReduction :=
  [.sum, .mean, .max, .min, .std, .var]

/-- The printed name of a collective reduction. -/
def text : CollectiveReduction → String
  | sum => "sum"
  | mean => "mean"
  | max => "max"
  | min => "min"
  | std => "std"
  | var => "var"

end CollectiveReduction

/-- Whether a tensor is cut into shards or put together from them. -/
inductive ShardDirection
  | fullToShard
  | shardToFull
  deriving DecidableEq, Inhabited

namespace ShardDirection

/-- Both directions. -/
def all : List ShardDirection :=
  [fullToShard, shardToFull]

/-- The printed name of a direction. -/
def text : ShardDirection → String
  | fullToShard => "full_to_shard"
  | shardToFull => "shard_to_full"

end ShardDirection

/-- A pair of attributes for the two spatial dimensions. -/
structure Spatial (α : Type) where
  height : α
  width : α
  deriving DecidableEq, Inhabited

namespace Spatial

/-- The pair as a list, the height first. -/
def toList {α : Type} (pair : Spatial α) : List α :=
  [pair.height, pair.width]

end Spatial

/-- The factor of an upsampling, one for both dimensions or one for each. -/
inductive ScaleFactor
  | uniform (scale : Int32)
  | perDimension (scales : List Int32)
  deriving DecidableEq

end Tilework
