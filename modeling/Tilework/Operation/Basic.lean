import Tilework.Device.MemoryConfig
import Tilework.Number.Single
import Tilework.Operation.Kind
import Tilework.Sharding.Basic
import Tilework.Tensor.ValueType

/-!
# Operations of device programs

Every operation names the values that it reads and defines, and its attributes.
Some operations write their result into a tensor that is handed to them, called
`output` below; the result is then that same tensor.  Operations of dialects
that are not known here keep their name, operands and results only.
-/

namespace Tilework

namespace Operation

/-! ## Devices, memory and formats -/

/-- Open the device described by the type of the result. -/
structure GetDevice where
  result : ValueId

/-- Move a tensor to another memory configuration. -/
structure ToMemoryConfig where
  input : ValueId
  memoryConfig : MemoryConfig
  result : ValueId

/-- Convert a tensor between rows of scalars and tiles, and possibly its data
type, memory and device along with it. -/
structure ToLayout where
  input : ValueId
  format : DataFormat
  dataType : Option DataType
  memoryConfig : Option MemoryConfig
  device : Option ValueId
  result : ValueId

/-- Convert the data type of a tensor, on the host or on a device. -/
structure Conversion where
  input : ValueId
  dataType : DataType
  result : ValueId

/-- Copy a tensor to a device. -/
structure ToDevice where
  input : ValueId
  device : ValueId
  memoryConfig : Option MemoryConfig
  result : ValueId

/-- Copy a tensor back to the host. -/
structure FromDevice where
  input : ValueId
  result : ValueId

/-- Give up the memory of a tensor. -/
structure Deallocate where
  input : ValueId
  force : Bool

/-! ## Creation -/

/-- Allocate a tensor, on every device of the mesh when a device is given. -/
structure Empty where
  shape : List Int64
  dataType : DataType
  format : DataFormat
  device : Option ValueId
  memoryConfig : MemoryConfig
  result : ValueId

/-- Create a tensor filled with one number. -/
structure Full where
  device : Option ValueId
  fillValue : Single
  result : ValueId

/-- Create the row `start, start + step, …` that ends before `stop`. -/
structure Arange where
  start : Int64
  stop : Int64
  step : Int64
  dataType : Option DataType
  device : Option ValueId
  memoryConfig : Option MemoryConfig
  result : ValueId

/-- Create a tensor filled with zeros or ones. -/
structure ConstantFill where
  shape : List Int64
  dataType : Option DataType
  format : Option DataFormat
  device : Option ValueId
  memoryConfig : Option MemoryConfig
  result : ValueId

/-! ## Elementwise operations -/

/-- The numbers that a few elementwise kinds carry. -/
inductive ElementwiseParameters
  /-- The bounds of a clamp. -/
  | clamp (min max : Single)
  /-- A single number, such as the slope of a leaky rectifier. -/
  | scalar (value : Single)
  deriving DecidableEq

/-- An elementwise operation on any number of tensors. -/
structure Elementwise where
  kind : ElementwiseKind
  inputs : List ValueId
  output : Option ValueId
  parameters : Option ElementwiseParameters := none
  result : ValueId

/-- An operation without parameters that writes into `output`. -/
def Elementwise.into (kind : ElementwiseKind) (inputs : List ValueId)
    (output result : ValueId) : Elementwise :=
  { kind, inputs, output := some output, result }

/-- A clamp, which allocates its own result. -/
def Elementwise.clamp (input : ValueId) (min max : Single) (result : ValueId) :
    Elementwise :=
  { kind := .clamp, inputs := [input], output := none,
    parameters := some (.clamp min max), result }

/-- A leaky rectifier with the given slope for negative numbers. -/
def Elementwise.leakyRelu (input : ValueId) (slope : Single) (output result : ValueId) :
    Elementwise :=
  { kind := .leakyRelu, inputs := [input], output := some output,
    parameters := some (.scalar slope), result }

/-! ## Products, sums and lookups -/

/-- The product of two matrices plus a bias. -/
structure Linear where
  a : ValueId
  b : ValueId
  bias : Option ValueId
  output : ValueId
  result : ValueId

/-- The product of two matrices. -/
structure Matmul where
  a : ValueId
  b : ValueId
  output : ValueId
  result : ValueId

/-- Running sums along one dimension. -/
structure CumulativeSum where
  input : ValueId
  output : ValueId
  dim : Int64
  memoryConfig : Option MemoryConfig
  result : ValueId

/-- A reduction over the given dimensions, or over all of them. -/
structure Reduction where
  kind : ReductionKind
  input : ValueId
  dims : Option (List Int32)
  keepDim : Bool
  result : ValueId

/-- A product over one dimension or over all of them. -/
structure Product where
  input : ValueId
  allDimensions : Bool
  dim : Int64
  keepDim : Bool
  memoryConfig : Option MemoryConfig
  result : ValueId

/-- Look up the rows of a table of weights. -/
structure Embedding where
  input : ValueId
  weight : ValueId
  output : ValueId
  result : ValueId

/-- The gradient of a lookup with respect to its table. -/
structure EmbeddingBackward where
  input : ValueId
  weight : ValueId
  inGradient : ValueId
  dataType : Option DataType
  memoryConfig : Option MemoryConfig
  output : ValueId
  result : ValueId

/-- Normalised exponentials along one dimension. -/
structure Softmax where
  input : ValueId
  dimension : Int32
  result : ValueId

/-! ## Windows -/

/-- A convolution over an input whose batch, height and width are flattened into
one dimension. -/
structure Convolution where
  input : ValueId
  weight : ValueId
  bias : Option ValueId
  output : ValueId
  device : ValueId
  inChannels : UInt32
  outChannels : UInt32
  batchSize : UInt32
  inputHeight : UInt32
  inputWidth : UInt32
  kernelSize : Spatial UInt32
  stride : Spatial UInt32
  padding : Spatial UInt32
  dilation : Spatial UInt32
  groups : UInt32
  result : ValueId

/-- A transposed convolution. -/
structure TransposedConvolution where
  input : ValueId
  weight : ValueId
  bias : Option ValueId
  output : ValueId
  device : ValueId
  inChannels : UInt32
  outChannels : UInt32
  batchSize : UInt32
  inputHeight : UInt32
  inputWidth : UInt32
  kernelSize : Spatial Int32
  stride : Spatial Int32
  padding : Spatial Int32
  outputPadding : Spatial Int32
  dilation : Spatial Int32
  groups : UInt32
  result : ValueId

/-- The maximum of every window. -/
structure MaxPool where
  input : ValueId
  output : ValueId
  device : ValueId
  batchSize : Int32
  inputHeight : Int32
  inputWidth : Int32
  channels : Int32
  kernelSize : Spatial Int32
  stride : Spatial Int32
  dilation : Spatial Int32
  ceilMode : Bool
  padding : Spatial Int32
  result : ValueId

/-- Enlarge the spatial dimensions by an interpolation of the given mode. -/
structure Upsample where
  input : ValueId
  scaleFactor : ScaleFactor
  mode : String
  memoryConfig : Option MemoryConfig
  result : ValueId

/-! ## Meshes -/

/-- Gather the shards of a tensor from all devices along one dimension. -/
structure AllGather where
  input : ValueId
  device : ValueId
  dim : Int32
  numLinks : UInt32
  result : ValueId

/-- Reduce over all devices and scatter the result along one dimension. -/
structure ReduceScatter where
  input : ValueId
  device : ValueId
  scatterSplitDim : Int32
  mathOp : CollectiveReduction
  numLinks : UInt32
  result : ValueId

/-- Cut a tensor into the shards of a mesh, or put it together from them. -/
structure MeshShard where
  input : ValueId
  device : ValueId
  shardDirection : ShardDirection
  shardKind : ShardKind
  shardShape : List Int64
  shardDims : List Int64
  result : ValueId

/-- Cut or put together a tensor along a given sharding. -/
def MeshShard.ofSharding (input device : ValueId) (shardDirection : ShardDirection)
    (sharding : Sharding) (result : ValueId) : MeshShard :=
  { input, device, shardDirection, shardKind := sharding.kind,
    shardShape := sharding.shardShape, shardDims := sharding.shardDims, result }

/-! ## Shapes -/

/-- Repeat every element along one dimension. -/
structure RepeatInterleave where
  input : ValueId
  repeats : UInt32
  dim : Int32
  memoryConfig : Option MemoryConfig
  result : ValueId

/-- Exchange two dimensions. -/
structure Transpose where
  input : ValueId
  dim0 : Int32
  dim1 : Int32
  result : ValueId

/-- Join tensors along one dimension. -/
structure Concat where
  inputs : List ValueId
  dim : Int32
  memoryConfig : Option MemoryConfig
  output : ValueId
  result : ValueId

/-- Give a tensor another shape. -/
structure Reshape where
  input : ValueId
  shape : List Int32
  result : ValueId

/-- Repeat a tensor along its dimensions. -/
structure RepeatTensor where
  input : ValueId
  repeatDims : List Int64
  result : ValueId

/-- Surround a tensor by a constant.  The padding holds two entries for each
dimension. -/
structure Pad where
  input : ValueId
  padding : List UInt32
  value : Single
  useMulticore : Bool
  memoryConfig : Option MemoryConfig
  result : ValueId

/-- Cut a part out of a tensor. -/
structure Slice where
  input : ValueId
  output : ValueId
  begins : List Int64
  ends : List Int64
  step : List Int64
  result : ValueId

/-- Reorder the dimensions of a tensor. -/
structure Permute where
  input : ValueId
  permutation : List Int64
  memoryConfig : Option MemoryConfig
  padValue : Single
  result : ValueId

/-! ## Caches of keys and values -/

/-- Write into a cache at the position held by a tensor. -/
structure UpdateCache where
  cache : ValueId
  input : ValueId
  updateIndex : ValueId
  batchOffset : UInt32

/-- Write into a cache from its beginning. -/
structure FillCache where
  cache : ValueId
  input : ValueId
  batchOffset : UInt32

/-! ## Other dialects -/

/-- An operation of an unknown dialect, which is printed and verified but cannot
be lowered. -/
structure Unregistered where
  name : String
  operands : List ValueId
  results : List ValueId

end Operation

/-- An operation of a device program. -/
inductive Operation
  | getDevice (op : Operation.GetDevice)
  | toMemoryConfig (op : Operation.ToMemoryConfig)
  | toLayout (op : Operation.ToLayout)
  | toDType (op : Operation.Conversion)
  | typecast (op : Operation.Conversion)
  | toDevice (op : Operation.ToDevice)
  | fromDevice (op : Operation.FromDevice)
  | empty (op : Operation.Empty)
  | full (op : Operation.Full)
  | arange (op : Operation.Arange)
  | zeros (op : Operation.ConstantFill)
  | ones (op : Operation.ConstantFill)
  | elementwise (op : Operation.Elementwise)
  | linear (op : Operation.Linear)
  | matmul (op : Operation.Matmul)
  | cumulativeSum (op : Operation.CumulativeSum)
  | reduction (op : Operation.Reduction)
  | product (op : Operation.Product)
  | embedding (op : Operation.Embedding)
  | embeddingBackward (op : Operation.EmbeddingBackward)
  | repeatInterleave (op : Operation.RepeatInterleave)
  | softmax (op : Operation.Softmax)
  | transpose (op : Operation.Transpose)
  | convolution (op : Operation.Convolution)
  | transposedConvolution (op : Operation.TransposedConvolution)
  | allGather (op : Operation.AllGather)
  | reduceScatter (op : Operation.ReduceScatter)
  | meshShard (op : Operation.MeshShard)
  | concat (op : Operation.Concat)
  | reshape (op : Operation.Reshape)
  | repeatTensor (op : Operation.RepeatTensor)
  | pad (op : Operation.Pad)
  | slice (op : Operation.Slice)
  | maxPool (op : Operation.MaxPool)
  | deallocate (op : Operation.Deallocate)
  | updateCache (op : Operation.UpdateCache)
  | fillCache (op : Operation.FillCache)
  | permute (op : Operation.Permute)
  | upsample (op : Operation.Upsample)
  | unregistered (op : Operation.Unregistered)

namespace Operation

/-- The kind of an operation, unless its dialect is unknown. -/
def kind? : Operation → Option OperationKind
  | getDevice _ => some .getDevice
  | toMemoryConfig _ => some .toMemoryConfig
  | toLayout _ => some .toLayout
  | toDType _ => some .toDType
  | typecast _ => some .typecast
  | toDevice _ => some .toDevice
  | fromDevice _ => some .fromDevice
  | empty _ => some .empty
  | full _ => some .full
  | arange _ => some .arange
  | zeros _ => some .zeros
  | ones _ => some .ones
  | elementwise op => some (.elementwise op.kind)
  | linear _ => some .linear
  | matmul _ => some .matmul
  | cumulativeSum _ => some .cumulativeSum
  | reduction op => some (.reduction op.kind)
  | product _ => some .product
  | embedding _ => some .embedding
  | embeddingBackward _ => some .embeddingBackward
  | repeatInterleave _ => some .repeatInterleave
  | softmax _ => some .softmax
  | transpose _ => some .transpose
  | convolution _ => some .convolution
  | transposedConvolution _ => some .transposedConvolution
  | allGather _ => some .allGather
  | reduceScatter _ => some .reduceScatter
  | meshShard _ => some .meshShard
  | concat _ => some .concat
  | reshape _ => some .reshape
  | repeatTensor _ => some .repeatTensor
  | pad _ => some .pad
  | slice _ => some .slice
  | maxPool _ => some .maxPool
  | deallocate _ => some .deallocate
  | updateCache _ => some .updateCache
  | fillCache _ => some .fillCache
  | permute _ => some .permute
  | upsample _ => some .upsample
  | unregistered _ => none

end Operation

end Tilework
