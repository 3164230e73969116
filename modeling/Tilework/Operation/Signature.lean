import Tilework.Number.Shortest
import Tilework.Operation.Basic

/-!
# Signatures of operations

Printing and verification do not look into the shape of an operation.  They see
its signature: a name, the values read, the tensor written into when there is
one, the values defined, and the attributes as text.
-/

namespace Tilework

/-! ## Attributes -/

/-- Types whose values can be attributes.  An absent attribute has no text. -/
class Attribute (α : Type) where
  text? : α → Option String

instance : Attribute Bool := ⟨fun flag => some (toString flag)⟩

instance : Attribute Int32 := ⟨fun number => some (toString number)⟩

instance : Attribute Int64 := ⟨fun number => some (toString number)⟩

instance : Attribute UInt32 := ⟨fun number => some (toString number)⟩

instance : Attribute Single := ⟨fun number => some number.text⟩

instance : Attribute String := ⟨fun text => some ("\"" ++ text ++ "\"")⟩

instance : Attribute DataType := ⟨fun dataType => some dataType.text⟩

instance : Attribute DataFormat := ⟨fun format => some format.text⟩

instance : Attribute MemoryConfig := ⟨fun config => some config.text⟩

instance : Attribute CollectiveReduction := ⟨fun reduction => some reduction.text⟩

instance : Attribute ShardDirection := ⟨fun direction => some direction.text⟩

instance : Attribute ShardKind := ⟨fun kind => some kind.text⟩

instance {α : Type} [Attribute α] : Attribute (Option α) :=
  ⟨fun value => value.bind Attribute.text?⟩

instance {α : Type} [Attribute α] : Attribute (List α) :=
  ⟨fun values => some (Text.bracketed (values.map fun value =>
    (Attribute.text? value).getD ""))⟩

instance {α : Type} [Attribute α] : Attribute (Spatial α) :=
  ⟨fun pair => Attribute.text? pair.toList⟩

instance : Attribute ScaleFactor where
  text?
    | .uniform scale => Attribute.text? scale
    | .perDimension scales => Attribute.text? scales

instance : Attribute Operation.ElementwiseParameters where
  text?
    | .clamp min max => some ("<min = " ++ min.text ++ ", max = " ++ max.text ++ ">")
    | .scalar value => some ("<" ++ value.text ++ ">")

/-- A named attribute, or nothing when it is absent. -/
def shown {α : Type} [Attribute α] (name : String) (value : α) : List (String × String) :=
  (Attribute.text? value).toList.map fun text => (name, text)

/-! ## Signatures -/

/-- What printing and verification see of an operation. -/
structure Signature where
  name : String
  /-- The values read, in printing order, without the tensor written into. -/
  inputs : List ValueId := []
  /-- The tensor that the result is written into. -/
  destination : Option ValueId := none
  results : List ValueId := []
  /-- The attributes that are present, in order of declaration. -/
  attributes : List (String × String) := []

namespace Operation

/-- The attributes of a constant fill. -/
def ConstantFill.attributes (op : ConstantFill) : List (String × String) :=
  shown "shape" op.shape ++ shown "data_type" op.dataType ++
    shown "layout" op.format ++ shown "memory_config" op.memoryConfig

/-- The signature of an operation. -/
def signature : Operation → Signature
  | getDevice op => { name := "ttnn.get_device", results := [op.result] }
  | toMemoryConfig op =>
      { name := "ttnn.to_memory_config"
        inputs := [op.input]
        results := [op.result]
        attributes := shown "memory_config" op.memoryConfig }
  | toLayout op =>
      { name := "ttnn.to_layout"
        inputs := [op.input] ++ op.device.toList
        results := [op.result]
        attributes := shown "layout" op.format ++ shown "data_type" op.dataType ++
          shown "memory_config" op.memoryConfig }
  | toDType op =>
      { name := "ttnn.to_dtype"
        inputs := [op.input]
        results := [op.result]
        attributes := shown "data_type" op.dataType }
  | typecast op =>
      { name := "ttnn.typecast"
        inputs := [op.input]
        results := [op.result]
        attributes := shown "data_type" op.dataType }
  | toDevice op =>
      { name := "ttnn.to_device"
        inputs := [op.input, op.device]
        results := [op.result]
        attributes := shown "memory_config" op.memoryConfig }
  | fromDevice op =>
      { name := "ttnn.from_device", inputs := [op.input], results := [op.result] }
  | empty op =>
      { name := "ttnn.empty"
        inputs := op.device.toList
        results := [op.result]
        attributes := shown "shape" op.shape ++ shown "data_type" op.dataType ++
          shown "layout" op.format ++ shown "memory_config" op.memoryConfig }
  | full op =>
      { name := "ttnn.full"
        inputs := op.device.toList
        results := [op.result]
        attributes := shown "fill_value" op.fillValue }
  | arange op =>
      { name := "ttnn.arange"
        inputs := op.device.toList
        results := [op.result]
        attributes := shown "start" op.start ++ shown "end" op.stop ++
          shown "step" op.step ++ shown "data_type" op.dataType ++
          shown "memory_config" op.memoryConfig }
  | zeros op =>
      { name := "ttnn.zeros"
        inputs := op.device.toList
        results := [op.result]
        attributes := op.attributes }
  | ones op =>
      { name := "ttnn.ones"
        inputs := op.device.toList
        results := [op.result]
        attributes := op.attributes }
  | elementwise op =>
      { name := op.kind.operationName
        inputs := op.inputs
        destination := op.output
        results := [op.result]
        attributes := shown "parameters" op.parameters }
  | linear op =>
      { name := "ttnn.linear"
        inputs := [op.a, op.b] ++ op.bias.toList
        destination := some op.output
        results := [op.result] }
  | matmul op =>
      { name := "ttnn.matmul"
        inputs := [op.a, op.b]
        destination := some op.output
        results := [op.result] }
  | cumulativeSum op =>
      { name := "ttnn.moreh_cumsum"
        inputs := [op.input]
        destination := some op.output
        results := [op.result]
        attributes := shown "dim" op.dim ++ shown "memory_config" op.memoryConfig }
  | reduction op =>
      { name := op.kind.operationName
        inputs := [op.input]
        results := [op.result]
        attributes := shown "dim_arg" op.dims ++ shown "keep_dim" op.keepDim }
  | product op =>
      { name := "ttnn.prod"
        inputs := [op.input]
        results := [op.result]
        attributes := shown "all_dimensions" op.allDimensions ++
          shown "dim_arg" op.dim ++ shown "keep_dim" op.keepDim ++
          shown "memory_config" op.memoryConfig }
  | embedding op =>
      { name := "ttnn.embedding"
        inputs := [op.input, op.weight]
        destination := some op.output
        results := [op.result] }
  | embeddingBackward op =>
      { name := "ttnn.embedding_bw"
        inputs := [op.input, op.weight, op.inGradient]
        destination := some op.output
        results := [op.result]
        attributes := shown "data_type" op.dataType ++
          shown "memory_config" op.memoryConfig }
  | repeatInterleave op =>
      { name := "ttnn.repeat_interleave"
        inputs := [op.input]
        results := [op.result]
        attributes := shown "repeats" op.repeats ++ shown "dim" op.dim ++
          shown "memory_config" op.memoryConfig }
  | softmax op =>
      { name := "ttnn.softmax"
        inputs := [op.input]
        results := [op.result]
        attributes := shown "dimension" op.dimension }
  | transpose op =>
      { name := "ttnn.transpose"
        inputs := [op.input]
        results := [op.result]
        attributes := shown "dim0" op.dim0 ++ shown "dim1" op.dim1 }
  | convolution op =>
      { name := "ttnn.conv2d"
        inputs := [op.input, op.weight, op.device] ++ op.bias.toList
        destination := some op.output
        results := [op.result]
        attributes := shown "in_channels" op.inChannels ++
          shown "out_channels" op.outChannels ++ shown "batch_size" op.batchSize ++
          shown "input_height" op.inputHeight ++ shown "input_width" op.inputWidth ++
          shown "kernel_size" op.kernelSize ++ shown "stride" op.stride ++
          shown "padding" op.padding ++ shown "dilation" op.dilation ++
          shown "groups" op.groups }
  | transposedConvolution op =>
      { name := "ttnn.conv_transpose2d"
        inputs := [op.input, op.weight, op.device] ++ op.bias.toList
        destination := some op.output
        results := [op.result]
        attributes := shown "in_channels" op.inChannels ++
          shown "out_channels" op.outChannels ++ shown "batch_size" op.batchSize ++
          shown "input_height" op.inputHeight ++ shown "input_width" op.inputWidth ++
          shown "kernel_size" op.kernelSize ++ shown "stride" op.stride ++
          shown "padding" op.padding ++ shown "output_padding" op.outputPadding ++
          shown "dilation" op.dilation ++ shown "groups" op.groups }
  | allGather op =>
      { name := "ttnn.all_gather"
        inputs := [op.input, op.device]
        results := [op.result]
        attributes := shown "dim" op.dim ++ shown "num_links" op.numLinks }
  | reduceScatter op =>
      { name := "ttnn.reduce_scatter"
        inputs := [op.input, op.device]
        results := [op.result]
        attributes := shown "scatter_split_dim" op.scatterSplitDim ++
          shown "math_op" op.mathOp ++ shown "num_links" op.numLinks }
  | meshShard op =>
      { name := "ttnn.mesh_shard"
        inputs := [op.input, op.device]
        results := [op.result]
        attributes := shown "shard_direction" op.shardDirection ++
          shown "shard_type" op.shardKind ++ shown "shard_shape" op.shardShape ++
          shown "shard_dims" op.shardDims }
  | concat op =>
      { name := "ttnn.concat"
        inputs := op.inputs
        destination := some op.output
        results := [op.result]
        attributes := shown "dim" op.dim ++ shown "memory_config" op.memoryConfig }
  | reshape op =>
      { name := "ttnn.reshape"
        inputs := [op.input]
        results := [op.result]
        attributes := shown "shape" op.shape }
  | repeatTensor op =>
      { name := "ttnn.repeat"
        inputs := [op.input]
        results := [op.result]
        attributes := shown "repeat_dims" op.repeatDims }
  | pad op =>
      { name := "ttnn.pad"
        inputs := [op.input]
        results := [op.result]
        attributes := shown "padding" op.padding ++ shown "value" op.value ++
          shown "use_multicore" op.useMulticore ++
          shown "memory_config" op.memoryConfig }
  | slice op =>
      { name := "ttnn.slice"
        inputs := [op.input]
        destination := some op.output
        results := [op.result]
        attributes := shown "begins" op.begins ++ shown "ends" op.ends ++
          shown "step" op.step }
  | maxPool op =>
      { name := "ttnn.max_pool2d"
        inputs := [op.input, op.device]
        destination := some op.output
        results := [op.result]
        attributes := shown "batch_size" op.batchSize ++
          shown "input_height" op.inputHeight ++ shown "input_width" op.inputWidth ++
          shown "channels" op.channels ++ shown "kernel_size" op.kernelSize ++
          shown "stride" op.stride ++ shown "dilation" op.dilation ++
          shown "ceil_mode" op.ceilMode ++ shown "padding" op.padding }
  | deallocate op =>
      { name := "ttnn.deallocate"
        inputs := [op.input]
        attributes := shown "force" op.force }
  | updateCache op =>
      { name := "ttnn.update_cache"
        inputs := [op.cache, op.input, op.updateIndex]
        attributes := shown "batch_offset" op.batchOffset }
  | fillCache op =>
      { name := "ttnn.fill_cache"
        inputs := [op.cache, op.input]
        attributes := shown "batch_offset" op.batchOffset }
  | permute op =>
      { name := "ttnn.permute"
        inputs := [op.input]
        results := [op.result]
        attributes := shown "permutation" op.permutation ++
          shown "memory_config" op.memoryConfig ++ shown "pad_value" op.padValue }
  | upsample op =>
      { name := "ttnn.upsample"
        inputs := [op.input]
        results := [op.result]
        attributes := shown "scale_factor" op.scaleFactor ++ shown "mode" op.mode ++
          shown "memory_config" op.memoryConfig }
  | unregistered op =>
      { name := op.name, inputs := op.operands, results := op.results }

/-- The name of an operation. -/
def name (op : Operation) : String :=
  op.signature.name

/-- The operands in printing order, the tensor written into last. -/
def operands (op : Operation) : List ValueId :=
  op.signature.inputs ++ op.signature.destination.toList

/-- The tensor that the result is written into. -/
def destination (op : Operation) : Option ValueId :=
  op.signature.destination

/-- The values that an operation defines. -/
def results (op : Operation) : List ValueId :=
  op.signature.results

/-- The attributes that are present, as names and texts. -/
def attributes (op : Operation) : List (String × String) :=
  op.signature.attributes

end Operation

end Tilework
