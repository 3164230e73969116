import Tilework.Artifact.Record

/-!
# Wire format of shared records

The fields of every record, with their numbers on the wire.
-/

namespace Tilework.Artifact

open Wire

/-! ## Geometry -/

instance : Message Version where
  fields :=
    [field 1 (·.major) fun r major => { r with major },
     field 2 (·.minor) fun r minor => { r with minor },
     field 3 (·.patch) fun r patch => { r with patch }]

instance : Message Extent where
  fields :=
    [field 1 (·.y) fun r y => { r with y },
     field 2 (·.x) fun r x => { r with x }]

instance : Message CoreRange where
  fields :=
    [field 1 (·.origin) fun r origin => { r with origin },
     field 2 (·.size) fun r size => { r with size }]

/-! ## Tensors and devices -/

instance : Message MemoryRecord where
  fields :=
    [field 1 (·.shape) fun r shape => { r with shape },
     field 2 (·.tileShape) fun r tileShape => { r with tileShape },
     field 3 (·.dataType) fun r dataType => { r with dataType },
     field 4 (·.memorySpace) fun r memorySpace => { r with memorySpace },
     field 5 (·.banks) fun r banks => { r with banks },
     field 6 (·.size) fun r size => { r with size }]

instance : Message LayoutRecord where
  fields :=
    [field 1 (·.outOfBounds) fun r outOfBounds => { r with outOfBounds },
     field 2 (·.cores) fun r cores => { r with cores },
     field 3 (·.memory) fun r memory => { r with memory }]

instance : Message TensorDescription where
  fields :=
    [field 1 (·.shape) fun r shape => { r with shape },
     field 2 (·.layout) fun r layout => { r with layout }]

instance : Message TensorRecord where
  fields :=
    [field 1 (·.globalId) fun r globalId => { r with globalId },
     field 2 (·.address) fun r address => { r with address },
     field 3 (·.size) fun r size => { r with size },
     field 4 (·.description) fun r description => { r with description }]

instance : Message DeviceRecord where
  fields :=
    [field 1 (·.globalId) fun r globalId => { r with globalId }]

instance : Message ShardRecord where
  fields :=
    [field 1 (·.shape) fun r shape => { r with shape }]

instance : Message MemoryConfigRecord where
  fields :=
    [field 1 (·.banks) fun r banks => { r with banks },
     field 2 (·.buffer) fun r buffer => { r with buffer },
     field 3 (·.shard) fun r shard => { r with shard }]

instance : Message LineCut where
  fields :=
    [field 1 (·.dimension) fun r dimension => { r with dimension }]

instance : Message MeshCut where
  fields :=
    [field 1 (·.mesh) fun r mesh => { r with mesh }]

instance : Message Strategy where
  fields :=
    [choice
      [member 1 Distribution.line fun | .line cut => some cut | _ => none,
       member 2 Distribution.mesh fun | .mesh cut => some cut | _ => none]
      (·.distribution) fun r distribution => { r with distribution }]

/-! ## Systems -/

instance : Message ChipRecord where
  fields :=
    [field 1 (·.architecture) fun r architecture => { r with architecture },
     field 2 (·.grid) fun r grid => { r with grid },
     field 3 (·.l1Size) fun r l1Size => { r with l1Size },
     field 4 (·.dramChannels) fun r dramChannels => { r with dramChannels },
     field 5 (·.dramChannelSize) fun r dramChannelSize => { r with dramChannelSize },
     field 6 (·.nocL1Alignment) fun r nocL1Alignment => { r with nocL1Alignment },
     field 7 (·.pcieAlignment) fun r pcieAlignment => { r with pcieAlignment },
     field 8 (·.nocDramAlignment) fun r nocDramAlignment => { r with nocDramAlignment },
     field 9 (·.l1UnreservedBase) fun r l1UnreservedBase => { r with l1UnreservedBase },
     field 10 (·.dramUnreservedBase) fun r dramUnreservedBase => { r with dramUnreservedBase },
     field 11 (·.dataTypes) fun r dataTypes => { r with dataTypes },
     field 12 (·.tileSizes) fun r tileSizes => { r with tileSizes }]

instance : Message ChipPosition where
  fields :=
    [field 1 (·.rack) fun r rack => { r with rack },
     field 2 (·.shelf) fun r shelf => { r with shelf },
     field 3 (·.y) fun r y => { r with y },
     field 4 (·.x) fun r x => { r with x }]

instance : Message LinkRecord where
  fields :=
    [field 1 (·.firstChip) fun r firstChip => { r with firstChip },
     field 2 (·.firstCore) fun r firstCore => { r with firstCore },
     field 3 (·.secondChip) fun r secondChip => { r with secondChip },
     field 4 (·.secondCore) fun r secondCore => { r with secondCore }]

instance : Message SystemRecord where
  fields :=
    [field 1 (·.chips) fun r chips => { r with chips },
     field 2 (·.chipIndices) fun r chipIndices => { r with chipIndices },
     field 3 (·.positions) fun r positions => { r with positions },
     field 4 (·.links) fun r links => { r with links }]

/-! ## Debug information -/

instance : Message Snapshot where
  fields :=
    [field 1 (·.name) fun r name => { r with name },
     field 2 (·.source) fun r source => { r with source }]

instance : Message GoldenRecord where
  fields :=
    [field 1 (·.name) fun r name => { r with name },
     field 2 (·.shape) fun r shape => { r with shape },
     field 3 (·.stride) fun r stride => { r with stride },
     field 4 (·.dataType) fun r dataType => { r with dataType },
     field 5 (·.data) fun r data => { r with data }]

instance : Message GoldenEntry where
  fields :=
    [field 1 (·.key) fun r key => { r with key },
     field 2 (·.value) fun r value => { r with value }]

instance : Message GoldenTable where
  fields :=
    [field 1 (·.entries) fun r entries => { r with entries }]

instance : Message DebugRecord where
  fields :=
    [field 1 (·.snapshot) fun r snapshot => { r with snapshot },
     field 2 (·.generatedSource) fun r generatedSource => { r with generatedSource },
     field 3 (·.passes) fun r passes => { r with passes },
     field 4 (·.golden) fun r golden => { r with golden }]

end Tilework.Artifact
