import Tilework.Proofs.Number
import Tilework.Proofs.Sharding.Turns

/-!
# The rules of inference

When a sharding can be completed, and what it is then, depends on its mesh and on the sizes
of its split axes alone.  A mere count is a line if it is an entry of the shard shape, and
otherwise stands for a mesh that the shape itself gives.  A written mesh is matched from its
last dimension to its first, and from the first to the last only if that fails and the mesh
is no line.
-/

namespace Tilework.Sharding

open Number

/-! ## Outcomes -/

/-- The sizes of the axes that are split, in order. -/
def splitSizes (read : Sharding) : List Int64 :=
  read.tensorShards.filter (· != 1)

/-- How the axis that is split in the given place is stored, if there is one. -/
def storedSplit (read : Sharding) (place : Nat) : Int64 :=
  storedAxis (splitAxes read.tensorShards)[place]?

/-- The sizes of the split axes are the first of the entries of the shard shape other than
one. -/
theorem splitSizes_prefix (read : Sharding) :
    read.splitSizes <+: read.shardShape.filter (· != 1) := by
  rw [splitSizes, tensorShards]
  split
  · exact (List.dropLast_prefix read.shardShape).filter _
  · exact List.prefix_rfl

section

variable {read : Sharding} {total : Int64} {dims : List Int64} {error : ShardingError}

theorem isLine_settled_iff : (read.settled total).isLine = true ↔ total ∈ read.shardShape :=
  List.contains_iff_mem

theorem isLine_settled_eq_false_iff :
    (read.settled total).isLine = false ↔ total ∉ read.shardShape := by
  rw [← Bool.not_eq_true, isLine_settled_iff]

variable (product : product? read.meshShape = some total)

include product

theorem complete_of_rank (rank : (read.settledMesh total).length ≠ 2) :
    read.complete.2 = .error (.unsupportedMeshRank (read.settledMesh total)) := by
  rw [complete_eq, product]
  simp only [if_neg rank]

variable (rank : (read.settledMesh total).length = 2)

include rank

theorem complete_of_assigned
    (assigned : (read.settled total).assignEither (read.meshShape.length != 1) = .ok dims) :
    read.complete = ({ read.settled total with shardDims := dims }, .ok ()) := by
  rw [complete_eq, product]
  simp only [if_pos rank, assigned]

theorem complete_of_refused
    (refused : (read.settled total).assignEither (read.meshShape.length != 1) = .error error) :
    read.complete = (read.settled total, .error error) := by
  rw [complete_eq, product]
  simp only [if_pos rank, refused]

theorem complete_eq_error_iff : read.complete.2 = .error error ↔
    (read.settled total).assignEither (read.meshShape.length != 1) = .error error := by
  cases given : (read.settled total).assignEither (read.meshShape.length != 1) with
  | ok found =>
      rw [complete_of_assigned product rank given]
      exact iff_of_false nofun nofun
  | error first =>
      rw [complete_of_refused product rank given, Except.error.injEq, Except.error.injEq]

/-- Completion succeeds exactly when the axes can be assigned, and keeps their assignment. -/
theorem complete_of_assigns {accepted : Prop}
    (assigns : ∀ given, (read.settled total).assignEither (read.meshShape.length != 1) =
      .ok given ↔ accepted ∧ given = dims) :
    (read.complete.2 = .ok () ↔ accepted) ∧
      (read.complete.2 = .ok () → read.complete.1.meshShape = read.settledMesh total ∧
        read.complete.1.shardDims = dims) := by
  cases given : (read.settled total).assignEither (read.meshShape.length != 1) with
  | ok found =>
      obtain ⟨accepts, rfl⟩ := (assigns found).mp given
      rw [complete_of_assigned product rank given]
      exact ⟨⟨fun _ => accepts, fun _ => rfl⟩, fun _ => ⟨rfl, rfl⟩⟩
  | error error =>
      rw [complete_of_refused product rank given]
      refine ⟨⟨nofun, fun accepts => ?_⟩, nofun⟩
      rw [(assigns dims).mpr ⟨accepts, rfl⟩] at given
      cases given

end

/-! ## Two attempts -/

section

variable {sharding : Sharding} {dims : List Int64} {error : ShardingError}

/-- On a line there is a single attempt. -/
theorem assignEither_of_line (line : sharding.isLine = true) :
    sharding.assignEither true = sharding.assign .backToFront := by
  rw [assignEither, if_pos rfl]
  cases sharding.assign .backToFront with
  | ok dims => rfl
  | error first => simp only [if_pos line]

theorem exists_assign_of_assignEither {written : Bool}
    (refused : sharding.assignEither written = .error error) :
    ∃ direction, sharding.assign direction = .error error := by
  rw [assignEither] at refused
  split at refused
  · refine ⟨.backToFront, ?_⟩
    split at refused
    · cases refused
    · rename_i first failed
      rw [failed]
      split at refused
      · exact refused
      · split at refused
        · cases refused
        · exact refused
  · exact ⟨.frontToBack, refused⟩

variable (plane : sharding.isLine = false)

include plane

/-- The second attempt counts only if the first one fails. -/
theorem assignEither_eq_ok_iff :
    sharding.assignEither true = .ok dims ↔ sharding.assign .backToFront = .ok dims ∨
      (∀ given, sharding.assign .backToFront ≠ .ok given) ∧
        sharding.assign .frontToBack = .ok dims := by
  rw [assignEither, if_pos rfl]
  cases sharding.assign .backToFront with
  | ok given => simp
  | error first => cases sharding.assign .frontToBack <;> simp [plane]

/-- If both attempts fail, the first failure is reported. -/
theorem assignEither_eq_error_iff :
    sharding.assignEither true = .error error ↔ (∀ given,
      sharding.assign .frontToBack ≠ .ok given) ∧ sharding.assign .backToFront = .error error := by
  rw [assignEither, if_pos rfl]
  cases sharding.assign .backToFront with
  | ok given => simp
  | error first => cases sharding.assign .frontToBack <;> simp [plane]

end

/-! ## Rules -/

/-- The rules by which a sharding with a number of devices is completed. -/
structure Infers (read : Sharding) (total : Int64) : Prop where
  /-- A count that is an entry of the shard shape is a line, whose second dimension alone can
  be given away. -/
  countOfLine : ∀ count, read.meshShape = [count] → count ∈ read.shardShape →
    (read.complete.2 = .ok () ↔ read.splitSizes = [] ∨ read.splitSizes = [count]) ∧
    (read.complete.2 = .ok () → read.complete.1.meshShape = [1, count] ∧
      read.complete.1.shardDims = [-1, read.storedSplit 0])
  /-- Any other count stands for the entries of the shard shape other than one, if these are
  two, which are matched from the first to the last. -/
  countOfMesh : ∀ count, read.meshShape = [count] → count ∉ read.shardShape →
    (read.complete.2 = .ok () ↔ (read.shardShape.filter (· != 1)).length = 2) ∧
    (read.complete.2 = .ok () →
      read.complete.1.meshShape = read.shardShape.filter (· != 1) ∧
      read.complete.1.shardDims = [read.storedSplit 0, read.storedSplit 1]) ∧
    ((read.shardShape.filter (· != 1)).length ≠ 2 → read.complete.2 =
      .error (.unsupportedMeshRank (read.shardShape.filter (· != 1))))
  /-- A written mesh has two dimensions. -/
  otherRank : read.meshShape.length ≠ 1 → read.meshShape.length ≠ 2 →
    read.complete.2 = .error (.unsupportedMeshRank read.meshShape)
  /-- Of a written mesh that is a line, only the first dimension can be given away. -/
  writtenLine : ∀ rows columns, read.meshShape = [rows, columns] → total ∈ read.shardShape →
    (read.complete.2 = .ok () ↔ read.splitSizes = [] ∨ read.splitSizes = [rows]) ∧
    (read.complete.2 = .ok () → read.complete.1.meshShape = [rows, columns] ∧
      read.complete.1.shardDims = [read.storedSplit 0, -1])
  /-- Any other written mesh is matched from the last dimension to the first wherever that is
  possible, and else from the first to the last.  If neither is possible, the axis is
  reported that does not fit from the last dimension to the first. -/
  writtenMesh : ∀ rows columns, read.meshShape = [rows, columns] → total ∉ read.shardShape →
    (read.complete.2 = .ok () ↔
      read.splitSizes <+: [columns, rows] ∨ read.splitSizes <+: [rows, columns]) ∧
    (read.complete.2 = .ok () → read.complete.1.meshShape = [rows, columns]) ∧
    (read.splitSizes <+: [columns, rows] →
      read.complete.1.shardDims = [read.storedSplit 1, read.storedSplit 0]) ∧
    (¬ read.splitSizes <+: [columns, rows] → read.splitSizes <+: [rows, columns] →
      read.complete.1.shardDims = [read.storedSplit 0, read.storedSplit 1]) ∧
    ∀ error, read.complete.2 = .error error ↔
      ¬ read.splitSizes <+: [rows, columns] ∧
        FirstMisfit (.tooManyShardedAxes read.tensorShards [rows, columns])
          (splitsFrom 0 read.tensorShards) [(columns, 1), (rows, 0)] error

section

variable {read : Sharding} {total count rows columns : Int64}

/-! ### Counts -/

section

variable (product : product? read.meshShape = some total) (mesh : read.meshShape = [count])

include product mesh

theorem total_eq_of_count : total = count := by
  rw [mesh] at product
  exact eq_of_product?_singleton product

theorem settledMesh_of_count : read.settledMesh total =
    if count ∈ read.shardShape then [1, count] else read.shardShape.filter (· != 1) := by
  obtain rfl := total_eq_of_count product mesh
  rw [settledMesh, mesh, if_pos List.length_singleton]

theorem infers_countOfLine (line : count ∈ read.shardShape) :
    (read.complete.2 = .ok () ↔ read.splitSizes = [] ∨ read.splitSizes = [count]) ∧
    (read.complete.2 = .ok () → read.complete.1.meshShape = [1, count] ∧
      read.complete.1.shardDims = [-1, read.storedSplit 0]) := by
  have settles := settledMesh_of_count product mesh
  rw [if_pos line] at settles
  have isLine : (read.settled total).isLine = true := by
    rwa [isLine_settled_iff, total_eq_of_count product mesh]
  have rank : (read.settledMesh total).length = 2 := congrArg List.length settles
  rw [← settles]
  apply complete_of_assigns product rank
  intro given
  rw [mesh]
  exact assign_frontToBack_line_eq_ok_iff settles isLine

theorem infers_countOfMesh (plane : count ∉ read.shardShape) :
    (read.complete.2 = .ok () ↔ (read.shardShape.filter (· != 1)).length = 2) ∧
    (read.complete.2 = .ok () →
      read.complete.1.meshShape = read.shardShape.filter (· != 1) ∧
      read.complete.1.shardDims = [read.storedSplit 0, read.storedSplit 1]) ∧
    ((read.shardShape.filter (· != 1)).length ≠ 2 → read.complete.2 =
      .error (.unsupportedMeshRank (read.shardShape.filter (· != 1)))) := by
  have settles := settledMesh_of_count product mesh
  rw [if_neg plane] at settles
  have isLine : (read.settled total).isLine = false := by
    rwa [isLine_settled_eq_false_iff, total_eq_of_count product mesh]
  rw [← settles]
  by_cases rank : (read.settledMesh total).length = 2
  · obtain ⟨rows, columns, pair⟩ := List.length_eq_two.mp rank
    have fits := read.splitSizes_prefix
    rw [← settles, pair] at fits
    have assigned : (read.settled total).assignEither (read.meshShape.length != 1) =
        .ok [read.storedSplit 0, read.storedSplit 1] := by
      rw [mesh]
      exact (assign_frontToBack_eq_ok_iff pair isLine).mpr ⟨fits, rfl⟩
    rw [complete_of_assigned product rank assigned]
    exact ⟨⟨fun _ => rank, fun _ => rfl⟩, fun _ => ⟨rfl, rfl⟩, fun other => absurd rank other⟩
  · rw [complete_of_rank product rank]
    exact ⟨⟨nofun, fun two => absurd two rank⟩, nofun, fun _ => rfl⟩

end

/-! ### Written meshes -/

theorem settledMesh_of_written (written : read.meshShape.length ≠ 1) :
    read.settledMesh total = read.meshShape := by
  rw [settledMesh, if_neg written]

section

variable (product : product? read.meshShape = some total)
  (mesh : read.meshShape = [rows, columns])

include product mesh

theorem infers_writtenLine (line : total ∈ read.shardShape) :
    (read.complete.2 = .ok () ↔ read.splitSizes = [] ∨ read.splitSizes = [rows]) ∧
    (read.complete.2 = .ok () → read.complete.1.meshShape = [rows, columns] ∧
      read.complete.1.shardDims = [read.storedSplit 0, -1]) := by
  have settles : read.settledMesh total = [rows, columns] := by
    rw [settledMesh_of_written (by simp [mesh]), mesh]
  have isLine : (read.settled total).isLine = true := isLine_settled_iff.mpr line
  have rank : (read.settledMesh total).length = 2 := congrArg List.length settles
  rw [← settles]
  apply complete_of_assigns product rank
  intro given
  have single : (read.settled total).assignEither (read.meshShape.length != 1) =
      (read.settled total).assign .backToFront := by
    rw [mesh]
    exact assignEither_of_line isLine
  rw [single]
  exact assign_backToFront_line_eq_ok_iff settles isLine

theorem infers_writtenMesh (plane : total ∉ read.shardShape) :
    (read.complete.2 = .ok () ↔
      read.splitSizes <+: [columns, rows] ∨ read.splitSizes <+: [rows, columns]) ∧
    (read.complete.2 = .ok () → read.complete.1.meshShape = [rows, columns]) ∧
    (read.splitSizes <+: [columns, rows] →
      read.complete.1.shardDims = [read.storedSplit 1, read.storedSplit 0]) ∧
    (¬ read.splitSizes <+: [columns, rows] → read.splitSizes <+: [rows, columns] →
      read.complete.1.shardDims = [read.storedSplit 0, read.storedSplit 1]) ∧
    ∀ error, read.complete.2 = .error error ↔
      ¬ read.splitSizes <+: [rows, columns] ∧
        FirstMisfit (.tooManyShardedAxes read.tensorShards [rows, columns])
          (splitsFrom 0 read.tensorShards) [(columns, 1), (rows, 0)] error := by
  have settles : read.settledMesh total = [rows, columns] := by
    rw [settledMesh_of_written (by simp [mesh]), mesh]
  have isLine : (read.settled total).isLine = false := isLine_settled_eq_false_iff.mpr plane
  have rank : (read.settledMesh total).length = 2 := congrArg List.length settles
  have written : (read.meshShape.length != 1) = true := by
    rw [mesh]
    rfl
  have back : ∀ dims, (read.settled total).assign .backToFront = .ok dims ↔
      read.splitSizes <+: [columns, rows] ∧ dims = [read.storedSplit 1, read.storedSplit 0] :=
    fun dims => assign_backToFront_eq_ok_iff settles isLine
  have front : ∀ dims, (read.settled total).assign .frontToBack = .ok dims ↔
      read.splitSizes <+: [rows, columns] ∧ dims = [read.storedSplit 0, read.storedSplit 1] :=
    fun dims => assign_frontToBack_eq_ok_iff settles isLine
  have assigns : ∀ given, (read.settled total).assignEither (read.meshShape.length != 1) =
      .ok given ↔ (read.splitSizes <+: [columns, rows] ∨ read.splitSizes <+: [rows, columns]) ∧
        given = if read.splitSizes <+: [columns, rows]
          then [read.storedSplit 1, read.storedSplit 0]
          else [read.storedSplit 0, read.storedSplit 1] := by
    intro given
    rw [written, assignEither_eq_ok_iff isLine, front]
    simp only [ne_eq, back]
    by_cases fits : read.splitSizes <+: [columns, rows]
    · simp [fits]
    · simp [fits]
  obtain ⟨accepts, gives⟩ := complete_of_assigns product rank assigns
  rw [settles] at gives
  refine ⟨accepts, fun done => (gives done).1, ?_, ?_, ?_⟩
  · intro fits
    rw [(gives (accepts.mpr (Or.inl fits))).2, if_pos fits]
  · intro misfits fits
    rw [(gives (accepts.mpr (Or.inr fits))).2, if_neg misfits]
  · intro error
    have misfits : (∀ given, (read.settled total).assign .frontToBack ≠ .ok given) ↔
        ¬ read.splitSizes <+: [rows, columns] := by
      simp only [ne_eq, front, not_and]
      exact ⟨fun none fits => none _ fits rfl, fun misfits given fits => absurd fits misfits⟩
    rw [complete_eq_error_iff product rank, written, assignEither_eq_error_iff isLine, misfits]
    exact and_congr_right' (assign_backToFront_eq_error_iff settles isLine)

end

end

/-- Inference fails because of too many devices exactly when a product of mesh sizes does not
fit.  Otherwise the devices have a number, and the outcome is the one that the rules give. -/
theorem complete_infers (read : Sharding) :
    ((∃ mesh, read.complete.2 = .error (.meshTooLarge mesh)) ↔ Overflows read.meshShape) ∧
      (¬ Overflows read.meshShape → ∃ total : Int64,
        total.toInt = (read.meshShape.map Int64.toInt).prod ∧ read.Infers total) := by
  rw [← product?_eq_none_iff]
  constructor
  · constructor
    · rintro ⟨mesh, failed⟩
      cases product : product? read.meshShape with
      | none => rfl
      | some total =>
          by_cases rank : (read.settledMesh total).length = 2
          · obtain ⟨direction, refused⟩ :=
              exists_assign_of_assignEither ((complete_eq_error_iff product rank).mp failed)
            exact absurd rfl ((assign_eq_error_iff.mp refused).ne_meshTooLarge mesh)
          · rw [complete_of_rank product rank] at failed
            cases failed
    · intro product
      rw [complete_eq, product]
      exact ⟨_, rfl⟩
  · intro counted
    obtain ⟨total, product⟩ := Option.ne_none_iff_exists'.mp counted
    refine ⟨total, toInt_of_product?_eq_some product, ?_⟩
    constructor
    case countOfLine => exact fun count mesh line => infers_countOfLine product mesh line
    case countOfMesh => exact fun count mesh plane => infers_countOfMesh product mesh plane
    case otherRank =>
      intro notCount notPair
      have settles : read.settledMesh total = read.meshShape := settledMesh_of_written notCount
      rw [complete_of_rank product (by rwa [settles]), settles]
    case writtenLine => exact fun rows columns mesh line => infers_writtenLine product mesh line
    case writtenMesh => exact fun rows columns mesh plane => infers_writtenMesh product mesh plane

/-- A sharding whose two split axes fit a square mesh in both orders. -/
def square : Sharding where
  kind := .devices
  shardShape := [2, 1, 2]
  meshShape := [2, 2]

/-- The axes of a square mesh are given their dimensions from the last to the first. -/
theorem complete_infers_square :
    ¬ Overflows square.meshShape ∧
      (∃ total : Int64, total.toInt = (square.meshShape.map Int64.toInt).prod ∧
        square.Infers total) ∧
      square.complete.1.shardDims = [2, 0] := by
  have counted : ¬ Overflows square.meshShape := by
    rw [← product?_eq_none_iff]
    decide
  exact ⟨counted, (complete_infers square).2 counted, by decide⟩

/-! ## Lines -/

theorem lt_length_of_mem_splitAxes {sizes : List Int64} {axis : Nat}
    (split : axis ∈ splitAxes sizes) : axis < sizes.length := by
  obtain ⟨entry, member, rfl⟩ := List.mem_map.mp split
  exact List.snd_lt_of_mem_zipIdx (List.mem_filter.mp member).1

/-- No split axis is stored exactly when no axis is split. -/
theorem storedAxis_splitAxes_eq_iff {sizes : List Int64} (short : sizes.length < 2 ^ 63) :
    storedAxis (splitAxes sizes)[0]? = -1 ↔ ∀ size ∈ sizes, size = 1 := by
  have whole : splitAxes sizes = [] ↔ ∀ size ∈ sizes, size = 1 := by
    rw [splitAxes, List.map_eq_nil_iff, ← List.map_eq_nil_iff, map_fst_splitsFrom]
    simp [List.filter_eq_nil_iff]
  rw [← whole]
  cases axes : splitAxes sizes with
  | nil => exact iff_of_true rfl rfl
  | cons axis later =>
      have inside : axis < sizes.length :=
        lt_length_of_mem_splitAxes (axes ▸ List.mem_cons_self)
      refine iff_of_false (fun same => ?_) (List.cons_ne_nil axis later)
      have values : (storedAxis (some axis)).toInt = (storedAxis none).toInt :=
        congrArg Int64.toInt same
      rw [toInt_storedAxis_some (by omega), toInt_storedAxis_none] at values
      omega

theorem length_tensorShards_le (read : Sharding) :
    read.tensorShards.length ≤ read.shardShape.length := by
  rw [tensorShards]
  split
  · exact (List.dropLast_prefix read.shardShape).length_le
  · exact Nat.le_refl _

/-- On a line one dimension stays free.  It is the first one if the line was a mere count,
and the last one if it was written.  So the first dimension of a line stays free exactly when
the line was a mere count, or no axis is split. -/
theorem line_first_free_iff {read completed : Sharding}
    (completes : read.complete = (completed, .ok ())) (line : completed.isLine = true)
    (short : read.shardShape.length < 2 ^ 63) :
    (completed.shardDims[0]? = some (-1 : Int64) ↔
      read.meshShape.length = 1 ∨ ∀ size ∈ completed.shardShape, size = 1) ∧
    (read.meshShape.length ≠ 1 → completed.shardDims[1]? = some (-1 : Int64)) := by
  obtain ⟨total, dims, product, rank, assigned, rfl⟩ := complete_eq_ok_iff.mp completes
  obtain ⟨rows, columns, pair⟩ := List.length_eq_two.mp rank
  have isLine : (read.settled total).isLine = true := line
  by_cases single : read.meshShape.length = 1
  · have counted : (read.meshShape.length != 1) = false := by simp [single]
    rw [counted] at assigned
    obtain ⟨-, rfl⟩ := (assign_frontToBack_line_eq_ok_iff pair isLine).mp assigned
    exact ⟨iff_of_true rfl (Or.inl single), fun other => absurd single other⟩
  · have written : (read.meshShape.length != 1) = true := by simp [single]
    rw [written, assignEither_of_line isLine] at assigned
    obtain ⟨-, rfl⟩ := (assign_backToFront_line_eq_ok_iff pair isLine).mp assigned
    have first : storedAxis (splitAxes read.tensorShards)[0]? = -1 ↔
        ∀ size ∈ read.tensorShards, size = 1 :=
      storedAxis_splitAxes_eq_iff (Nat.lt_of_le_of_lt read.length_tensorShards_le short)
    refine ⟨?_, fun _ => rfl⟩
    rw [or_iff_right single]
    exact Option.some_inj.trans first

/-- The line of eight devices that `{devices=[8,1]<=[8,1]}` writes out. -/
def eightRows : Sharding where
  kind := .devices
  shardShape := [8, 1]
  meshShape := [8, 1]

theorem line_first_free_iff_eightRows :
    eightRows.complete = ({ eightRows with shardDims := [0, -1], isLine := true }, .ok ()) ∧
      eightRows.shardShape.length < 2 ^ 63 ∧
      (([0, -1] : List Int64)[0]? = some (-1 : Int64) ↔
        eightRows.meshShape.length = 1 ∨ ∀ size ∈ eightRows.shardShape, size = 1) ∧
      (eightRows.meshShape.length ≠ 1 → ([0, -1] : List Int64)[1]? = some (-1 : Int64)) := by
  have completes : eightRows.complete =
      ({ eightRows with shardDims := [0, -1], isLine := true }, .ok ()) := by decide
  exact ⟨completes, by decide, line_first_free_iff completes rfl (by decide)⟩

/-- The first dimension of this line is given to an axis. -/
theorem line_first_taken_eightRows :
    ∃ completed, eightRows.complete = (completed, .ok ()) ∧ completed.isLine = true ∧
      completed.shardDims[0]? ≠ some (-1 : Int64) := by
  refine ⟨{ eightRows with shardDims := [0, -1], isLine := true }, ?_, rfl, ?_⟩
  · decide
  · decide

end Tilework.Sharding
