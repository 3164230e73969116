import Tilework.Proofs.Sharding.Completion

/-!
# Mesh dimensions in turn

The order in which mesh dimensions are given away is a list of turns, and the axes that are
split take these turns one after another.  So an assignment succeeds exactly when the sizes
of the split axes are a prefix of the sizes whose turn it is, each of these axes gets the
dimension of its turn, and otherwise the first axis that does not fit is reported.
-/

namespace Tilework.Sharding

/-! ## Turns -/

/-- The split axes among some sizes, with their sizes, if the first size is that of the axis
numbered `first`. -/
def splitsFrom (first : Nat) (sizes : List Int64) : List (Int64 × Nat) :=
  (sizes.zipIdx first).filter fun split => split.1 != 1

/-- The axes that are split, in order. -/
def splitAxes (sizes : List Int64) : List Nat :=
  (splitsFrom 0 sizes).map Prod.snd

/-- The mesh dimensions with their sizes, in the order in which they are given away. -/
def Direction.turns (mesh : List Int64) : Direction → List (Int64 × Nat)
  | .frontToBack => mesh.zipIdx
  | .backToFront => mesh.zipIdx.reverse

/-- Let split axes take turns.  The error `tooMany` is for axes that have no turn. -/
def takeTurns (tooMany : ShardingError) :
    (splits turns : List (Int64 × Nat)) → (dims : List Int64) → Except ShardingError (List Int64)
  | [], _, dims => .ok dims
  | _ :: _, [], _ => .error tooMany
  | (size, axis) :: splits, (meshSize, dimension) :: turns, dims =>
      if size = meshSize then
        takeTurns tooMany splits turns (dims.set dimension (Int64.ofNat axis))
      else .error (.shardMeshMismatch axis size dimension meshSize)

/-- Give each axis the dimension of its turn. -/
def place : (dimensions axes : List Nat) → (dims : List Int64) → List Int64
  | [], _, dims => dims
  | _ :: _, [], dims => dims
  | dimension :: dimensions, axis :: axes, dims =>
      place dimensions axes (dims.set dimension (Int64.ofNat axis))

/-- How the first split axis that does not fit its turn is reported. -/
inductive FirstMisfit (tooMany : ShardingError) :
    (splits turns : List (Int64 × Nat)) → ShardingError → Prop
  | noTurn (split : Int64 × Nat) (splits : List (Int64 × Nat)) :
      FirstMisfit tooMany (split :: splits) [] tooMany
  | otherSize {size meshSize : Int64} (different : size ≠ meshSize) (axis dimension : Nat)
      (splits turns : List (Int64 × Nat)) :
      FirstMisfit tooMany ((size, axis) :: splits) ((meshSize, dimension) :: turns)
        (.shardMeshMismatch axis size dimension meshSize)
  | later {splits turns : List (Int64 × Nat)} {error : ShardingError}
      (misfit : FirstMisfit tooMany splits turns error) (size : Int64) (axis dimension : Nat) :
      FirstMisfit tooMany ((size, axis) :: splits) ((size, dimension) :: turns) error

/-- An axis that does not fit is not reported as a mesh that is too large. -/
theorem FirstMisfit.ne_meshTooLarge {shards mesh : List Int64} {splits turns : List (Int64 × Nat)}
    {error : ShardingError}
    (misfit : FirstMisfit (.tooManyShardedAxes shards mesh) splits turns error)
    (sizes : List Int64) : error ≠ .meshTooLarge sizes := by
  induction misfit with
  | noTurn => nofun
  | otherSize => nofun
  | later _ _ _ _ ih => exact ih

section

variable {mesh sizes : List Int64} {direction : Direction} {first taken : Nat}

theorem splitsFrom_cons (size : Int64) :
    splitsFrom first (size :: sizes) =
      if size = 1 then splitsFrom (first + 1) sizes
      else (size, first) :: splitsFrom (first + 1) sizes := by
  rw [splitsFrom, List.zipIdx_cons, List.filter_cons]
  by_cases whole : size = 1
  · simp [whole, splitsFrom]
  · simp [whole, splitsFrom]

/-- The sizes of the split axes are the sizes other than one. -/
theorem map_fst_splitsFrom : (splitsFrom first sizes).map Prod.fst = sizes.filter (· != 1) := by
  induction sizes generalizing first with
  | nil => rfl
  | cons size sizes ih =>
      rw [splitsFrom_cons, List.filter_cons]
      by_cases whole : size = 1
      · simp [whole, ih]
      · simp [whole, ih]

/-- The dimension that is found for an axis is the one whose turn it is. -/
theorem Direction.found_eq :
    (do
      let dimension ← direction.dimension? mesh.length taken
      let meshSize ← mesh[dimension]?
      pure (dimension, meshSize)) = (direction.turns mesh)[taken]?.map Prod.swap := by
  cases direction with
  | frontToBack =>
      rw [turns, List.getElem?_zipIdx, dimension?, Option.bind_eq_bind, Option.bind_some,
        Nat.zero_add]
      cases mesh[taken]? <;> rfl
  | backToFront =>
      rw [turns, dimension?]
      by_cases inside : taken < mesh.length
      · have reversed : taken < mesh.zipIdx.length := by rwa [List.length_zipIdx]
        rw [List.getElem?_reverse reversed, List.getElem?_zipIdx, List.length_zipIdx, if_pos inside,
          Option.bind_eq_bind, Option.bind_some, Nat.zero_add]
        cases mesh[mesh.length - 1 - taken]? <;> rfl
      · have beyond : mesh.zipIdx.reverse.length ≤ taken := by
          rw [List.length_reverse, List.length_zipIdx]
          exact Nat.le_of_not_lt inside
        rw [List.getElem?_eq_none beyond, if_neg inside]
        rfl

end

/-! ## Assignments -/

section

variable {sharding : Sharding} {direction : Direction} {first taken : Nat}
  {dims sizes assigned : List Int64}

/-- Assigning axes lets the split ones take the turns that are left. -/
theorem assignFrom_eq :
    assignFrom sharding direction first taken dims sizes =
      takeTurns (.tooManyShardedAxes sharding.shardShape sharding.meshShape)
        (splitsFrom first sizes) ((direction.turns sharding.meshShape).drop taken) dims := by
  induction sizes generalizing first taken dims with
  | nil => rfl
  | cons size sizes ih =>
      rw [assignFrom, splitsFrom_cons]
      by_cases whole : size = 1
      · rw [if_pos whole, if_pos whole, ih]
      · have left := List.drop_eq_getElem?_toList_append
          (l := direction.turns sharding.meshShape) (i := taken)
        rw [if_neg whole, if_neg whole, Direction.found_eq]
        cases found : (direction.turns sharding.meshShape)[taken]? with
        | none =>
            rw [List.drop_eq_nil_of_le (List.getElem?_eq_none_iff.mp found)]
            rfl
        | some turn =>
            rw [left, found]
            simp only [Option.map_some, Option.toList_some, List.singleton_append, takeTurns,
              Prod.fst_swap, Prod.snd_swap]
            by_cases same : size = turn.1
            · rw [if_pos same, if_pos same, ih]
            · rw [if_neg same, if_neg same]

/-- Split axes take their turns exactly when their sizes are the sizes whose turn it is. -/
theorem takeTurns_eq_ok_iff {tooMany : ShardingError} {splits turns : List (Int64 × Nat)} :
    takeTurns tooMany splits turns dims = .ok assigned ↔
      splits.map Prod.fst <+: turns.map Prod.fst ∧
        assigned = place (turns.map Prod.snd) (splits.map Prod.snd) dims := by
  induction splits generalizing turns dims with
  | nil => cases turns <;> simp [takeTurns, place, eq_comm]
  | cons split splits ih =>
      rcases turns with _ | ⟨turn, turns⟩
      · simp [takeTurns]
      · simp only [takeTurns, List.map_cons, place, List.cons_prefix_cons]
        by_cases same : split.1 = turn.1
        · simp [same, ih]
        · simp [same]

/-- The first split axis that does not fit its turn is reported. -/
theorem takeTurns_eq_error_iff {tooMany error : ShardingError}
    {splits turns : List (Int64 × Nat)} :
    takeTurns tooMany splits turns dims = .error error ↔
      FirstMisfit tooMany splits turns error := by
  induction splits generalizing turns dims with
  | nil =>
      constructor
      · nofun
      · nofun
  | cons split splits ih =>
      rcases turns with _ | ⟨turn, turns⟩
      · rw [takeTurns]
        constructor
        · rintro ⟨⟩
          exact .noTurn split splits
        · rintro ⟨⟩
          rfl
      · rw [takeTurns]
        by_cases same : split.1 = turn.1
        · obtain ⟨size, axis⟩ := split
          obtain ⟨_, dimension⟩ := turn
          subst same
          rw [if_pos rfl, ih]
          constructor
          · intro misfit
            exact .later misfit size axis dimension
          · intro misfit
            cases misfit with
            | otherSize different => exact absurd rfl different
            | later misfit => exact misfit
        · rw [if_neg same]
          constructor
          · rintro ⟨⟩
            exact .otherSize same split.2 turn.2 splits turns
          · intro misfit
            cases misfit with
            | otherSize => rfl
            | later => exact absurd rfl same

theorem assign_eq :
    sharding.assign direction =
      takeTurns (.tooManyShardedAxes sharding.shardShape sharding.meshShape)
        (splitsFrom 0 sharding.shardShape)
        ((direction.turns sharding.meshShape).drop (if sharding.isLine then 1 else 0))
        (List.replicate sharding.meshShape.length (-1)) :=
  assignFrom_eq

/-- Axes can be assigned exactly when their sizes are those of the turns, where the first
turn is left out on a line. -/
theorem assign_eq_ok_iff :
    sharding.assign direction = .ok assigned ↔
      sharding.shardShape.filter (· != 1) <+:
          ((direction.turns sharding.meshShape).drop (if sharding.isLine then 1 else 0)).map
            Prod.fst ∧
        assigned = place
          (((direction.turns sharding.meshShape).drop (if sharding.isLine then 1 else 0)).map
            Prod.snd)
          (splitAxes sharding.shardShape) (List.replicate sharding.meshShape.length (-1)) := by
  rw [assign_eq, takeTurns_eq_ok_iff, map_fst_splitsFrom, splitAxes]

theorem assign_eq_error_iff {error : ShardingError} :
    sharding.assign direction = .error error ↔
      FirstMisfit (.tooManyShardedAxes sharding.shardShape sharding.meshShape)
        (splitsFrom 0 sharding.shardShape)
        ((direction.turns sharding.meshShape).drop (if sharding.isLine then 1 else 0)) error := by
  rw [assign_eq, takeTurns_eq_error_iff]

end

/-! ## Meshes of two dimensions -/

section

variable {sharding : Sharding} {rows columns : Int64} {assigned : List Int64}

theorem prefix_singleton_iff {sizes : List Int64} {size : Int64} :
    sizes <+: [size] ↔ sizes = [] ∨ sizes = [size] := by
  simp [List.prefix_cons_iff]

theorem place_backToFront (axes : List Nat) :
    place [1, 0] axes [-1, -1] = [storedAxis axes[1]?, storedAxis axes[0]?] := by
  rcases axes with _ | ⟨first, _ | ⟨second, later⟩⟩ <;> rfl

theorem place_frontToBack (axes : List Nat) :
    place [0, 1] axes [-1, -1] = [storedAxis axes[0]?, storedAxis axes[1]?] := by
  rcases axes with _ | ⟨first, _ | ⟨second, later⟩⟩ <;> rfl

theorem place_first (axes : List Nat) :
    place [0] axes [-1, -1] = [storedAxis axes[0]?, -1] := by
  rcases axes with _ | ⟨first, later⟩ <;> rfl

theorem place_last (axes : List Nat) :
    place [1] axes [-1, -1] = [-1, storedAxis axes[0]?] := by
  rcases axes with _ | ⟨first, later⟩ <;> rfl

variable (mesh : sharding.meshShape = [rows, columns])

include mesh

theorem assign_backToFront_eq_ok_iff (line : sharding.isLine = false) :
    sharding.assign .backToFront = .ok assigned ↔
      sharding.shardShape.filter (· != 1) <+: [columns, rows] ∧
        assigned = [storedAxis (splitAxes sharding.shardShape)[1]?,
          storedAxis (splitAxes sharding.shardShape)[0]?] := by
  rw [assign_eq_ok_iff, mesh, line, ← place_backToFront]
  exact Iff.rfl

theorem assign_backToFront_eq_error_iff {error : ShardingError} (line : sharding.isLine = false) :
    sharding.assign .backToFront = .error error ↔
      FirstMisfit (.tooManyShardedAxes sharding.shardShape [rows, columns])
        (splitsFrom 0 sharding.shardShape) [(columns, 1), (rows, 0)] error := by
  rw [assign_eq_error_iff, mesh, line]
  exact Iff.rfl

theorem assign_frontToBack_eq_ok_iff (line : sharding.isLine = false) :
    sharding.assign .frontToBack = .ok assigned ↔
      sharding.shardShape.filter (· != 1) <+: [rows, columns] ∧
        assigned = [storedAxis (splitAxes sharding.shardShape)[0]?,
          storedAxis (splitAxes sharding.shardShape)[1]?] := by
  rw [assign_eq_ok_iff, mesh, line, ← place_frontToBack]
  exact Iff.rfl

/-- On a line the turn of the last dimension is left out when the mesh is matched from its
last dimension to its first. -/
theorem assign_backToFront_line_eq_ok_iff (line : sharding.isLine = true) :
    sharding.assign .backToFront = .ok assigned ↔
      (sharding.shardShape.filter (· != 1) = [] ∨ sharding.shardShape.filter (· != 1) = [rows]) ∧
        assigned = [storedAxis (splitAxes sharding.shardShape)[0]?, -1] := by
  rw [assign_eq_ok_iff, mesh, line, ← prefix_singleton_iff, ← place_first]
  exact Iff.rfl

theorem assign_frontToBack_line_eq_ok_iff (line : sharding.isLine = true) :
    sharding.assign .frontToBack = .ok assigned ↔
      (sharding.shardShape.filter (· != 1) = [] ∨
          sharding.shardShape.filter (· != 1) = [columns]) ∧
        assigned = [-1, storedAxis (splitAxes sharding.shardShape)[0]?] := by
  rw [assign_eq_ok_iff, mesh, line, ← prefix_singleton_iff, ← place_last]
  exact Iff.rfl

end

end Tilework.Sharding
