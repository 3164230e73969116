import Mathlib.Data.List.Count
import Tilework.Proofs.Run
import Tilework.Sharding.Dimensions

/-!
# Split axes and mesh dimensions

Completing a device sharding gives every split axis a mesh dimension of the axis's own
size, and gives no dimension to any other axis.  Along the way the dimensions still free
are the ones whose turn comes later, in whichever order they are given away, so a
dimension that has been given to an axis is never taken back.
-/

namespace Tilework.Sharding

/-! ## Dimensions without words -/

/-- How the axis that a mesh dimension splits is stored. -/
def storedAxis : Option Nat → Int64
  | none => -1
  | some axis => Int64.ofNat axis

/-- The mesh dimensions given to the split axes among some sizes.  Each split axis has one
dimension, which is of its size, and the other axes have none. -/
structure Matches (mesh sizes : List Int64) (dims : List (Option Nat)) : Prop where
  length : dims.length = mesh.length
  size : ∀ dimension axis : Nat, dims[dimension]? = some (some axis) →
    sizes[axis]? = mesh[dimension]?
  count : ∀ (axis : Nat) size, sizes[axis]? = some size →
    dims.count (some axis) = if size = 1 then 0 else 1

variable {mesh sizes : List Int64} {dims : List (Option Nat)} {size : Int64}

/-- An axis that has a dimension is one of the axes. -/
theorem Matches.axis_lt (matched : Matches mesh sizes dims) {axis : Nat}
    (member : some axis ∈ dims) : axis < sizes.length := by
  obtain ⟨dimension, found⟩ := List.mem_iff_getElem?.mp member
  have inside := (List.getElem?_eq_some_iff.mp found).1
  rw [matched.length] at inside
  have same := matched.size dimension axis found
  rw [List.getElem?_eq_getElem inside] at same
  exact (List.getElem?_eq_some_iff.mp same).1

/-- The next axis has no dimension yet. -/
theorem Matches.count_next (matched : Matches mesh sizes dims) :
    dims.count (some sizes.length) = 0 := by
  rw [List.count_eq_zero]
  intro member
  exact Nat.lt_irrefl _ (matched.axis_lt member)

theorem matches_nil (mesh : List Int64) :
    Matches mesh [] (List.replicate mesh.length none) where
  length := List.length_replicate
  size dimension axis found := by
    have member := List.mem_of_getElem? found
    cases List.eq_of_mem_replicate member
  count axis size found := by cases found

theorem getElem?_append_singleton {later : Int64} {axis : Nat}
    (found : (sizes ++ [later])[axis]? = some size) :
    sizes[axis]? = some size ∨ axis = sizes.length ∧ later = size := by
  by_cases inside : axis < sizes.length
  · rw [List.getElem?_append_left inside] at found
    exact Or.inl found
  · have last := (List.getElem?_eq_some_iff.mp found).1
    rw [List.length_append, List.length_singleton] at last
    have axis_eq : axis = sizes.length := by omega
    subst axis_eq
    rw [List.getElem?_concat_length] at found
    exact Or.inr ⟨rfl, Option.some.inj found⟩

/-- An axis that is not split needs no dimension. -/
theorem Matches.skip (matched : Matches mesh sizes dims) : Matches mesh (sizes ++ [1]) dims where
  length := matched.length
  size dimension axis found := by
    have inside := matched.axis_lt (List.mem_of_getElem? found)
    rw [List.getElem?_append_left inside]
    exact matched.size dimension axis found
  count axis size found := by
    rcases getElem?_append_singleton found with known | ⟨rfl, rfl⟩
    · exact matched.count axis size known
    · rw [if_pos rfl]
      exact matched.count_next

/-- A split axis takes a free dimension of its size. -/
theorem Matches.take (matched : Matches mesh sizes dims) (split : size ≠ 1) {dimension : Nat}
    (free : dims[dimension]? = some none) (same : mesh[dimension]? = some size) :
    Matches mesh (sizes ++ [size]) (dims.set dimension (some sizes.length)) where
  length := by rw [List.length_set, matched.length]
  size other axis found := by
    rw [List.getElem?_set] at found
    split at found
    · rename_i here
      subst here
      split at found
      · cases found
        rw [List.getElem?_concat_length, same]
      · cases found
    · have inside := matched.axis_lt (List.mem_of_getElem? found)
      rw [List.getElem?_append_left inside]
      exact matched.size other axis found
  count axis other found := by
    obtain ⟨inside, none_eq⟩ := List.getElem?_eq_some_iff.mp free
    rw [List.count_set inside, none_eq]
    rcases getElem?_append_singleton found with known | ⟨rfl, rfl⟩
    · have earlier := (List.getElem?_eq_some_iff.mp known).1
      have different : sizes.length ≠ axis := by omega
      rw [matched.count axis other known]
      simp [different]
    · rw [matched.count_next, if_neg split]
      simp

/-! ## Giving dimensions away -/

theorem Direction.dimension?_inj {direction : Direction} {rank first second dimension : Nat}
    (found : direction.dimension? rank first = some dimension)
    (foundSecond : direction.dimension? rank second = some dimension) : first = second := by
  cases direction with
  | frontToBack => exact (Option.some.inj found).trans (Option.some.inj foundSecond).symm
  | backToFront =>
      simp only [dimension?, Option.ite_none_right_eq_some, Option.some.injEq] at found foundSecond
      omega

/-- The dimensions whose turn is still to come are free. -/
def Free (direction : Direction) (taken : Nat) (dims : List (Option Nat)) : Prop :=
  ∀ later ≥ taken, ∀ dimension, direction.dimension? dims.length later = some dimension →
    ∀ axis, dims[dimension]? ≠ some (some axis)

variable {sharding : Sharding} {direction : Direction} {taken : Nat} {assigned : List Int64}

/-- Taking the dimension whose turn it is leaves those after it free. -/
theorem Free.take (free : Free direction taken dims) {dimension axis : Nat}
    (turn : direction.dimension? dims.length taken = some dimension) :
    Free direction (taken + 1) (dims.set dimension (some axis)) := by
  intro later after other turnOther
  rw [List.length_set] at turnOther
  have different : dimension ≠ other := by
    rintro rfl
    have same := Direction.dimension?_inj turn turnOther
    omega
  rw [List.getElem?_set_ne different]
  exact free later (by omega) other turnOther

/-- Once the sizes so far are matched, assigning the remaining ones matches all of
them. -/
theorem matches_of_assignFrom {later : List Int64} (matched : Matches sharding.meshShape sizes dims)
    (free : Free direction taken dims)
    (run : assignFrom sharding direction sizes.length taken (dims.map storedAxis) later =
      .ok assigned) :
    ∃ axes, assigned = axes.map storedAxis ∧
      Matches sharding.meshShape (sizes ++ later) axes := by
  induction later generalizing sizes dims taken with
  | nil =>
      cases run
      rw [List.append_nil]
      exact ⟨dims, rfl, matched⟩
  | cons size later ih =>
      have next : (sizes ++ [size]).length = sizes.length + 1 := by simp
      rw [List.append_cons]
      simp only [assignFrom] at run
      split at run
      · rename_i whole
        subst whole
        rw [← next] at run
        exact ih matched.skip free run
      · rename_i isSplit
        split at run
        · cases run
        · rename_i found
          simp only [Option.bind_eq_bind, Option.bind_eq_some_iff, Option.pure_def,
            Option.some.injEq, Prod.mk.injEq] at found
          obtain ⟨dimension, turn, meshSize, same, rfl, rfl⟩ := found
          rw [← matched.length] at turn
          split at run
          · rename_i equal
            subst equal
            have inside := (List.getElem?_eq_some_iff.mp same).1
            rw [← matched.length] at inside
            have unused : dims[dimension]? = some none := by
              rw [List.getElem?_eq_getElem inside]
              cases given : dims[dimension] with
              | none => rfl
              | some axis =>
                  have notGiven := free taken (Nat.le_refl _) dimension turn axis
                  rw [List.getElem?_eq_getElem inside, given] at notGiven
                  exact absurd rfl notGiven
            have stored : (dims.map storedAxis).set dimension (Int64.ofNat sizes.length) =
                (dims.set dimension (some sizes.length)).map storedAxis := by
              rw [List.map_set]
              rfl
            rw [stored, ← next] at run
            exact ih (matched.take isSplit unused same) (free.take turn) run
          · cases run

/-- An assignment that succeeds matches every split axis with a mesh dimension. -/
theorem matches_of_assign (run : sharding.assign direction = .ok assigned) :
    ∃ axes, assigned = axes.map storedAxis ∧
      Matches sharding.meshShape sharding.shardShape axes := by
  have none_stored : List.replicate sharding.meshShape.length (-1) =
      (List.replicate sharding.meshShape.length none).map storedAxis := by
    rw [List.map_replicate]
    rfl
  have free : Free direction (if sharding.isLine then 1 else 0)
      (List.replicate sharding.meshShape.length none) := by
    intro later _ dimension _ axis given
    cases List.eq_of_mem_replicate (List.mem_of_getElem? given)
  rw [assign, none_stored] at run
  exact matches_of_assignFrom (matches_nil sharding.meshShape) free run

theorem matches_of_assignEither {written : Bool}
    (run : sharding.assignEither written = .ok assigned) :
    ∃ axes, assigned = axes.map storedAxis ∧
      Matches sharding.meshShape sharding.shardShape axes := by
  rw [assignEither] at run
  split at run
  · split at run
    · cases run
      exact matches_of_assign ‹_›
    · split at run
      · cases run
      · split at run
        · cases run
          exact matches_of_assign ‹_›
        · cases run
  · exact matches_of_assign run

end Tilework.Sharding
