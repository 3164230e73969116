import Mathlib.Data.List.Induction
import Mathlib.Data.List.Nodup
import Tilework.Lowering.Cores
import Tilework.Proofs.Number
import Tilework.Proofs.Run

/-!
# Rectangles cover what they are made from

Whatever cores are gathered, and however they are listed, the rectangles hold exactly
these cores, and none of them twice.  The cores of a grid make up a single rectangle, at
the origin of the worker grid and of the size of the grid, unless there are none.
-/

namespace Tilework

open Artifact

/-! ## Cores in order -/

namespace Core

variable {core other : Core} {cores : List Core}

theorem Precedes.ne (precedes : core.Precedes other) : core ≠ other := by
  rintro rfl
  unfold Precedes at precedes
  omega

theorem Precedes.trans {third : Core} (first : core.Precedes other)
    (second : other.Precedes third) : core.Precedes third := by
  unfold Precedes at *
  omega

theorem precedes_of_not_precedes (later : ¬ core.Precedes other) (different : core ≠ other) :
    other.Precedes core := by
  rcases core with ⟨row, column⟩
  rcases other with ⟨otherRow, otherColumn⟩
  simp only [ne_eq, Core.mk.injEq] at different
  simp only [Precedes] at later ⊢
  omega

theorem mem_insert : other ∈ insert core cores ↔ other = core ∨ other ∈ cores := by
  induction cores with
  | nil => simp [insert]
  | cons first later ih =>
      rw [insert]
      split
      · rw [List.mem_cons]
      · split
        · rename_i _ same
          rw [same, List.mem_cons]
          exact (or_iff_right_of_imp Or.inl).symm
        · rw [List.mem_cons, ih, List.mem_cons]
          exact or_left_comm

theorem pairwise_insert (ordered : cores.Pairwise Precedes) :
    (insert core cores).Pairwise Precedes := by
  induction cores with
  | nil => exact List.pairwise_singleton _ _
  | cons first later ih =>
      obtain ⟨least, rest⟩ := List.pairwise_cons.mp ordered
      rw [insert]
      split
      · rename_i before
        refine List.pairwise_cons.mpr ⟨List.forall_mem_cons.mpr ⟨before, ?_⟩, ordered⟩
        exact fun other member => before.trans (least other member)
      · split
        · exact ordered
        · rename_i notBefore different
          refine List.pairwise_cons.mpr ⟨fun other member => ?_, ih rest⟩
          rcases mem_insert.mp member with rfl | member
          · exact precedes_of_not_precedes notBefore different
          · exact least other member

theorem mem_inOrder : core ∈ inOrder cores ↔ core ∈ cores := by
  induction cores with
  | nil => rfl
  | cons first later ih =>
      rw [inOrder, List.foldr_cons, mem_insert, ← inOrder, ih, List.mem_cons]

theorem pairwise_inOrder (cores : List Core) : (inOrder cores).Pairwise Precedes := by
  induction cores with
  | nil => exact List.Pairwise.nil
  | cons first later ih => exact pairwise_insert ih

theorem inOrder_of_pairwise (ordered : cores.Pairwise Precedes) : inOrder cores = cores := by
  induction cores with
  | nil => rfl
  | cons first later ih =>
      obtain ⟨least, rest⟩ := List.pairwise_cons.mp ordered
      rw [inOrder, List.foldr_cons, ← inOrder, ih rest]
      cases later with
      | nil => rfl
      | cons second later => rw [insert, if_pos (least second List.mem_cons_self)]

end Core

/-! ## What runs and rectangles hold -/

/-- The cores of a run, from left to right. -/
def Run.cores (run : Run) : List Core :=
  (List.range' run.left (run.right - run.left)).map (⟨run.row, ·⟩)

/-- The cores of a rectangle, row by row and from left to right. -/
def Rectangle.cores (rectangle : Rectangle) : List Core :=
  (List.range' rectangle.top (rectangle.bottom - rectangle.top)).flatMap fun row =>
    (⟨row, rectangle.left, rectangle.right⟩ : Run).cores

theorem Run.cores_extended {run : Run} (ordered : run.left ≤ run.right) :
    ({ run with right := run.right + 1 } : Run).cores = run.cores ++ [⟨run.row, run.right⟩] := by
  have count : run.right + 1 - run.left = run.right - run.left + 1 := by omega
  have last : run.left + (run.right - run.left) = run.right := by omega
  rw [cores, cores, count, List.range'_1_concat, last, List.map_append, List.map_singleton]

theorem Rectangle.cores_extended {rectangle : Rectangle}
    (ordered : rectangle.top ≤ rectangle.bottom) :
    ({ rectangle with bottom := rectangle.bottom + 1 } : Rectangle).cores =
      rectangle.cores ++ (⟨rectangle.bottom, rectangle.left, rectangle.right⟩ : Run).cores := by
  have count : rectangle.bottom + 1 - rectangle.top = rectangle.bottom - rectangle.top + 1 := by
    omega
  have last : rectangle.top + (rectangle.bottom - rectangle.top) = rectangle.bottom := by omega
  rw [cores, cores, count, List.range'_1_concat, last, List.flatMap_append,
    List.flatMap_singleton]

/-! ## Runs -/

namespace Core

variable {core : Core} {cores : List Core} {runs : List Run}

/-- A core that is added to runs comes last, and runs stay from left to right. -/
theorem cores_addToRuns (core : Core) (ordered : ∀ run ∈ runs, run.left ≤ run.right) :
    (addToRuns runs core).reverse.flatMap Run.cores =
        runs.reverse.flatMap Run.cores ++ [core] ∧
      ∀ run ∈ addToRuns runs core, run.left ≤ run.right := by
  have alone : (⟨core.row, core.column, core.column + 1⟩ : Run).cores = [core] := by
    simp [Run.cores]
  cases runs with
  | nil => simp [addToRuns, alone]
  | cons run older =>
      rw [List.forall_mem_cons] at ordered
      rw [addToRuns]
      split
      · rename_i continued
        obtain ⟨sameRow, sameColumn⟩ := continued
        have extended := Run.cores_extended ordered.1
        rw [sameRow, sameColumn] at extended
        refine ⟨?_, List.forall_mem_cons.mpr ⟨?_, ordered.2⟩⟩
        · simp [sameRow, extended]
        · exact (ordered.1.trans_eq sameColumn).trans (Nat.le_succ _)
      · refine ⟨by simp [alone], List.forall_mem_cons.mpr ⟨Nat.le_succ _, ?_⟩⟩
        exact List.forall_mem_cons.mpr ordered

/-- The runs of cores hold the cores in order. -/
theorem flatMap_cores_runs (cores : List Core) :
    (Core.runs cores).flatMap Run.cores = inOrder cores := by
  have each (listed : List Core) :
      (listed.foldl addToRuns []).reverse.flatMap Run.cores = listed ∧
        ∀ run ∈ listed.foldl addToRuns [], run.left ≤ run.right := by
    induction listed using List.reverseRecOn with
    | nil => exact ⟨rfl, List.forall_mem_nil _⟩
    | append_singleton earlier core ih =>
        obtain ⟨held, ordered⟩ := ih
        rw [List.foldl_append, List.foldl_cons, List.foldl_nil]
        obtain ⟨added, kept⟩ := cores_addToRuns core ordered
        exact ⟨by rw [added, held], kept⟩
  exact (each (inOrder cores)).1

end Core

/-! ## Rectangles -/

namespace Run

variable {run : Run} {listed : List Rectangle}

/-- The cores of a run that is added to rectangles are added to theirs. -/
theorem cores_addToRectangles (run : Run)
    (ordered : ∀ rectangle ∈ listed, rectangle.top ≤ rectangle.bottom) :
    ((run.addToRectangles listed).flatMap Rectangle.cores).Perm
        (listed.flatMap Rectangle.cores ++ run.cores) ∧
      ∀ rectangle ∈ run.addToRectangles listed, rectangle.top ≤ rectangle.bottom := by
  induction listed with
  | nil => simp [addToRectangles, Rectangle.cores]
  | cons rectangle later ih =>
      rw [List.forall_mem_cons] at ordered
      rw [addToRectangles]
      split
      · rename_i continued
        obtain ⟨sameBottom, sameLeft, sameRight⟩ := continued
        have extended := Rectangle.cores_extended ordered.1
        rw [sameBottom, sameLeft, sameRight] at extended
        refine ⟨?_, List.forall_mem_cons.mpr ⟨?_, ordered.2⟩⟩
        · rw [List.flatMap_cons, List.flatMap_cons, sameLeft, sameRight, extended,
            List.append_assoc, List.append_assoc]
          exact List.perm_append_comm.append_left _
        · exact (ordered.1.trans_eq sameBottom).trans (Nat.le_succ _)
      · obtain ⟨held, kept⟩ := ih ordered.2
        refine ⟨?_, List.forall_mem_cons.mpr ⟨ordered.1, kept⟩⟩
        rw [List.flatMap_cons, List.flatMap_cons, List.append_assoc]
        exact held.append_left _

/-- The rectangles of runs hold the cores of the runs. -/
theorem perm_flatMap_cores_rectangles (runs : List Run) :
    ((rectangles runs).flatMap Rectangle.cores).Perm (runs.flatMap Run.cores) := by
  have each : ((rectangles runs).flatMap Rectangle.cores).Perm (runs.flatMap Run.cores) ∧
      ∀ rectangle ∈ rectangles runs, rectangle.top ≤ rectangle.bottom := by
    induction runs using List.reverseRecOn with
    | nil => exact ⟨List.Perm.refl _, List.forall_mem_nil _⟩
    | append_singleton earlier run ih =>
        obtain ⟨held, ordered⟩ := ih
        rw [rectangles, List.foldl_append, List.foldl_cons, List.foldl_nil, ← rectangles]
        obtain ⟨added, kept⟩ := cores_addToRectangles run ordered
        refine ⟨added.trans ?_, kept⟩
        rw [List.flatMap_append, List.flatMap_singleton]
        exact held.append_right _
  exact each.1

end Run

namespace Core

theorem perm_cores_rectangles (cores : List Core) :
    ((Run.rectangles (runs cores)).flatMap Rectangle.cores).Perm (inOrder cores) := by
  rw [← flatMap_cores_runs]
  exact Run.perm_flatMap_cores_rectangles (runs cores)

/-- Whatever cores are gathered into rectangles, the rectangles hold these cores. -/
theorem mem_cores_rectangles {core : Core} {cores : List Core} :
    core ∈ (Run.rectangles (runs cores)).flatMap Rectangle.cores ↔ core ∈ cores :=
  (perm_cores_rectangles cores).mem_iff.trans mem_inOrder

/-- They hold none of them twice. -/
theorem nodup_cores_rectangles (cores : List Core) :
    ((Run.rectangles (runs cores)).flatMap Rectangle.cores).Nodup :=
  (perm_cores_rectangles cores).nodup_iff.mpr ((pairwise_inOrder cores).imp Precedes.ne)

end Core

/-! ## Stored rectangles -/

/-- The cores of a stored rectangle. -/
def Artifact.CoreRange.cores (range : CoreRange) : List Core :=
  match range.origin, range.size with
  | some origin, some size =>
      Rectangle.cores
        { top := origin.y.toInt.toNat
          bottom := (origin.y.toInt + size.y.toInt).toNat
          left := origin.x.toInt.toNat
          right := (origin.x.toInt + size.x.toInt).toNat }
  | _, _ => []

/-- A stored rectangle has a given origin and size. -/
def Artifact.CoreRange.Spans (range : CoreRange) (top left rows columns : Nat) : Prop :=
  ∃ origin size, range = { origin := some origin, size := some size } ∧
    origin.y.toInt = top ∧ origin.x.toInt = left ∧ size.y.toInt = rows ∧ size.x.toInt = columns

namespace Rectangle

variable {rectangle : Rectangle} {range : CoreRange}

/-- The numbers that are stored for a rectangle, in order, with their names. -/
def measures (rectangle : Rectangle) : List (String × Nat) :=
  [("core row", rectangle.top), ("core column", rectangle.left),
    ("core rows", rectangle.bottom - rectangle.top),
    ("core columns", rectangle.right - rectangle.left)]

theorem record_eq_ok_iff :
    rectangle.record = .ok range ↔
      range.Spans rectangle.top rectangle.left (rectangle.bottom - rectangle.top)
        (rectangle.right - rectangle.left) := by
  simp only [record, bind_eq_ok_iff, Number.toInt32_eq_ok_iff]
  constructor
  · rintro ⟨y, top, x, left, rows, height, columns, width, same⟩
    cases same
    exact ⟨{ y, x }, { y := rows, x := columns }, rfl, top, left, height, width⟩
  · rintro ⟨origin, size, rfl, top, left, height, width⟩
    exact ⟨_, top, _, left, _, height, _, width, rfl⟩

theorem exists_record (narrow : ∀ measure ∈ rectangle.measures, measure.2 < 2 ^ 31) :
    ∃ range, rectangle.record = .ok range := by
  have word (n : Nat) (small : n < 2 ^ 31) : ∃ word : Int32, word.toInt = n :=
    Number.exists_toInt_eq_natCast_iff.mpr small
  simp only [measures, List.forall_mem_cons] at narrow
  obtain ⟨y, top⟩ := word _ narrow.1
  obtain ⟨x, left⟩ := word _ narrow.2.1
  obtain ⟨rows, height⟩ := word _ narrow.2.2.1
  obtain ⟨columns, width⟩ := word _ narrow.2.2.2.1
  exact ⟨_, record_eq_ok_iff.mpr
    ⟨{ y, x }, { y := rows, x := columns }, rfl, top, left, height, width⟩⟩

/-- Numbers are stored one after another.  The first that does not fit is reported. -/
theorem toInt32_bind_of_find? {α : Type} {name : String} {n : Nat} {later : List (String × Nat)}
    {next : Int32 → Except LoweringError α} {measure : String × Nat}
    (found : ((name, n) :: later).find? (2 ^ 31 ≤ ·.2) = some measure)
    (rest : later.find? (2 ^ 31 ≤ ·.2) = some measure →
      ∀ word, next word = .error (.outOfRange measure.1 measure.2)) :
    (Number.toInt32 name n >>= next) = .error (.outOfRange measure.1 measure.2) := by
  rw [bind_eq_error_iff]
  rcases List.find?_cons_eq_some.mp found with ⟨wide, rfl⟩ | ⟨narrow, foundLater⟩
  · left
    have large : 2 ^ 31 ≤ n := of_decide_eq_true wide
    exact Number.toInt32_eq_error_iff.mpr ⟨Or.inr (by omega), rfl⟩
  · right
    have small : n < 2 ^ 31 := by simpa using narrow
    obtain ⟨word, stored⟩ := Number.exists_toInt_eq_natCast_iff.mpr small
    exact ⟨word, Number.toInt32_eq_ok_iff.mpr stored, rest foundLater word⟩

/-- The first number that does not fit is reported. -/
theorem record_of_find? {measure : String × Nat}
    (found : rectangle.measures.find? (2 ^ 31 ≤ ·.2) = some measure) :
    rectangle.record = .error (.outOfRange measure.1 measure.2) :=
  toInt32_bind_of_find? found fun found _ => toInt32_bind_of_find? found fun found _ =>
    toInt32_bind_of_find? found fun found _ => toInt32_bind_of_find? found fun none _ =>
      nomatch none

/-- Nothing else is reported. -/
theorem outOfRange_of_record {error : LoweringError} (failed : rectangle.record = .error error) :
    ∃ name n, error = .outOfRange name n := by
  cases found : rectangle.measures.find? (2 ^ 31 ≤ ·.2) with
  | some measure =>
      rw [record_of_find? found] at failed
      cases failed
      exact ⟨_, _, rfl⟩
  | none =>
      obtain ⟨range, stored⟩ := exists_record fun measure member => by
        simpa using List.find?_eq_none.mp found measure member
      rw [stored] at failed
      cases failed

theorem cores_of_record (stored : rectangle.record = .ok range) :
    range.cores = rectangle.cores := by
  obtain ⟨origin, size, rfl, top, left, height, width⟩ := record_eq_ok_iff.mp stored
  have rows : rectangle.top + (rectangle.bottom - rectangle.top) - rectangle.top =
      rectangle.bottom - rectangle.top := Nat.add_sub_cancel_left ..
  have columns : rectangle.left + (rectangle.right - rectangle.left) - rectangle.left =
      rectangle.right - rectangle.left := Nat.add_sub_cancel_left ..
  simp only [CoreRange.cores, top, left, height, width, ← Int.natCast_add, Int.toNat_natCast,
    cores, Run.cores, rows, columns]

theorem flatMap_cores_of_mapM_record {rectangles : List Rectangle} {ranges : List CoreRange}
    (stored : rectangles.mapM record = .ok ranges) :
    ranges.flatMap CoreRange.cores = rectangles.flatMap cores := by
  have each := mapM_eq_ok_iff.mp stored
  clear stored
  induction each with
  | nil => rfl
  | cons stored _ ih =>
      rw [List.flatMap_cons, List.flatMap_cons, cores_of_record stored, ih]

end Rectangle

/-! ## Grids -/

namespace Core

/-- Neighbouring cores of a row make up one run. -/
theorem foldl_addToRuns_row {row : Nat} {older : List Run} (above : ∀ run ∈ older, run.row ≠ row)
    (left count : Nat) :
    ((List.range (count + 1)).map fun column => (⟨row, left + column⟩ : Core)).foldl addToRuns
        older =
      ⟨row, left, left + (count + 1)⟩ :: older := by
  induction count with
  | zero =>
      cases older with
      | nil => rfl
      | cons run older =>
          have otherRow := above run List.mem_cons_self
          simp [addToRuns, otherRow]
  | succ count ih =>
      rw [List.range_succ, List.map_append, List.foldl_append, ih]
      simp [addToRuns, Nat.add_assoc]

/-- Rows of cores one below the other make up one run each. -/
theorem foldl_addToRuns_rows (top left width height : Nat) :
    ((List.range height).flatMap fun row =>
        (List.range (width + 1)).map fun column =>
          (⟨top + row, left + column⟩ : Core)).foldl addToRuns [] =
      ((List.range height).map fun row =>
        (⟨top + row, left, left + (width + 1)⟩ : Run)).reverse := by
  induction height with
  | zero => rfl
  | succ height ih =>
      have above : ∀ run ∈ ((List.range height).map fun row =>
          (⟨top + row, left, left + (width + 1)⟩ : Run)).reverse, run.row ≠ top + height := by
        intro run member
        obtain ⟨row, inside, rfl⟩ := List.mem_map.mp (List.mem_reverse.mp member)
        have below := List.mem_range.mp inside
        simp only [ne_eq]
        omega
      rw [List.range_succ (n := height), List.flatMap_append, List.foldl_append, ih,
        List.flatMap_singleton, foldl_addToRuns_row above]
      simp

end Core

/-- Runs one below the other make up one rectangle. -/
theorem Run.rectangles_rows (top left right height : Nat) :
    rectangles ((List.range (height + 1)).map fun row => ⟨top + row, left, right⟩) =
      [⟨top, top + (height + 1), left, right⟩] := by
  induction height with
  | zero => rfl
  | succ height ih =>
      rw [List.range_succ, List.map_append, rectangles, List.foldl_append, ← rectangles, ih]
      simp [addToRectangles, Nat.add_assoc]

namespace CoreGrid

variable (grid : CoreGrid) (workers : WorkerGrid)

/-- The rectangle that a grid occupies. -/
def rectangle : Rectangle where
  top := workers.originY.toNat
  bottom := workers.originY.toNat + grid.rows.toNat
  left := workers.originX.toNat
  right := workers.originX.toNat + grid.columns.toNat

variable {grid workers}

theorem mem_cores {core : Core} :
    core ∈ grid.cores workers ↔
      ∃ row column, row < grid.rows.toNat ∧ column < grid.columns.toNat ∧
        core = ⟨workers.originY.toNat + row, workers.originX.toNat + column⟩ := by
  simp only [cores, List.mem_flatMap, List.mem_map, List.mem_range]
  constructor
  · rintro ⟨row, inRow, column, inColumn, rfl⟩
    exact ⟨row, column, inRow, inColumn, rfl⟩
  · rintro ⟨row, column, inRow, inColumn, rfl⟩
    exact ⟨row, inRow, column, inColumn, rfl⟩

theorem pairwise_cores : (grid.cores workers).Pairwise Core.Precedes := by
  rw [cores, List.pairwise_flatMap]
  constructor
  · intro row _
    rw [List.pairwise_map]
    exact List.pairwise_lt_range.imp fun before => Or.inr ⟨rfl, Nat.add_lt_add_left before _⟩
  · refine List.pairwise_lt_range.imp fun before core member other memberOther => ?_
    obtain ⟨_, _, rfl⟩ := List.mem_map.mp member
    obtain ⟨_, _, rfl⟩ := List.mem_map.mp memberOther
    exact Or.inl (Nat.add_lt_add_left before _)

/-- A grid makes up a single rectangle. -/
theorem rectangles_cores (tall : grid.rows ≠ 0) (wide : grid.columns ≠ 0) :
    Run.rectangles (Core.runs (grid.cores workers)) = [grid.rectangle workers] := by
  have tallRows : grid.rows.toNat ≠ 0 := fun flat => tall (UInt32.toNat_inj.mp flat)
  have wideColumns : grid.columns.toNat ≠ 0 := fun flat => wide (UInt32.toNat_inj.mp flat)
  obtain ⟨height, rows⟩ := Nat.exists_eq_succ_of_ne_zero tallRows
  obtain ⟨width, columns⟩ := Nat.exists_eq_succ_of_ne_zero wideColumns
  rw [Core.runs, Core.inOrder_of_pairwise pairwise_cores, cores, rows, columns,
    Core.foldl_addToRuns_rows, List.reverse_reverse, Run.rectangles_rows, rectangle, rows, columns]

theorem cores_eq_nil (flat : grid.rows = 0 ∨ grid.columns = 0) : grid.cores workers = [] := by
  rcases flat with flat | flat <;> simp [cores, flat]

/-! ## Ranges -/

/-- The numbers that are stored for a grid, in order, with their names. -/
def measures (grid : CoreGrid) (workers : WorkerGrid) : List (String × Nat) :=
  [("core row", workers.originY.toNat), ("core column", workers.originX.toNat),
    ("core rows", grid.rows.toNat), ("core columns", grid.columns.toNat)]

/-- Some ranges, or the failure to find any, are those of a grid.  This says where a grid lies
on a chip as long as the numbers right after its last row and column fit 32 bits. -/
structure Occupies (grid : CoreGrid) (workers : WorkerGrid)
    (outcome : Except LoweringError (List CoreRange)) : Prop where
  /-- A grid is refused exactly if it has more rows or columns than the worker grid. -/
  outOfBounds_iff :
    (∃ rows columns workerRows workerColumns,
        outcome = .error (.gridOutOfBounds rows columns workerRows workerColumns)) ↔
      workers.rows < grid.rows ∨ workers.columns < grid.columns
  outOfBounds : workers.rows < grid.rows ∨ workers.columns < grid.columns →
    outcome = .error (.gridOutOfBounds grid.rows grid.columns workers.rows workers.columns)
  /-- A grid without rows or columns has no ranges. -/
  flat : grid.rows ≤ workers.rows → grid.columns ≤ workers.columns →
    grid.rows = 0 ∨ grid.columns = 0 → outcome = .ok []
  /-- Any other grid has a single range, which begins at the origin and is as large as the
  grid. -/
  single : grid.rows ≤ workers.rows → grid.columns ≤ workers.columns →
    grid.rows ≠ 0 → grid.columns ≠ 0 → (∀ measure ∈ grid.measures workers, measure.2 < 2 ^ 31) →
      ∃ range : CoreRange, outcome = .ok [range] ∧
        range.Spans workers.originY.toNat workers.originX.toNat grid.rows.toNat grid.columns.toNat
  /-- Unless one of its numbers is too large; the first of them is reported. -/
  outOfRange : grid.rows ≤ workers.rows → grid.columns ≤ workers.columns →
    grid.rows ≠ 0 → grid.columns ≠ 0 →
      ∀ measure, (grid.measures workers).find? (2 ^ 31 ≤ ·.2) = some measure →
        outcome = .error (.outOfRange measure.1 measure.2)
  /-- The ranges hold the cores at the places of the grid, and none of them twice. -/
  covers : ∀ ranges, outcome = .ok ranges →
    (ranges.flatMap CoreRange.cores).Nodup ∧
      ∀ core, core ∈ ranges.flatMap CoreRange.cores ↔
        ∃ row column, row < grid.rows.toNat ∧ column < grid.columns.toNat ∧
          core.row = workers.originY.toNat + row ∧ core.column = workers.originX.toNat + column

theorem coreRanges_of_le (rows : grid.rows ≤ workers.rows)
    (columns : grid.columns ≤ workers.columns) :
    grid.coreRanges workers =
      (Run.rectangles (Core.runs (grid.cores workers))).mapM Rectangle.record := by
  rw [coreRanges, if_neg]
  rw [not_or, UInt32.not_lt, UInt32.not_lt]
  exact ⟨rows, columns⟩

/-- The ranges of a grid hold the cores of its rectangles. -/
theorem flatMap_cores_of_coreRanges {ranges : List CoreRange}
    (found : grid.coreRanges workers = .ok ranges) :
    ranges.flatMap CoreRange.cores =
      (Run.rectangles (Core.runs (grid.cores workers))).flatMap Rectangle.cores := by
  rw [coreRanges] at found
  split at found
  · cases found
  · exact Rectangle.flatMap_cores_of_mapM_record found

theorem coreRanges_of_flat (rows : grid.rows ≤ workers.rows)
    (columns : grid.columns ≤ workers.columns) (flat : grid.rows = 0 ∨ grid.columns = 0) :
    grid.coreRanges workers = .ok [] := by
  rw [coreRanges_of_le rows columns, cores_eq_nil flat]
  rfl

theorem coreRanges_of_ne_zero (rows : grid.rows ≤ workers.rows)
    (columns : grid.columns ≤ workers.columns) (tall : grid.rows ≠ 0) (wide : grid.columns ≠ 0) :
    grid.coreRanges workers = (grid.rectangle workers).record.map ([·]) := by
  rw [coreRanges_of_le rows columns, rectangles_cores tall wide, List.mapM_cons, List.mapM_nil]
  cases (grid.rectangle workers).record <;> rfl

theorem measures_rectangle : (grid.rectangle workers).measures = grid.measures workers := by
  simp [Rectangle.measures, rectangle, measures]

/-- The ranges of a grid are a single one of its size, at its place. -/
theorem occupies_coreRanges (grid : CoreGrid) (workers : WorkerGrid) :
    grid.Occupies workers (grid.coreRanges workers) where
  outOfBounds_iff := by
    constructor
    · rintro ⟨rows, columns, workerRows, workerColumns, refused⟩
      by_contra fits
      rw [not_or, UInt32.not_lt, UInt32.not_lt] at fits
      by_cases flat : grid.rows = 0 ∨ grid.columns = 0
      · rw [coreRanges_of_flat fits.1 fits.2 flat] at refused
        cases refused
      · rw [not_or] at flat
        rw [coreRanges_of_ne_zero fits.1 fits.2 flat.1 flat.2, map_eq_error_iff] at refused
        obtain ⟨name, n, same⟩ := Rectangle.outOfRange_of_record refused
        cases same
    · intro exceeds
      exact ⟨_, _, _, _, if_pos exceeds⟩
  outOfBounds exceeds := if_pos exceeds
  flat := coreRanges_of_flat
  single rows columns tall wide narrow := by
    rw [← measures_rectangle] at narrow
    obtain ⟨range, stored⟩ := Rectangle.exists_record narrow
    refine ⟨range, ?_, ?_⟩
    · rw [coreRanges_of_ne_zero rows columns tall wide, stored]
      rfl
    · have spans := Rectangle.record_eq_ok_iff.mp stored
      simpa [rectangle] using spans
  outOfRange rows columns tall wide measure found := by
    rw [← measures_rectangle] at found
    rw [coreRanges_of_ne_zero rows columns tall wide, Rectangle.record_of_find? found]
    rfl
  covers ranges found := by
    rw [flatMap_cores_of_coreRanges found]
    refine ⟨Core.nodup_cores_rectangles _, fun core => ?_⟩
    rw [Core.mem_cores_rectangles, mem_cores]
    constructor
    · rintro ⟨row, column, inRow, inColumn, rfl⟩
      exact ⟨row, column, inRow, inColumn, rfl, rfl⟩
    · rintro ⟨row, column, inRow, inColumn, atRow, atColumn⟩
      refine ⟨row, column, inRow, inColumn, ?_⟩
      rw [← atRow, ← atColumn]

/-- The grid that is placed here begins in the second row and the third column. -/
example :
    CoreGrid.coreRanges ⟨2, 3⟩ { rows := 8, columns := 8, originY := 1, originX := 2 } =
      .ok [{ origin := some { y := 1, x := 2 }, size := some { y := 2, x := 3 } }] := by
  decide

end CoreGrid

end Tilework
