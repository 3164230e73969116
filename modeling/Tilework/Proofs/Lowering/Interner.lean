import Mathlib.Data.List.Infix
import Mathlib.Data.List.Nodup
import Tilework.Lowering.Interner
import Tilework.Proofs.Run

/-!
# Tables that grow

Interning adds rows and changes none, so a handle keeps its meaning for as long
as no key has two rows.  A request for a key returns the handle of its row,
whether the row was there or had to be built.
-/

namespace Tilework

open Artifact

/-! ## Positions -/

namespace Rows

variable {ρ : Type} {rows older newer : Rows ρ} {key other : Key} {position : Nat}

/-- The keys of all rows, newest first. -/
def keys (rows : Rows ρ) : List Key :=
  rows.map Prod.fst

/-- A key is found at the number of rows that are older than its newest row. -/
theorem position?_eq_some_iff :
    rows.position? key = some position ↔
      ∃ (newer : Rows ρ) (record : ρ) (older : Rows ρ),
        rows = newer ++ (key, record) :: older ∧ key ∉ newer.keys ∧ older.length = position := by
  induction rows with
  | nil => simp [position?]
  | cons row rows ih =>
      rcases row with ⟨first, record⟩
      simp only [position?]
      by_cases same : first = key
      · rw [if_pos same]
        constructor
        · rintro found
          cases found
          exact ⟨[], record, rows, by simp [same], by simp [keys], rfl⟩
        · rintro ⟨newer, found, older, split, notNewer, rfl⟩
          cases newer with
          | nil =>
              cases split
              rfl
          | cons row newer =>
              cases split
              simp [keys, same] at notNewer
      · rw [if_neg same, ih]
        constructor
        · rintro ⟨newer, found, older, rfl, notNewer, rfl⟩
          refine ⟨(first, record) :: newer, found, older, rfl, ?_, rfl⟩
          simpa [keys, Ne.symm same] using notNewer
        · rintro ⟨newer, found, older, split, notNewer, rfl⟩
          cases newer with
          | nil =>
              cases split
              exact absurd rfl same
          | cons row newer =>
              cases split
              refine ⟨newer, found, older, rfl, ?_, rfl⟩
              intro member
              exact notNewer (List.mem_cons_of_mem _ member)

theorem position?_eq_none_iff : rows.position? key = none ↔ key ∉ rows.keys := by
  induction rows with
  | nil => simp [position?, keys]
  | cons row rows ih =>
      rcases row with ⟨first, record⟩
      simp only [position?]
      by_cases same : first = key
      · simp [same, keys]
      · rw [if_neg same, ih]
        simp [keys, Ne.symm same]

/-- A key is found exactly when there is a row for it. -/
theorem mem_keys_iff : key ∈ rows.keys ↔ ∃ position, rows.position? key = some position := by
  rw [← Option.isSome_iff_exists, Option.isSome_iff_ne_none, Ne, position?_eq_none_iff, not_not]

theorem position?_lt (found : rows.position? key = some position) : position < rows.length := by
  rw [position?_eq_some_iff] at found
  rcases found with ⟨newer, record, older, rfl, _, rfl⟩
  simp only [List.length_append, List.length_cons]
  omega

/-- The row of a key is stored at the position where the key is found. -/
theorem exists_row (found : rows.position? key = some position) :
    ∃ record, (key, record) ∈ rows ∧ rows.records[position]? = some record := by
  rw [position?_eq_some_iff] at found
  rcases found with ⟨newer, record, older, rfl, _, rfl⟩
  exact ⟨record, by simp, by simp [records]⟩

/-- Two keys at one position are the same. -/
theorem position?_inj (found : rows.position? key = some position)
    (foundOther : rows.position? other = some position) : key = other := by
  rw [position?_eq_some_iff] at found foundOther
  rcases found with ⟨newer, record, older, rfl, _, rfl⟩
  rcases foundOther with ⟨newerOther, recordOther, olderOther, split, _, sameLength⟩
  have parts := List.append_inj' split (by simp [sameLength])
  cases parts.2
  rfl

/-- A row that was found stays where it is while rows with other keys are added. -/
theorem position?_of_suffix (distinct : rows.keys.Nodup) (grown : older <:+ rows)
    (found : older.position? key = some position) : rows.position? key = some position := by
  rcases grown with ⟨added, rfl⟩
  rw [position?_eq_some_iff] at found ⊢
  rcases found with ⟨newer, record, older, rfl, notNewer, rfl⟩
  refine ⟨added ++ newer, record, older, by simp, ?_, rfl⟩
  simp only [keys, List.map_append, List.mem_append, not_or, List.map_cons] at distinct notNewer ⊢
  refine ⟨?_, notNewer⟩
  intro member
  exact (List.nodup_append.1 distinct).2.2 key member key (by simp) rfl

/-- A key has one record. -/
theorem record_eq (distinct : rows.keys.Nodup) {record other : ρ} (row : (key, record) ∈ rows)
    (otherRow : (key, other) ∈ rows) : record = other :=
  congrArg Prod.snd (List.inj_on_of_nodup_map distinct row otherRow rfl)

@[simp]
theorem length_records (rows : Rows ρ) : rows.records.length = rows.length := by
  simp [records]

/-- Every position below the number of rows is the one of a key. -/
theorem exists_key_of_lt (distinct : rows.keys.Nodup) (inside : position < rows.length) :
    ∃ key, rows.position? key = some position := by
  have later : rows.length - 1 - position < rows.length := by omega
  have split : rows = rows.take (rows.length - 1 - position) ++
      rows[rows.length - 1 - position] :: rows.drop (rows.length - 1 - position + 1) := by
    rw [List.getElem_cons_drop, List.take_append_drop]
  refine ⟨rows[rows.length - 1 - position].1, ?_⟩
  rw [position?_eq_some_iff]
  refine ⟨_, _, _, split, ?_, ?_⟩
  · intro member
    rw [split, keys, List.map_append, List.map_cons] at distinct
    exact (List.nodup_append.mp distinct).2.2 _ member _ List.mem_cons_self rfl
  · rw [List.length_drop]
    omega

end Rows

/-! ## Growth -/

namespace Interner

variable {interner earlier later : Interner} {table : Table} {key : Key} {handle : Handle}

/-- Every table of one state is what remains of the same table of another when
its newest rows are left out. -/
def Grows (earlier later : Interner) : Prop :=
  ∀ table, earlier.rows table <:+ later.rows table

/-- No key has two rows in a table. -/
def Distinct (interner : Interner) : Prop :=
  ∀ table, (interner.rows table).keys.Nodup

instance : Std.Refl Grows where
  refl _ _ := List.suffix_rfl

instance : IsTrans Interner Grows where
  trans _ _ _ first second table := (first table).trans (second table)

/-- Pushing a row under a new key. -/
theorem grows_push (interner : Interner) (table : Table) (key : Key) (record : table.Record) :
    interner.Grows (interner.push table key record) := by
  intro other
  by_cases same : other = table
  · subst same
    rw [rows_push_self]
    exact List.suffix_cons _ _
  · rw [rows_push_of_ne interner key record same]

theorem distinct_push (distinct : interner.Distinct) (record : table.Record)
    (isNew : interner.handle? table key = none) :
    (interner.push table key record).Distinct := by
  intro other
  by_cases same : other = table
  · subst same
    rw [rows_push_self]
    refine List.nodup_cons.mpr ⟨?_, distinct other⟩
    exact Rows.position?_eq_none_iff.mp (Option.map_eq_none_iff.mp isNew)
  · rw [rows_push_of_ne interner key record same]
    exact distinct other

/-! ## Handles -/

/-- Handles keep their meaning. -/
theorem handle?_of_grows (grows : earlier.Grows later) (distinct : later.Distinct)
    (found : earlier.handle? table key = some handle) :
    later.handle? table key = some handle := by
  rcases Option.map_eq_some_iff.mp found with ⟨position, at_position, rfl⟩
  have still := Rows.position?_of_suffix (distinct table) (grows table) at_position
  simp [handle?, still]

theorem handle?_push_self (interner : Interner) (table : Table) (key : Key)
    (record : table.Record) :
    (interner.push table key record).handle? table key =
      some (UInt32.ofNat (interner.rows table).length) := by
  simp [handle?, rows_push_self, Rows.position?]

/-- A new row has nothing to do with the other keys. -/
theorem handle?_push_of_ne (interner : Interner) (record : table.Record) {request : Table × Key}
    (other : request ≠ (table, key)) :
    (interner.push table key record).handle? request.1 request.2 =
      interner.handle? request.1 request.2 := by
  by_cases same : request.1 = table
  · subst same
    have otherKey : key ≠ request.2 := fun equal => other (by rw [equal])
    simp [handle?, rows_push_self, Rows.position?, otherKey]
  · rw [handle?, rows_push_of_ne interner key record same, handle?]

/-- Handles are in range, even where the positions do not fit in 32 bits. -/
theorem handle?_lt (found : interner.handle? table key = some handle) :
    handle.toNat < (interner.objects.records table).length := by
  rcases Option.map_eq_some_iff.mp found with ⟨position, at_position, rfl⟩
  have inside := Rows.position?_lt at_position
  rw [records_objects, Rows.length_records, UInt32.toNat_ofNat']
  exact Nat.lt_of_le_of_lt (Nat.mod_le _ _) inside

/-- Every position of a table is the handle of a key. -/
theorem exists_handle?_of_lt (distinct : interner.Distinct) {index : Nat}
    (inside : index < (interner.objects.records table).length) :
    ∃ key, interner.handle? table key = some (UInt32.ofNat index) := by
  rw [records_objects, Rows.length_records] at inside
  obtain ⟨key, found⟩ := Rows.exists_key_of_lt (distinct table) inside
  exact ⟨key, by rw [handle?, found, Option.map_some]⟩

/-- While 32 bits can tell the positions of a table apart, a handle is one of them. -/
theorem position?_of_handle? (fits : (interner.objects.records table).length ≤ UInt32.size)
    (found : interner.handle? table key = some handle) :
    (interner.rows table).position? key = some handle.toNat := by
  rcases Option.map_eq_some_iff.mp found with ⟨position, at_position, rfl⟩
  have inside := Rows.position?_lt at_position
  rw [records_objects, Rows.length_records] at fits
  rw [at_position, UInt32.toNat_ofNat_of_lt' (by omega)]

theorem handle?_inj_of_le (fits : (interner.objects.records table).length ≤ UInt32.size)
    {other : Key} (found : interner.handle? table key = some handle)
    (foundOther : interner.handle? table other = some handle) : key = other :=
  Rows.position?_inj (position?_of_handle? fits found) (position?_of_handle? fits foundOther)

section

variable (small : ∀ table, (interner.objects.records table).length < UInt32.size)

include small

/-- A handle refers to the row of its key. -/
theorem exists_row_of_handle? (found : interner.handle? table key = some handle) :
    ∃ record, (key, record) ∈ interner.rows table ∧
      (interner.objects.records table)[handle.toNat]? = some record := by
  rw [records_objects]
  exact Rows.exists_row (position?_of_handle? (small table).le found)

/-- Different keys have different handles. -/
theorem handle?_inj {other : Key} (found : interner.handle? table key = some handle)
    (foundOther : interner.handle? table other = some handle) : key = other :=
  handle?_inj_of_le (small table).le found foundOther

end

end Interner

/-! ## Requests -/

namespace Interning

variable {table : Table} {key : Key} {build : Interning table.Record} {before after : Interner}
  {handle : Handle}

/-- A request looks for the key first. -/
theorem runs_intern {outcome : Except LoweringError Handle} :
    Runs (intern table key build) before outcome after ↔
      Runs
        (match before.handle? table key with
          | some handle => pure handle
          | none => do
              let record ← build
              let interner ← get
              set (interner.push table key record)
              pure (UInt32.ofNat (interner.rows table).length))
        before outcome after :=
  runs_get_bind

/-- Once a record is built, its row is pushed. -/
theorem runs_push {record : table.Record} {outcome : Except LoweringError Handle} :
    Runs
        (do
          let interner ← get
          set (interner.push table key record)
          pure (UInt32.ofNat (interner.rows table).length) : Interning Handle)
        before outcome after ↔
      outcome = .ok (UInt32.ofNat (before.rows table).length) ∧
        after = before.push table key record :=
  ⟨fun run => ⟨(Prod.mk.inj run).1.symm, (Prod.mk.inj run).2.symm⟩,
    fun ⟨outcomeIs, afterIs⟩ => by rw [outcomeIs, afterIs]; rfl⟩

/-- A request that succeeds leaves a row for its key behind. -/
theorem handle?_of_runs_intern (run : Runs (intern table key build) before (.ok handle) after) :
    after.handle? table key = some handle := by
  rw [runs_intern] at run
  cases found : before.handle? table key with
  | some known =>
      rw [found] at run
      rcases runs_pure.mp run with ⟨same, rfl⟩
      cases same
      exact found
  | none =>
      rw [found] at run
      rcases runs_bind_ok.mp run with ⟨record, middle, _, pushed⟩
      rcases runs_push.mp pushed with ⟨same, rfl⟩
      cases same
      exact Interner.handle?_push_self middle table key record

/-- A request keeps what its build keeps, as long as pushing the built row does. -/
theorem keeps_intern {R : Interner → Interner → Prop} [Std.Refl R] [IsTrans Interner R]
    (kept : Keeps R build)
    (pushed : ∀ before record middle, before.handle? table key = none →
      Runs build before (.ok record) middle → R middle (middle.push table key record)) :
    Keeps R (intern table key build) := by
  intro before outcome after run
  rw [runs_intern] at run
  cases found : before.handle? table key with
  | some known =>
      rw [found] at run
      rcases runs_pure.mp run with ⟨_, rfl⟩
      exact Std.Refl.refl after
  | none =>
      rw [found] at run
      rcases runs_bind.mp run with ⟨record, middle, built, rest⟩ | ⟨error, failed, _⟩
      · rcases runs_push.mp rest with ⟨_, rfl⟩
        exact IsTrans.trans before middle _ (kept before _ middle built)
          (pushed before record middle found built)
      · exact kept before _ after failed

theorem fails_intern {P : LoweringError → Prop} (described : Fails P build) :
    Fails P (intern table key build) := by
  intro before error after run
  rw [runs_intern] at run
  cases found : before.handle? table key with
  | some known =>
      rw [found] at run
      cases (runs_pure.mp run).1
  | none =>
      rw [found] at run
      rcases runs_bind.mp run with ⟨record, middle, _, rest⟩ | ⟨other, failed, same⟩
      · cases (runs_push.mp rest).1
      · cases same
        exact described before error after failed

theorem runs_lookup_ok :
    Runs (lookup table key) before (.ok handle) after ↔
      before.handle? table key = some handle ∧ after = before := by
  rw [lookup, runs_get_bind]
  cases found : before.handle? table key with
  | some known => simp [runs_pure, eq_comm]
  | none => simp [runs_throw]

theorem keeps_lookup {R : Interner → Interner → Prop} [Std.Refl R] [IsTrans Interner R] :
    Keeps R (lookup table key) := by
  rw [lookup]
  refine keeps_bind keeps_get fun interner => ?_
  split
  · exact keeps_pure _
  · exact keeps_throw _

theorem fails_lookup {P : LoweringError → Prop} (described : P (.notBuilt key.text table.text)) :
    Fails P (lookup table key) := by
  rw [lookup]
  refine fails_bind fails_get fun interner => ?_
  split
  · exact fails_pure _
  · exact fails_throw described

end Interning

end Tilework
