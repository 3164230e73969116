import Tilework.Proofs.Lowering.Closure
import Tilework.Proofs.Lowering.References
import Tilework.Proofs.Lowering.Tables

/-!
# Linked records

Linking a reference looks a handle up or makes one, and may add an alias.  Since
handles keep their meaning while the tables grow, a linked record can be read off
the finished tables: each of its handles is the one of what the reference stands
for, and a value stands for its root.
-/

namespace Tilework

open Artifact Interner

/-! ## Steps -/

namespace Lowering

variable {α : Type} {m : Module} {options : LoweringOptions} {before after : LoweringState}
  {value output result : ValueId} {handle : Handle}

theorem runs_interning {action : Interning α} {outcome : Except LoweringError α} :
    Runs (interning action) before outcome after ↔
      Runs action before.interner outcome after.interner ∧ after.aliases = before.aliases := by
  have run : Runs (interning action) before outcome after ↔
      (action.run before.interner).1 = outcome ∧
        { before with interner := (action.run before.interner).2 } = after := Prod.ext_iff
  have inner : Runs action before.interner outcome after.interner ↔
      (action.run before.interner).1 = outcome ∧
        (action.run before.interner).2 = after.interner := Prod.ext_iff
  rw [run, inner]
  constructor
  · rintro ⟨outcome_eq, rfl⟩
    exact ⟨⟨outcome_eq, rfl⟩, rfl⟩
  · rintro ⟨⟨outcome_eq, interner_eq⟩, aliases_eq⟩
    refine ⟨outcome_eq, ?_⟩
    rw [interner_eq, ← aliases_eq]

theorem runs_lookup_ok {table : Table} {key : Key} :
    Runs (interning (Interning.lookup table key)) before (.ok handle) after ↔
      before.interner.handle? table key = some handle ∧ after = before := by
  rw [runs_interning, Interning.runs_lookup_ok]
  constructor
  · rintro ⟨⟨found, interner_eq⟩, aliases_eq⟩
    refine ⟨found, ?_⟩
    cases before
    cases after
    cases interner_eq
    cases aliases_eq
    rfl
  · rintro ⟨found, rfl⟩
    exact ⟨⟨found, rfl⟩, rfl⟩

theorem runs_resolve_bind {next : ValueId → Lowering α} {outcome : Except LoweringError α} :
    Runs (resolve value >>= next) before outcome after ↔
      Runs (next (before.aliases.resolve value)) before outcome after :=
  Iff.rfl

theorem runs_shared_ok {table : Table} :
    Runs (shared table value) before (.ok handle) after ↔
      before.interner.handle? table (.value (before.aliases.resolve value)) = some handle ∧
        after = before := by
  rw [shared, runs_resolve_bind, runs_lookup_ok]

/-- A request leaves the aliases as they are, and the handle that it returns is
the one of its key. -/
theorem handle?_of_runs_intern {table : Table} {key : Key} {build : Interning table.Record}
    (run : Runs (interning (Interning.intern table key build)) before (.ok handle) after) :
    after.interner.handle? table key = some handle ∧ after.aliases = before.aliases := by
  rcases runs_interning.mp run with ⟨interned, aliases_eq⟩
  exact ⟨Interning.handle?_of_runs_intern interned, aliases_eq⟩

theorem handle?_of_runs_own {table : Table} {asked : Except ModuleError α}
    {record : α → Interning table.Record}
    (run : Runs (own table value asked record) before (.ok handle) after) :
    after.interner.handle? table (.value value) = some handle ∧
      after.aliases = before.aliases := by
  rcases runs_bind_ok.mp run with ⟨type, middle, typed, interned⟩
  rcases runs_lift.mp typed with ⟨_, rfl⟩
  exact handle?_of_runs_intern interned

theorem runs_write_ok (different : result ≠ output) :
    Runs (write output result) before (.ok handle) after ↔
      after = { before with aliases := (result, output) :: before.aliases } ∧
        after.interner.handle? .tensors (.value (after.aliases.resolve result)) = some handle := by
  rw [write, if_pos different, runs_bind_ok]
  constructor
  · rintro ⟨_, middle, modified, run⟩
    rcases runs_modify.mp modified with ⟨_, middle_eq⟩
    rcases runs_shared_ok.mp run with ⟨found, rfl⟩
    exact ⟨middle_eq, found⟩
  · rintro ⟨after_eq, found⟩
    exact ⟨_, after, runs_modify.mpr ⟨rfl, after_eq⟩, runs_shared_ok.mpr ⟨found, rfl⟩⟩

end Lowering

/-! ## What every step keeps -/

/-- The tables of a state grow, and go on to describe their keys. -/
def LoweringState.Advances (m : Module) (options : LoweringOptions)
    (before after : LoweringState) : Prop :=
  Interner.Advances m options before.interner after.interner

instance {m : Module} {options : LoweringOptions} :
    Std.Refl (LoweringState.Advances m options) where
  refl state := Std.Refl.refl state.interner

instance {m : Module} {options : LoweringOptions} :
    IsTrans LoweringState (LoweringState.Advances m options) where
  trans first second third := IsTrans.trans first.interner second.interner third.interner

namespace Lowering

variable {m : Module} {options : LoweringOptions}

theorem advances_interning {α : Type} {action : Interning α}
    (kept : Keeps (Interner.Advances m options) action) :
    Keeps (LoweringState.Advances m options) (interning action) := by
  intro before outcome after run
  exact kept before.interner outcome after.interner (runs_interning.mp run).1

theorem advances_modify {f : LoweringState → LoweringState}
    (same : ∀ state, (f state).interner = state.interner) :
    Keeps (LoweringState.Advances m options) (modify f : Lowering PUnit) := by
  intro before outcome after run
  rcases runs_modify.mp run with ⟨_, rfl⟩
  rw [LoweringState.Advances, same]
  exact Std.Refl.refl before.interner

end Lowering

/-- The steps of lowering advance the tables. -/
theorem closed_advances {m : Module} {options : LoweringOptions} :
    Lowering.Closed m fun {_} action => Keeps (LoweringState.Advances m options) action where
  pure := keeps_pure
  bind := keeps_bind
  resolve value := by
    rw [Lowering.resolve]
    exact keeps_bind keeps_get fun state => keeps_pure _
  lookup _ _ := Lowering.advances_interning Interning.keeps_lookup
  modify _ := Lowering.advances_modify fun _ => rfl
  program later := by
    apply keeps_lift_bind
    intro value found
    exact later value (mapError_eq_ok_iff.mp found)
  internTensor typed := Lowering.advances_interning (advances_tensor typed)
  internDevice typed := Lowering.advances_interning (advances_device typed)
  memoryConfig config := Lowering.advances_interning (advances_memoryConfig config)
  unplaced _ := keeps_throw _
  encode _ := keeps_lift _

/-! ## Handles of references -/

namespace Reference

variable {interner earlier later : Interner} {root : ValueId → ValueId} {reference : Reference}
  {handle : Handle}

/-- The handle that a reference stands for in finished tables, where values share
the tensors and devices of their roots. -/
def handleIn (interner : Interner) (root : ValueId → ValueId) : Reference → Option Handle
  | tensor value => interner.handle? .tensors (.value (root value))
  | device value => interner.handle? .devices (.value (root value))
  | memoryConfig config => interner.handle? .memoryConfigs (.memoryConfig config)
  | allocated result => interner.handle? .tensors (.value result)
  | written _ result => interner.handle? .tensors (.value (root result))
  | opened result => interner.handle? .devices (.value result)
  | unplaced _ => none

theorem handleIn_of_grows (grows : earlier.Grows later) (distinct : later.Distinct)
    (found : reference.handleIn earlier root = some handle) :
    reference.handleIn later root = some handle := by
  cases reference with
  | unplaced => cases found
  | _ => exact handle?_of_grows grows distinct found

/-- The value whose chain of aliases linking follows. -/
def followed? : Reference → Option ValueId
  | tensor value | device value => some value
  | written _ result => some result
  | _ => none

/-- The aliases after some references have been linked. -/
def aliasesFrom (aliases : Aliases) (references : List Reference) : Aliases :=
  (references.filterMap alias?).reverse ++ aliases

/-- References none of which is an alias of itself, and each of which leads to the
root of its value when its turn comes. -/
structure Coherent (root : ValueId → ValueId) (aliases : Aliases) (references : List Reference) :
    Prop where
  proper : ∀ reference ∈ references, ∀ pair, reference.alias? = some pair → pair.1 ≠ pair.2
  follows : ∀ before reference after, references = before ++ reference :: after →
    ∀ value, reference.followed? = some value →
      (aliasesFrom aliases (before ++ [reference])).resolve value = root value

theorem aliasesFrom_append (aliases : Aliases) (references later : List Reference) :
    aliasesFrom aliases (references ++ later) =
      aliasesFrom (aliasesFrom aliases references) later := by
  simp [aliasesFrom]

theorem aliasesFrom_singleton (aliases : Aliases) (reference : Reference) :
    aliasesFrom aliases [reference] = reference.alias?.toList ++ aliases := by
  cases given : reference.alias? <;> simp [aliasesFrom, given]

theorem Coherent.append {aliases : Aliases} {references later : List Reference}
    (coherent : Coherent root aliases (references ++ later)) :
    Coherent root aliases references ∧ Coherent root (aliasesFrom aliases references) later := by
  refine ⟨⟨?_, ?_⟩, ⟨?_, ?_⟩⟩
  · intro reference member
    exact coherent.proper reference (List.mem_append_left _ member)
  · rintro before reference after rfl
    exact coherent.follows before reference (after ++ later) (by simp)
  · intro reference member
    exact coherent.proper reference (List.mem_append_right _ member)
  · rintro before reference after rfl value followed
    rw [← aliasesFrom_append, ← List.append_assoc]
    exact coherent.follows (references ++ before) reference after (by simp) value followed

/-- Linking a reference adds its alias, and returns the handle that it stands
for. -/
theorem handleIn_of_runs_link {m : Module} {before after : LoweringState}
    (coherent : Coherent root before.aliases [reference])
    (run : Runs (reference.link m) before (.ok handle) after) :
    after.aliases = aliasesFrom before.aliases [reference] ∧
      reference.handleIn after.interner root = some handle := by
  have leads : ∀ value, reference.followed? = some value →
      (aliasesFrom before.aliases [reference]).resolve value = root value :=
    coherent.follows [] reference [] rfl
  rw [aliasesFrom_singleton] at leads ⊢
  cases reference with
  | tensor value | device value =>
      rcases Lowering.runs_shared_ok.mp run with ⟨found, rfl⟩
      refine ⟨rfl, ?_⟩
      rw [handleIn, ← leads value rfl]
      exact found
  | memoryConfig config =>
      obtain ⟨found, aliases_eq⟩ := Lowering.handle?_of_runs_intern run
      exact ⟨aliases_eq, found⟩
  | allocated result | opened result =>
      obtain ⟨found, aliases_eq⟩ := Lowering.handle?_of_runs_own run
      exact ⟨aliases_eq, found⟩
  | written output result =>
      have different := coherent.proper _ List.mem_cons_self (result, output) rfl
      obtain ⟨rfl, found⟩ := (Lowering.runs_write_ok different).1 run
      refine ⟨rfl, ?_⟩
      rw [handleIn, ← leads result rfl]
      exact found
  | unplaced operation => cases (runs_throw.mp run).1

end Reference

/-! ## Records -/

section Records

variable {m : Module} {interner : Interner} {root : ValueId → ValueId}

/-- Steps that link some references one after another, and how their result is read
off the finished tables. -/
def ReadsOff (interner : Interner) (root : ValueId → ValueId) {α : Type} (steps : Lowering α)
    (reading : Option α) (references : List Reference) : Prop :=
  ∀ before value after, Reference.Coherent root before.aliases references →
    Runs steps before (.ok value) after →
    before.interner.Grows after.interner ∧
      after.aliases = Reference.aliasesFrom before.aliases references ∧
      (after.interner.Grows interner → reading = some value)

theorem readsOff_relates (distinct : interner.Distinct) :
    OperationRecord.Relates (Reference.link m) (Reference.handleIn interner root)
      (ReadsOff interner root) where
  pure value := by
    intro before result after _ run
    rcases runs_pure.mp run with ⟨same, rfl⟩
    cases same
    exact ⟨Std.Refl.refl _, rfl, fun _ => rfl⟩
  bind {α β first second next other references later} firstReads nextReads := by
    intro before result after coherent run
    rcases runs_bind_ok.mp run with ⟨value, middle, ran, rest⟩
    obtain ⟨coherentFirst, coherentLater⟩ := coherent.append
    obtain ⟨grows, aliases_eq, reads⟩ := firstReads before value middle coherentFirst ran
    rw [← aliases_eq] at coherentLater
    obtain ⟨growsLater, aliasesLater_eq, readsLater⟩ :=
      nextReads value middle result after coherentLater rest
    refine ⟨IsTrans.trans _ _ _ grows growsLater, ?_, fun whole => ?_⟩
    · rw [aliasesLater_eq, aliases_eq, Reference.aliasesFrom_append]
    · rw [reads (IsTrans.trans _ _ _ growsLater whole), Option.bind_eq_bind, Option.bind_some]
      exact readsLater whole
  step reference := by
    intro before handle after coherent run
    obtain ⟨aliases_eq, found⟩ := Reference.handleIn_of_runs_link coherent run
    have advances : Keeps (LoweringState.Advances m {}) (reference.link m) :=
      closed_advances.link reference
    exact ⟨(advances before _ after run).1, aliases_eq,
      fun whole => Reference.handleIn_of_grows whole distinct found⟩

/-- The references of an instruction are coherent at the aliases of the
instructions before it. -/
theorem coherent_of_record {function : Function} (wellFormed : function.WellFormed m)
    {earlier later : List Instruction} {instruction : Instruction}
    (split : function.body = earlier ++ instruction :: later) {record : OperationRecord Reference}
    (encoded : instruction.operation.record m = .ok record) :
    Reference.Coherent function.root (aliasesAfter earlier) record.references := by
  have whole : function.body = (earlier ++ [instruction]) ++ later := by simp [split]
  have aliases := Operation.aliases_of_record encoded
  have fits : ∀ reference ∈ record.references,
      ∃ role, Reference.Fits instruction.operation role reference := by
    intro reference member
    rcases List.mem_map.mp member with ⟨slot, inside, rfl⟩
    exact ⟨slot.1, Operation.fits_of_record encoded slot inside⟩
  constructor
  · intro reference member pair given
    have added : pair ∈ record.references.filterMap Reference.alias? :=
      List.mem_filterMap.mpr ⟨reference, member, given⟩
    rw [aliases, Option.mem_toList] at added
    exact Instruction.alias?_proper wellFormed split added
  · intro before reference after parts value followed
    -- so far either nothing has been added, or the only alias of the instruction
    have soFar : Reference.aliasesFrom (aliasesAfter earlier) (before ++ [reference]) =
        aliasesAfter earlier ∧ reference.alias? = none ∨
          Reference.aliasesFrom (aliasesAfter earlier) (before ++ [reference]) =
            aliasesAfter (earlier ++ [instruction]) := by
      have parted : (before ++ [reference]).filterMap Reference.alias? ++
          after.filterMap Reference.alias? = instruction.alias?.toList := by
        rw [← aliases, parts, ← List.filterMap_append, List.append_assoc, List.singleton_append]
      rw [Reference.aliasesFrom, aliasesAfter_append_singleton]
      rcases eq_nil_or_eq_toList parted with nothing | all
      · refine Or.inl ⟨by rw [nothing]; rfl, ?_⟩
        exact List.filterMap_eq_nil_iff.mp nothing reference (by simp)
      · right
        rw [all]
        cases instruction.alias? <;> rfl
    have member : reference ∈ record.references := by simp [parts]
    obtain ⟨role, fit⟩ := fits reference member
    have operand : ∀ operand ∈ instruction.operation.operands,
        (Reference.aliasesFrom (aliasesAfter earlier) (before ++ [reference])).resolve operand =
          function.root operand := by
      intro operand used
      have known := wellFormed.ordered earlier instruction later split operand used
      rcases soFar with ⟨same, _⟩ | same
      · rw [same, resolve_aliasesAfter_of_known wellFormed split known]
      · rw [same, resolve_aliasesAfter_of_known wellFormed whole]
        simp only [resultsOf, List.flatMap_append, List.mem_append] at known ⊢
        exact known.imp id Or.inl
    cases fit with
    | tensor read | device read =>
        cases followed
        exact operand value (List.mem_append_left _ read)
    | written given defines =>
        cases followed
        rcases soFar with ⟨_, unaliased⟩ | same
        · cases unaliased
        · rw [same, resolve_aliasesAfter_of_known wellFormed whole]
          simp [resultsOf, defines]
    | memoryConfig | allocated | opened | unplaced => cases followed

/-- Lowering an instruction adds its alias, and its record can be read off the
finished tables. -/
theorem record_of_runs_lower {function : Function} (wellFormed : function.WellFormed m)
    {earlier later : List Instruction} {instruction : Instruction}
    (split : function.body = earlier ++ instruction :: later) {before after : LoweringState}
    {linked : OperationRecord Handle} (aliases_eq : before.aliases = aliasesAfter earlier)
    (run : Runs (instruction.operation.lower m) before (.ok linked) after) :
    after.aliases = aliasesAfter (earlier ++ [instruction]) ∧
      ∃ record, instruction.operation.record m = .ok record ∧
        ∀ interner, after.interner.Grows interner → interner.Distinct →
          record.mapM (Reference.handleIn interner function.root) = some linked := by
  rcases runs_bind_ok.mp run with ⟨record, middle, encoded, linking⟩
  rcases runs_lift.mp encoded with ⟨found, rfl⟩
  have coherent := coherent_of_record wellFormed split found.symm
  have aliases := Operation.aliases_of_record found.symm
  rw [← aliases_eq] at coherent
  have reads (interner : Interner) (distinct : interner.Distinct) :
      after.aliases = Reference.aliasesFrom middle.aliases record.references ∧
        (after.interner.Grows interner →
          record.mapM (Reference.handleIn interner function.root) = some linked) :=
    ((readsOff_relates distinct).mapM record middle linked after coherent linking).2
  have empty : Interner.Distinct {} := (sound_empty : Interner.Sound m {} {}).distinct
  refine ⟨?_, record, found.symm, fun interner grows distinct => (reads interner distinct).2 grows⟩
  rw [(reads {} empty).1, aliases_eq, Reference.aliasesFrom, aliases,
    aliasesAfter_append_singleton]
  cases instruction.alias? <;> rfl

end Records

end Tilework
