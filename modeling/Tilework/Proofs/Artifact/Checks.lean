import Tilework.Artifact.Verification
import Tilework.Proofs.Artifact.Slots

/-!
# Conditions on records

The conditions on an operation record are of two kinds.  Some ask that what is held
in a slot is a row of the slot's table, and there is one for each slot.  The others
concern attributes, and replacing references does not change them.
-/

namespace Tilework.Artifact

/-! ## Conditions that hold -/

namespace Check

/-- All conditions of a list hold. -/
def Hold (checks : List Check) : Prop :=
  ∀ check ∈ checks, check.run = .ok ()

@[simp]
theorem hold_nil : Hold [] := nofun

@[simp]
theorem hold_cons {check : Check} {checks : List Check} :
    Hold (check :: checks) ↔ check.run = .ok () ∧ Hold checks :=
  List.forall_mem_cons

@[simp]
theorem hold_append {checks others : List Check} :
    Hold (checks ++ others) ↔ Hold checks ∧ Hold others :=
  List.forall_mem_append

@[simp]
theorem hold_flatMap {α : Type} {values : List α} {checks : α → List Check} :
    Hold (values.flatMap checks) ↔ ∀ value ∈ values, Hold (checks value) := by
  simp only [Hold, List.mem_flatMap, forall_exists_index, and_imp]
  exact ⟨fun holds value member check inside => holds check value member inside,
    fun holds check value member inside => holds value member check inside⟩

@[simp]
theorem hold_map {α : Type} {values : List α} {check : α → Check} :
    Hold (values.map check) ↔ ∀ value ∈ values, (check value).run = .ok () :=
  List.forall_mem_map

@[simp]
theorem run_field_some {α : Type} (record name : String) (value : α) :
    (field record name (some value)).run = .ok () := rfl

theorem run_handle {objects : ObjectTables} {table : Table} {handle : Handle}
    (inside : handle.toNat < (objects.records table).length) :
    (Check.handle objects table handle).run = .ok () :=
  if_pos inside

/-- Conditions that hold let the ones after them decide. -/
theorem forM_append_of_hold {checks : List Check} (holds : Hold checks) (later : List Check) :
    (checks ++ later).forM Check.run = later.forM Check.run := by
  simp only [List.forM_eq_forM]
  induction checks with
  | nil => rfl
  | cons check checks ih =>
      obtain ⟨first, others⟩ := hold_cons.1 holds
      rw [List.cons_append, List.forM_cons, first]
      exact ih others

/-- Conditions that hold change nothing after others. -/
theorem forM_append_hold (checks : List Check) {later : List Check} (holds : Hold later) :
    (checks ++ later).forM Check.run = checks.forM Check.run := by
  have passes : forM later Check.run = .ok () := forM_eq_ok_iff.mpr holds
  simp only [List.forM_eq_forM]
  induction checks with
  | nil => exact passes
  | cons check checks ih =>
      rw [List.cons_append, List.forM_cons, List.forM_cons]
      cases check.run with
      | error error => rfl
      | ok => exact ih

end Check

/-! ## Enumerations -/

/-- An enumeration that lists every member once, and no more than 32 bits can number. -/
class CompleteEnumeration (ε : Type) [Enumeration ε] : Prop where
  mem_members : ∀ value : ε, value ∈ (Enumeration.members : List ε)
  length_lt : (Enumeration.members : List ε).length < UInt32.size / 2
  nodup : (Enumeration.members : List ε).Nodup := by decide

instance : CompleteEnumeration DataType where
  mem_members value := by cases value <;> decide
  length_lt := by decide

instance : CompleteEnumeration DataFormat where
  mem_members value := by cases value <;> decide
  length_lt := by decide

instance : CompleteEnumeration Architecture where
  mem_members value := by cases value <;> decide
  length_lt := by decide

instance : CompleteEnumeration ShardDirection where
  mem_members value := by cases value <;> decide
  length_lt := by decide

instance : CompleteEnumeration ShardKind where
  mem_members value := by cases value <;> decide
  length_lt := by decide

instance : CompleteEnumeration ElementwiseKind where
  mem_members value := by cases value <;> decide
  length_lt := by decide

instance : CompleteEnumeration ReductionKind where
  mem_members value := by cases value <;> decide
  length_lt := by decide

instance : CompleteEnumeration Buffer where
  mem_members value := by cases value <;> decide
  length_lt := by decide

instance : CompleteEnumeration (Option BankLayout) where
  mem_members value := by rcases value with _ | banks <;> [decide; (cases banks <;> decide)]
  length_lt := by decide

instance : CompleteEnumeration MemorySpace where
  mem_members value := by cases value <;> decide
  length_lt := by decide

instance : CompleteEnumeration OutOfBounds where
  mem_members value := by cases value <;> decide
  length_lt := by decide

section

variable {ε : Type} [Enumeration ε] [CompleteEnumeration ε] [BEq ε] [LawfulBEq ε]

theorem Coded.toInt_number_of (value : ε) :
    (Coded.of value).number.toInt = (Enumeration.members : List ε).idxOf value :=
  Int32.toInt_ofNat_of_lt (Nat.lt_trans
    (List.idxOf_lt_length_of_mem (CompleteEnumeration.mem_members value))
    CompleteEnumeration.length_lt)

/-- Members are told apart by their numbers. -/
theorem Coded.of_inj {value other : ε} : Coded.of value = Coded.of other ↔ value = other := by
  refine ⟨fun same => ?_, congrArg Coded.of⟩
  have located : (Enumeration.members : List ε).idxOf value = Enumeration.members.idxOf other := by
    rw [← Int.natCast_inj, ← toInt_number_of, ← toInt_number_of, same]
  exact (List.idxOf_inj (CompleteEnumeration.mem_members value)).mp located

/-- A number is known exactly when it is that of a member. -/
theorem Coded.isKnown_iff {code : Coded ε} :
    code.isKnown = true ↔ ∃ value : ε, code = .of value := by
  have small : (Enumeration.members : List ε).length < 2 ^ 31 := CompleteEnumeration.length_lt
  simp only [Coded.isKnown, Bool.and_eq_true, decide_eq_true_eq]
  constructor
  · rintro ⟨positive, inside⟩
    obtain ⟨position, located⟩ := Int.eq_ofNat_of_zero_le positive
    have listed : position < (Enumeration.members : List ε).length := by omega
    refine ⟨Enumeration.members[position], congrArg Coded.mk (Int32.toInt_inj.mp ?_)⟩
    rw [CompleteEnumeration.nodup.idxOf_getElem position listed,
      Int32.toInt_ofNat_of_lt (Nat.lt_trans listed small)]
    exact located
  · rintro ⟨value, rfl⟩
    have inside : Enumeration.members.idxOf value < (Enumeration.members : List ε).length :=
      List.idxOf_lt_length_of_mem (CompleteEnumeration.mem_members value)
    have number := Coded.toInt_number_of value
    omega

/-- The number of a member is known. -/
@[simp]
theorem run_known_of (value : ε) : (Check.known (Coded.of value)).run = .ok () :=
  if_pos (Coded.isKnown_iff.mpr ⟨value, rfl⟩)

end

/-! ## Attributes -/

namespace OperationRecord

/-- The conditions on a record that do not concern its slots. -/
def attributeChecks {ρ : Type} : OperationRecord ρ → List Check
  | getDevice op => [.field "GetDeviceOp" "mesh" op.mesh]
  | toLayout op => .known op.format :: op.dataType.toList.map .known
  | toDType op | typecast op => [.known op.dataType]
  | empty op => [.known op.dataType, .known op.format] ++ strategyChecks "EmptyOp" op.strategy
  | full op => strategyChecks "FullOp" op.strategy
  | arange op => op.dataType.toList.map .known
  | zeros op | ones op => op.dataType.toList.map .known ++ op.format.toList.map .known
  | elementwise op => [.known op.kind]
  | reduction op => [.known op.kind]
  | embeddingBackward op => op.dataType.toList.map .known
  | meshShard op => [.known op.shardDirection, .known op.shardKind]
  | upsample op => [.field "UpsampleOp" "scale_factor" op.scaleFactor]
  | _ => []

/-- The conditions on the slots of a record. -/
def slotChecks (objects : ObjectTables) (record : OperationRecord Handle) : List Check :=
  record.slots.map fun slot => .handle objects slot.1.table slot.2

/-- The conditions on a record are those on its slots and those on its attributes. -/
theorem mem_checks_iff {objects : ObjectTables} {record : OperationRecord Handle} {check : Check} :
    check ∈ record.checks objects ↔
      check ∈ record.slotChecks objects ∨ check ∈ record.attributeChecks := by
  cases record <;>
    simp [checks, slotChecks, attributeChecks, slots, slotsFor, tensorChecks, deviceChecks,
      configChecks, Role.table, ConstantFill.checks, Conversion.checks, or_assoc, or_comm,
      or_left_comm]

/-- Replacing references leaves the attributes as they are. -/
theorem attributeChecks_of_mapM {ρ τ : Type} {g : ρ → Option τ} {record : OperationRecord ρ}
    {linked : OperationRecord τ} (replaced : record.mapM g = some linked) :
    linked.attributeChecks = record.attributeChecks := by
  cases record
  all_goals
    simp only [mapM, Option.bind_eq_bind, Option.bind_eq_some_iff, Option.pure_def,
      Option.some.injEq] at replaced
    repeat obtain ⟨_, _, replaced⟩ : ∃ _, _ ∧ _ := replaced
    subst replaced
    rfl

end OperationRecord

end Tilework.Artifact
