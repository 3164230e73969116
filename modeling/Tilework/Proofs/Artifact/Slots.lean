import Mathlib.Data.Set.Functor
import Tilework.Artifact.Binary
import Tilework.Proofs.Run

/-!
# Slots of operation records

What a record refers to sits in its slots, in the order of its fields, and each
slot has a role: something read or written, a memory configuration, or something
that the operation defines.  Replacing references fills the slots one after
another and leaves everything else as it is, in whichever monad it is done.
-/

namespace Tilework.Artifact

/-! ## Slots -/

/-- What a slot of a record is for. -/
inductive Role
  /-- A tensor that is read or updated. -/
  | tensor
  /-- A device that is used. -/
  | device
  | memoryConfig
  /-- The tensor that the operation produces. -/
  | result
  /-- The device that the operation opens. -/
  | opened
  deriving DecidableEq

/-- The table that the handles in a slot refer to. -/
def Role.table : Role → Table
  | tensor | result => .tensors
  | device | opened => .devices
  | memoryConfig => .memoryConfigs

namespace OperationRecord

section

variable {ρ : Type}

/-- Slots with a common role. -/
def slotsFor (role : Role) (references : List ρ) : List (Role × ρ) :=
  references.map fun reference => (role, reference)

/-- The slots of a record, in the order of its fields. -/
def slots : OperationRecord ρ → List (Role × ρ)
  | getDevice op => slotsFor .opened [op.out]
  | toMemoryConfig op =>
      slotsFor .tensor [op.input] ++ slotsFor .memoryConfig [op.memoryConfig] ++
        slotsFor .result [op.out]
  | toLayout op =>
      slotsFor .tensor [op.input] ++ slotsFor .memoryConfig op.memoryConfig.toList ++
        slotsFor .device op.device.toList ++ slotsFor .result [op.out]
  | toDType op | typecast op => slotsFor .tensor [op.input] ++ slotsFor .result [op.out]
  | toDevice op =>
      slotsFor .tensor [op.input] ++ slotsFor .device [op.device] ++
        slotsFor .memoryConfig op.memoryConfig.toList ++ slotsFor .result [op.out]
  | fromDevice op => slotsFor .tensor [op.input] ++ slotsFor .result [op.out]
  | empty op =>
      slotsFor .device op.device.toList ++ slotsFor .memoryConfig [op.memoryConfig] ++
        slotsFor .result [op.out]
  | full op => slotsFor .device op.device.toList ++ slotsFor .result [op.out]
  | arange op =>
      slotsFor .device op.device.toList ++ slotsFor .memoryConfig op.memoryConfig.toList ++
        slotsFor .result [op.out]
  | zeros op | ones op =>
      slotsFor .device op.device.toList ++ slotsFor .memoryConfig op.memoryConfig.toList ++
        slotsFor .result [op.out]
  | elementwise op => slotsFor .tensor op.inputs ++ slotsFor .result [op.out]
  | linear op =>
      slotsFor .tensor [op.a] ++ slotsFor .tensor [op.b] ++ slotsFor .tensor op.bias.toList ++
        slotsFor .result [op.out]
  | matmul op =>
      slotsFor .tensor [op.a] ++ slotsFor .tensor [op.b] ++ slotsFor .result [op.out]
  | cumulativeSum op =>
      slotsFor .tensor [op.input] ++ slotsFor .result [op.out] ++
        slotsFor .memoryConfig op.memoryConfig.toList
  | reduction op => slotsFor .tensor [op.input] ++ slotsFor .result [op.out]
  | product op =>
      slotsFor .tensor [op.input] ++ slotsFor .result [op.out] ++
        slotsFor .memoryConfig op.memoryConfig.toList
  | embedding op =>
      slotsFor .tensor [op.input] ++ slotsFor .tensor [op.weight] ++ slotsFor .result [op.out]
  | embeddingBackward op =>
      slotsFor .tensor [op.input] ++ slotsFor .tensor [op.weight] ++
        slotsFor .tensor [op.inGradient] ++ slotsFor .memoryConfig op.memoryConfig.toList ++
        slotsFor .result [op.out]
  | repeatInterleave op =>
      slotsFor .tensor [op.input] ++ slotsFor .result [op.out] ++
        slotsFor .memoryConfig op.memoryConfig.toList
  | softmax op => slotsFor .tensor [op.input] ++ slotsFor .result [op.out]
  | transpose op => slotsFor .tensor [op.input] ++ slotsFor .result [op.out]
  | convolution op =>
      slotsFor .tensor [op.input] ++ slotsFor .tensor [op.weight] ++
        slotsFor .tensor op.bias.toList ++ slotsFor .result [op.out] ++
        slotsFor .device [op.device]
  | transposedConvolution op =>
      slotsFor .tensor [op.input] ++ slotsFor .tensor [op.weight] ++
        slotsFor .tensor op.bias.toList ++ slotsFor .result [op.out] ++
        slotsFor .device [op.device]
  | allGather op =>
      slotsFor .tensor [op.input] ++ slotsFor .result [op.out] ++ slotsFor .device [op.device]
  | reduceScatter op =>
      slotsFor .tensor [op.input] ++ slotsFor .result [op.out] ++ slotsFor .device [op.device]
  | meshShard op =>
      slotsFor .tensor [op.input] ++ slotsFor .result [op.out] ++ slotsFor .device [op.device]
  | concat op =>
      slotsFor .tensor op.inputs ++ slotsFor .result [op.out] ++
        slotsFor .memoryConfig op.memoryConfig.toList
  | reshape op => slotsFor .tensor [op.input] ++ slotsFor .result [op.out]
  | repeatTensor op => slotsFor .tensor [op.input] ++ slotsFor .result [op.out]
  | pad op =>
      slotsFor .tensor [op.input] ++ slotsFor .result [op.out] ++
        slotsFor .memoryConfig op.memoryConfig.toList
  | slice op => slotsFor .tensor [op.input] ++ slotsFor .result [op.out]
  | maxPool op =>
      slotsFor .tensor [op.input] ++ slotsFor .result [op.out] ++ slotsFor .device [op.device]
  | deallocate op => slotsFor .tensor [op.input]
  | updateCache op =>
      slotsFor .tensor [op.cache] ++ slotsFor .tensor [op.input] ++
        slotsFor .tensor [op.updateIndex]
  | fillCache op => slotsFor .tensor [op.cache] ++ slotsFor .tensor [op.input]
  | permute op =>
      slotsFor .tensor [op.input] ++ slotsFor .memoryConfig op.memoryConfig.toList ++
        slotsFor .result [op.out]
  | upsample op =>
      slotsFor .tensor [op.input] ++ slotsFor .memoryConfig op.memoryConfig.toList ++
        slotsFor .result [op.out]

/-- The references of a record, in the order of its fields. -/
def references (record : OperationRecord ρ) : List ρ :=
  record.slots.map Prod.snd

@[simp]
theorem map_snd_slotsFor (role : Role) (references : List ρ) :
    (slotsFor role references).map Prod.snd = references := by
  simp [slotsFor, Function.comp_def]

end

/-! ## Traversal -/

section Traversal

variable {ρ τ : Type} {m₁ m₂ : Type → Type} [Monad m₁] [LawfulMonad m₁] [Monad m₂]
  [LawfulMonad m₂] {f : ρ → m₁ τ} {g : ρ → m₂ τ}
  (motive : {α : Type} → m₁ α → m₂ α → List ρ → Prop)

/-- What relates two ways of replacing references one after another, and is passed
on from step to step, relates the two ways of replacing all of them. -/
structure Relates (f : ρ → m₁ τ) (g : ρ → m₂ τ)
    (motive : {α : Type} → m₁ α → m₂ α → List ρ → Prop) : Prop where
  pure : ∀ {α : Type} (value : α), motive (pure value) (pure value) []
  bind : ∀ {α β : Type} {first : m₁ α} {second : m₂ α} {next : α → m₁ β} {other : α → m₂ β}
    {references later : List ρ}, motive first second references →
      (∀ value, motive (next value) (other value) later) →
      motive (first >>= next) (second >>= other) (references ++ later)
  step : ∀ reference, motive (f reference) (g reference) [reference]

variable {motive} (relates : Relates f g motive)

include relates

theorem Relates.option (reference : Option ρ) :
    motive (reference.mapM f) (reference.mapM g) reference.toList := by
  cases reference with
  | none => exact relates.pure none
  | some reference =>
      have whole := relates.bind (relates.step reference) fun value => relates.pure (some value)
      simpa [Option.mapM_some, bind_pure_comp] using whole

theorem Relates.list (references : List ρ) :
    motive (references.mapM f) (references.mapM g) references := by
  induction references with
  | nil =>
      simp only [List.mapM_nil]
      exact relates.pure []
  | cons reference references ih =>
      simp only [List.mapM_cons]
      have whole := relates.bind (relates.step reference) fun value =>
        relates.bind ih fun values => relates.pure (value :: values)
      simpa using whole

theorem Relates.mapM (record : OperationRecord ρ) :
    motive (record.mapM f) (record.mapM g) record.references := by
  have exactly {α : Type} {first : m₁ α} {second : m₂ α} {references all : List ρ}
      (related : motive first second references) (same : references = all) :
      motive first second all := same ▸ related
  cases record
  all_goals
    simp only [OperationRecord.mapM]
    apply exactly
    · repeat
        first
        | exact relates.pure _
        | apply relates.bind (relates.step _)
          intro _
        | apply relates.bind (relates.option _)
          intro _
        | apply relates.bind (relates.list _)
          intro _
    · simp [references, slots]

end Traversal

/-- The slots of a record hold all its references: what replaces them is what decides
how the record is replaced. -/
theorem mapM_congr {ρ τ : Type} {m : Type → Type} [Monad m] [LawfulMonad m] {f g : ρ → m τ}
    {record : OperationRecord ρ}
    (agree : ∀ reference ∈ record.references, f reference = g reference) :
    record.mapM f = record.mapM g := by
  have agreeing : Relates f g fun first second references =>
      (∀ reference ∈ references, f reference = g reference) → first = second := by
    constructor
    · intro _ value _
      rfl
    · intro _ _ _ _ _ _ _ _ same sameNext agree
      rw [List.forall_mem_append] at agree
      rw [same agree.1]
      congr 1
      funext value
      exact sameNext value agree.2
    · intro reference agree
      exact agree reference List.mem_cons_self
  exact agreeing.mapM record agree

/-! ## Filled slots -/

/-- A record without what its slots hold. -/
def erased {ρ : Type} (record : OperationRecord ρ) : OperationRecord Unit :=
  Id.run (record.mapM fun _ => pure ())

section Filled

variable {ρ τ : Type} {P Q : ρ → τ → Prop} {record : OperationRecord ρ}
  {filled : OperationRecord τ}

/-- A record that differs from another one only in what its slots hold, which stands for what
the slots of the other one hold. -/
structure Filled (P : ρ → τ → Prop) (record : OperationRecord ρ) (filled : OperationRecord τ) :
    Prop where
  erased : filled.erased = record.erased
  slots : List.Forall₂ (fun slot other => slot.1 = other.1 ∧ P slot.2 other.2) record.slots
    filled.slots

theorem Filled.imp (every : ∀ reference value, P reference value → Q reference value)
    (holds : record.Filled P filled) : record.Filled Q filled where
  erased := holds.erased
  slots := holds.slots.imp fun _ _ both => ⟨both.1, every _ _ both.2⟩

/-- All that may stand for a reference. -/
def choices (P : ρ → τ → Prop) (reference : ρ) : SetM τ :=
  {value : τ | P reference value}

theorem mem_run_bind {α β : Type} {values : SetM α} {next : α → SetM β} {result : β} :
    result ∈ (values >>= next).run ↔ ∃ value, value ∈ values.run ∧ result ∈ (next value).run :=
  Set.mem_iUnion₂.trans (by simp only [exists_prop]; rfl)

theorem mem_run_pure {α : Type} {value result : α} :
    result ∈ (pure value : SetM α).run ↔ value = result :=
  Set.mem_singleton_iff.trans eq_comm

theorem forall₂_of_mem_option {reference : Option ρ} {replaced : Option τ}
    (member : replaced ∈ (reference.mapM (choices P)).run) :
    List.Forall₂ P reference.toList replaced.toList := by
  cases reference with
  | none =>
      cases member
      exact .nil
  | some reference =>
      rw [Option.mapM_some, ← bind_pure_comp, mem_run_bind] at member
      obtain ⟨value, chosen, rfl⟩ := member
      exact .cons chosen .nil

theorem forall₂_of_mem_list {references : List ρ} {replaced : List τ}
    (member : replaced ∈ (references.mapM (choices P)).run) :
    List.Forall₂ P references replaced := by
  induction references generalizing replaced with
  | nil =>
      rw [List.mapM_nil] at member
      cases member
      exact .nil
  | cons reference references ih =>
      rw [List.mapM_cons, mem_run_bind] at member
      obtain ⟨value, chosen, rest⟩ := member
      obtain ⟨values, others, rfl⟩ := mem_run_bind.mp rest
      exact .cons chosen (ih others)

theorem erased_option {reference : Option ρ} {replaced : Option τ}
    (each : List.Forall₂ P reference.toList replaced.toList) :
    Id.run (replaced.mapM fun _ => pure ()) = Id.run (reference.mapM fun _ => pure ()) := by
  cases reference <;> cases replaced <;> first | rfl | cases each

theorem erased_list {references : List ρ} {replaced : List τ}
    (each : List.Forall₂ P references replaced) :
    Id.run (replaced.mapM fun _ => pure ()) = Id.run (references.mapM fun _ => pure ()) := by
  induction each with
  | nil => rfl
  | cons _ _ ih => simp only [List.mapM_cons, Id.run_bind, Id.run_pure, ih]

theorem filled_slotsFor (role : Role) {references : List ρ} {replaced : List τ}
    (each : List.Forall₂ P references replaced) :
    List.Forall₂ (fun slot other => slot.1 = other.1 ∧ P slot.2 other.2)
      (slotsFor role references) (slotsFor role replaced) := by
  rw [slotsFor, slotsFor, List.forall₂_map_left_iff, List.forall₂_map_right_iff]
  exact each.imp fun _ _ same => ⟨rfl, same⟩

/-- Choosing something for each reference of a record fills its slots, and changes nothing
else. -/
theorem filled_of_mem (member : filled ∈ (record.mapM (choices P)).run) :
    record.Filled P filled := by
  cases record
  all_goals
    simp only [mapM, mem_run_bind] at member
    repeat obtain ⟨_, _, member⟩ : ∃ _, _ ∧ _ := member
    cases mem_run_pure.mp member
    constructor
    · simp only [erased, mapM, Id.run_bind, Id.run_pure]
      try
        congr 2
        all_goals
          first
          | exact erased_option (forall₂_of_mem_option ‹_›)
          | exact erased_list (forall₂_of_mem_list ‹_›)
    · simp only [slots]
      repeat apply List.rel_append
      all_goals
        apply filled_slotsFor
        first
        | exact .cons ‹_› .nil
        | exact forall₂_of_mem_option ‹_›
        | exact forall₂_of_mem_list ‹_›

end Filled

/-! ## Linked slots -/

section Linked

variable {ρ τ : Type} {g : ρ → Option τ} {record : OperationRecord ρ}
  {linked : OperationRecord τ}

/-- Two slots with the same role, the second of which holds what replaces the
content of the first. -/
def Linked (g : ρ → Option τ) (slot : Role × ρ) (linked : Role × τ) : Prop :=
  slot.1 = linked.1 ∧ g slot.2 = some linked.2

/-- What is replaced in one way has been chosen from all ways. -/
theorem chosen_relates : Relates g (choices fun reference value => g reference = some value)
    fun first chosen _ => ∀ value, first = some value → value ∈ chosen.run where
  pure value result same := mem_run_pure.mpr (Option.some.inj same)
  bind firstChosen nextChosen result same := by
    obtain ⟨value, found, rest⟩ := Option.bind_eq_some_iff.mp same
    exact mem_run_bind.mpr ⟨value, firstChosen value found, nextChosen value result rest⟩
  step _ _ same := same

theorem filled_of_mapM (replaced : record.mapM g = some linked) :
    record.Filled (fun reference value => g reference = some value) linked :=
  filled_of_mem (chosen_relates.mapM record linked replaced)

/-- Replacing all references of a record fills its slots. -/
theorem slots_of_mapM (replaced : record.mapM g = some linked) :
    List.Forall₂ (Linked g) record.slots linked.slots :=
  (filled_of_mapM replaced).slots

/-- Replacing all references of a record changes nothing but its slots. -/
theorem erased_of_mapM (replaced : record.mapM g = some linked) : linked.erased = record.erased :=
  (filled_of_mapM replaced).erased

end Linked

end OperationRecord

/-! ## Operations -/

/-- The slots of the record of an operation. -/
def OperationEntry.slots (entry : OperationEntry) : List (Role × Handle) :=
  entry.record.toList.flatMap OperationRecord.slots

end Tilework.Artifact
