import Mathlib.Data.List.Sort
import Tilework.Proofs.Lowering.Structure
import Tilework.Proofs.Text

/-!
# The order of golden tensors

The golden tensors of some options are kept as an ordered map.  After some additions the map
holds the last tensor of each name, and there is only one ordered list of these.  So neither
the order of the additions nor a tensor that was replaced shows in an artifact, and the
golden tensors of an artifact stand in the order of their names.
-/

namespace Tilework

open Artifact

namespace GoldenTensor

variable {name : String} {tensor last : GoldenTensor} {tensors later : List GoldenTensor}

/-! ## The last tensor of a name -/

/-- The last tensor of a name. -/
def lastNamed? (name : String) (tensors : List GoldenTensor) : Option GoldenTensor :=
  tensors.reverse.find? fun tensor => tensor.name = name

theorem lastNamed?_append :
    lastNamed? name (tensors ++ later) = (lastNamed? name later).or (lastNamed? name tensors) := by
  rw [lastNamed?, List.reverse_append, List.find?_append]
  rfl

theorem lastNamed?_concat :
    lastNamed? name (tensors ++ [last]) =
      if last.name = name then some last else lastNamed? name tensors := by
  rw [lastNamed?_append]
  by_cases named : last.name = name <;> simp [lastNamed?, named]

theorem of_lastNamed? (found : lastNamed? name tensors = some tensor) :
    tensor ∈ tensors ∧ tensor.name = name := by
  have named := List.find?_some found
  exact ⟨List.mem_reverse.mp (List.mem_of_find?_eq_some found), of_decide_eq_true named⟩

theorem lastNamed?_eq_some_iff :
    lastNamed? name tensors = some tensor ↔
      lastNamed? tensor.name tensors = some tensor ∧ tensor.name = name := by
  constructor
  · intro found
    obtain ⟨_, rfl⟩ := of_lastNamed? found
    exact ⟨found, rfl⟩
  · rintro ⟨found, rfl⟩
    exact found

/-! ## Ordered tensors -/

/-- The name of one tensor comes before the name of another. -/
def Before (tensor later : GoldenTensor) : Prop :=
  tensor.name < later.name

instance : Std.Irrefl Before where
  irrefl tensor := lt_irrefl tensor.name

instance : Std.Antisymm Before where
  antisymm _ _ less greater := absurd greater (lt_asymm less)

/-- Among ordered tensors each one is the last of its name. -/
theorem mem_iff_lastNamed? (ordered : tensors.Pairwise Before) :
    tensor ∈ tensors ↔ lastNamed? tensor.name tensors = some tensor := by
  refine ⟨fun member => ?_, fun found => (of_lastNamed? found).1⟩
  have distinct : (tensors.map GoldenTensor.name).Nodup :=
    List.pairwise_map.mpr (ordered.imp fun less => ne_of_lt less)
  have isSome : (lastNamed? tensor.name tensors).isSome :=
    List.find?_isSome.mpr ⟨tensor, List.mem_reverse.mpr member, by simp⟩
  obtain ⟨found, foundLast⟩ := Option.isSome_iff_exists.mp isSome
  obtain ⟨foundMember, same⟩ := of_lastNamed? foundLast
  rw [foundLast, List.inj_on_of_nodup_map distinct foundMember member same]

end GoldenTensor

namespace LoweringOptions

open GoldenTensor

variable {options : LoweringOptions} {tensor other : GoldenTensor} {tensors : List GoldenTensor}

theorem mem_insertGolden_iff (ordered : tensors.Pairwise Before) :
    other ∈ insertGolden tensor tensors ↔
      other = tensor ∨ other ∈ tensors ∧ other.name ≠ tensor.name := by
  induction tensors with
  | nil => simp [insertGolden]
  | cons first later ih =>
      obtain ⟨before, rest⟩ := List.pairwise_cons.mp ordered
      rw [insertGolden]
      split
      case isTrue same =>
        have distinct : other ∈ later → other.name ≠ tensor.name := fun member =>
          same ▸ (ne_of_lt (before other member)).symm
        grind
      case isFalse different =>
        split
        case isTrue less =>
          have distinct : other ∈ first :: later → other.name ≠ tensor.name := by
            rw [List.mem_cons]
            rintro (rfl | member)
            · exact (ne_of_lt less).symm
            · exact (ne_of_lt (less.trans (before other member))).symm
          grind
        case isFalse =>
          rw [List.mem_cons, ih rest, List.mem_cons]
          grind

theorem pairwise_insertGolden (ordered : tensors.Pairwise Before) :
    (insertGolden tensor tensors).Pairwise Before := by
  induction tensors with
  | nil => exact List.pairwise_singleton _ _
  | cons first later ih =>
      obtain ⟨before, rest⟩ := List.pairwise_cons.mp ordered
      rw [insertGolden]
      split
      case isTrue same =>
        refine List.pairwise_cons.mpr ⟨fun other member => ?_, rest⟩
        rw [Before, same]
        exact before other member
      case isFalse different =>
        split
        case isTrue less =>
          refine List.pairwise_cons.mpr ⟨fun other member => ?_, ordered⟩
          rcases List.mem_cons.mp member with rfl | member
          · exact less
          · exact less.trans (before other member)
        case isFalse not_less =>
          refine List.pairwise_cons.mpr ⟨fun other member => ?_, ih rest⟩
          rcases (mem_insertGolden_iff rest).mp member with rfl | ⟨member, _⟩
          · exact lt_of_le_of_ne (not_lt.mp not_less) (Ne.symm different)
          · exact before other member

/-! ## Added tensors -/

/-- Add golden tensors, one after another. -/
def withGoldens (options : LoweringOptions) (tensors : List GoldenTensor) : LoweringOptions :=
  tensors.foldl withGolden options

/-- The golden tensors of some options are in the order of their names. -/
def Ordered (options : LoweringOptions) : Prop :=
  options.golden.Pairwise Before

theorem ordered_default : Ordered {} :=
  List.Pairwise.nil

theorem Ordered.withGolden (ordered : options.Ordered) : (options.withGolden tensor).Ordered :=
  pairwise_insertGolden ordered

theorem withGoldens_concat :
    options.withGoldens (tensors ++ [tensor]) = (options.withGoldens tensors).withGolden tensor :=
  List.foldl_concat _ _ _ _

theorem Ordered.withGoldens (ordered : options.Ordered) :
    (options.withGoldens tensors).Ordered := by
  induction tensors generalizing options with
  | nil => exact ordered
  | cons tensor tensors ih => exact ih ordered.withGolden

/-- Only the golden tensors change when some are added. -/
theorem withGoldens_eq :
    options.withGoldens tensors =
      { options with golden := (options.withGoldens tensors).golden } := by
  induction tensors generalizing options with
  | nil => rfl
  | cons tensor tensors ih => exact ih

/-- After some additions the last tensor of each name is there, and no other one. -/
theorem mem_golden_withGoldens_iff (ordered : options.Ordered) :
    other ∈ (options.withGoldens tensors).golden ↔
      lastNamed? other.name (options.golden ++ tensors) = some other := by
  induction tensors using List.reverseRecOn with
  | nil =>
      rw [List.append_nil]
      exact mem_iff_lastNamed? ordered
  | append_singleton tensors last ih =>
      rw [withGoldens_concat, withGolden, mem_insertGolden_iff ordered.withGoldens, ih,
        ← List.append_assoc, lastNamed?_concat]
      by_cases same : last.name = other.name
      · rw [if_pos same, Option.some.injEq]
        grind
      · rw [if_neg same]
        grind

/-- The last tensors of all names decide what is there after some additions. -/
theorem withGoldens_eq_of_lastNamed? {first second : List GoldenTensor} (ordered : options.Ordered)
    (same : ∀ name, lastNamed? name first = lastNamed? name second) :
    options.withGoldens first = options.withGoldens second := by
  have golden : (options.withGoldens first).golden = (options.withGoldens second).golden := by
    apply List.Pairwise.eq_of_mem_iff ordered.withGoldens ordered.withGoldens
    intro tensor
    rw [mem_golden_withGoldens_iff ordered, mem_golden_withGoldens_iff ordered,
      lastNamed?_append, lastNamed?_append, same]
  rw [withGoldens_eq, golden, ← withGoldens_eq]

end LoweringOptions

/-! ## Artifacts -/

/-- An entry holds a tensor under its name. -/
structure GoldenTensor.HeldBy (tensor : GoldenTensor) (entry : GoldenEntry) : Prop where
  key : entry.key = tensor.name
  value : ∃ record, entry.value = some record ∧ record.name = tensor.name ∧
    record.shape = tensor.shape ∧ record.stride = tensor.stride ∧
    record.dataType = .of tensor.dataType ∧ record.data = tensor.data

/-- A table holds the last tensor of each name, in the order of the spellings of the names. -/
structure Artifact.GoldenTable.HoldsLast (tensors : List GoldenTensor) (table : GoldenTable) :
    Prop where
  increasing : table.entries.Pairwise fun entry later =>
    Bytes.ofText entry.key < Bytes.ofText later.key
  /-- There is one entry for each name that some tensor has, and none for any other name. -/
  last : ∀ name, List.Forall₂ GoldenTensor.HeldBy (GoldenTensor.lastNamed? name tensors).toList
    (table.entries.filter fun entry => entry.key = name)

namespace LoweringOptions

variable {options : LoweringOptions} {tensors : List GoldenTensor}

/-- The tensors of a name are the last one of this name that was added. -/
theorem filter_golden_withGoldens (ordered : options.Ordered) (name : String) :
    (options.withGoldens tensors).golden.filter (fun tensor => tensor.name = name) =
      (GoldenTensor.lastNamed? name (options.golden ++ tensors)).toList := by
  have single : (GoldenTensor.lastNamed? name (options.golden ++ tensors)).toList.Pairwise
      GoldenTensor.Before := by
    cases GoldenTensor.lastNamed? name (options.golden ++ tensors) with
    | none => exact List.Pairwise.nil
    | some tensor => exact List.pairwise_singleton _ tensor
  apply List.Pairwise.eq_of_mem_iff (ordered.withGoldens.filter _) single
  intro tensor
  rw [List.mem_filter, decide_eq_true_iff, mem_golden_withGoldens_iff ordered, Option.mem_toList,
    ← GoldenTensor.lastNamed?_eq_some_iff]

theorem holdsLast_withGoldens (ordered : options.Ordered) (text : String) {table : GoldenTable}
    (stored : ((options.withGoldens tensors).debugRecord text).golden = some table) :
    table.HoldsLast (options.golden ++ tensors) := by
  cases stored
  refine ⟨?increasing, fun name => ?last⟩
  case increasing =>
    exact List.pairwise_map.mpr
      (ordered.withGoldens.imp fun less => Bytes.ofText_lt_ofText_iff.mpr less)
  case last =>
    rw [List.filter_map, List.forall₂_map_right_iff]
    simp only [Function.comp_def]
    rw [filter_golden_withGoldens ordered, List.forall₂_same]
    exact fun tensor _ => ⟨rfl, _, rfl, rfl, rfl, rfl, rfl, rfl⟩

end LoweringOptions

/-- Golden tensors that are added in any order, with any replacements, make no difference to the
result of lowering as long as the last tensor of each name is the same.  An artifact holds the last
tensor of each name, in the order of the names. -/
theorem golden_order_irrelevant (m : Module) {options : LoweringOptions}
    (ordered : options.Ordered) :
    (∀ first second : List GoldenTensor,
        (∀ name, GoldenTensor.lastNamed? name first = GoldenTensor.lastNamed? name second) →
          m.lower (options.withGoldens first) = m.lower (options.withGoldens second)) ∧
      ∀ (tensors : List GoldenTensor) (buffer : Bytes),
        m.lower (options.withGoldens tensors) = .ok buffer →
          ∃ binary objects debug table, Binary.ofFrame buffer = .ok binary ∧
            binary.objects = some objects ∧ objects.debugInfos = [debug] ∧
            debug.golden = some table ∧ table.HoldsLast (options.golden ++ tensors) := by
  constructor
  · intro first second same
    rw [LoweringOptions.withGoldens_eq_of_lastNamed? ordered same]
  · intro tensors buffer lowered
    obtain ⟨binary, assembled, framed, verified⟩ := Module.lower_eq_ok_iff.mp lowered
    have decoded := ofFrame_of_verified framed verified
    obtain ⟨programs, system, ran, _, rfl⟩ := Module.binary_eq_ok_iff.mp assembled
    refine ⟨_, _, (options.withGoldens tensors).debugRecord m.text, _, decoded, rfl, ?_, rfl,
      LoweringOptions.holdsLast_withGoldens ordered m.text rfl⟩
    rw [Interner.objects, Module.debugInfos_interner ran]
    rfl

/-! ### A replaced tensor -/

/-- A golden tensor with a single number. -/
def goldenNumber (name : String) (number : Int32) : GoldenTensor where
  name := name
  shape := [1]
  stride := [1]
  dataType := .int32
  data := (GoldenValues.int32 [number]).bytes

/-- A loss, a size and another loss. -/
def replacedLoss : List GoldenTensor :=
  [goldenNumber "loss" 1, goldenNumber "größe" 2, goldenNumber "loss" 3]

/-- The other loss and the size. -/
def onlyLastLoss : List GoldenTensor :=
  [goldenNumber "loss" 3, goldenNumber "größe" 2]

theorem lastNamed?_replacedLoss (name : String) :
    GoldenTensor.lastNamed? name replacedLoss = GoldenTensor.lastNamed? name onlyLastLoss := by
  have different : "loss" ≠ "größe" := by decide
  simp only [GoldenTensor.lastNamed?, replacedLoss, onlyLastLoss, goldenNumber, List.reverse_cons,
    List.reverse_nil, List.nil_append, List.cons_append, List.find?_cons]
  by_cases loss : "loss" = name
  · subst loss
    simp [different.symm]
  · by_cases size : "größe" = name <;> simp [loss, size]

theorem golden_order_irrelevant_replacedLoss :
    (LoweringOptions.Ordered {} ∧
      (∀ name, GoldenTensor.lastNamed? name replacedLoss =
        GoldenTensor.lastNamed? name onlyLastLoss)) ∧
      ∃ buffer,
        (copyAbs .single).lower (LoweringOptions.withGoldens {} replacedLoss) = .ok buffer ∧
        (copyAbs .single).lower (LoweringOptions.withGoldens {} onlyLastLoss) = .ok buffer ∧
        ∃ binary objects debug table, Binary.ofFrame buffer = .ok binary ∧
          binary.objects = some objects ∧ objects.debugInfos = [debug] ∧
          debug.golden = some table ∧ table.HoldsLast replacedLoss := by
  have ordered := LoweringOptions.ordered_default
  obtain ⟨buffer, lowered⟩ : ∃ buffer,
      (copyAbs .single).lower (LoweringOptions.withGoldens {} replacedLoss) = .ok buffer :=
    Module.exists_lower_of_accepted (by decide +kernel)
  obtain ⟨same, held⟩ := golden_order_irrelevant (copyAbs .single) ordered
  refine ⟨⟨ordered, lastNamed?_replacedLoss⟩, buffer, lowered, ?_, held replacedLoss buffer lowered⟩
  rw [← same _ _ lastNamed?_replacedLoss]
  exact lowered

end Tilework
