import Tilework.Proofs.Lowering.Descriptions

/-!
# Handles and buffers

A buffer is what values with the same root share.  All handles that are held for
tensors with one root are the same, and handles for tensors with different roots
differ, in whichever programs they are held.
-/

namespace Tilework

open Artifact Interner

/-- The handles of a program are given by the roots of its tensors. -/
structure Function.GivenByRoots (m : Module) (handleOf : ValueId → Handle) (function : Function)
    (program : Program) : Prop where
  name : program.name = function.name
  inputs : program.inputs = (function.tensorArguments m).map handleOf
  outputs : program.outputs = function.returns.map fun value => handleOf (function.root value)
  /-- Whatever is held for a tensor is the handle of its root. -/
  held : ∀ value handle, function.HoldsTensor m program value handle →
    handle = handleOf (function.root value)
  /-- A handle is held for each tensor that the function defines. -/
  defined : ∀ value ∈ function.definedValues, m.isTensor value = true →
    function.HoldsTensor m program value (handleOf (function.root value))

section

variable {m : Module} {options : LoweringOptions} {interner : Interner} {function : Function}
  {program : Program} {value : ValueId}

/-- The handle of the tensor with a given value as its key. -/
def Interner.tensorHandle (interner : Interner) (value : ValueId) : Handle :=
  (interner.handle? .tensors (.value value)).getD 0

theorem Interner.tensorHandle_eq {handle : Handle}
    (found : interner.handle? .tensors (.value value) = some handle) :
    interner.tensorHandle value = handle := by
  rw [tensorHandle, found, Option.getD_some]

theorem eq_map_of_forall₂ {α β : Type} {f : α → β} {R : α → β → Prop} {values : List α}
    {results : List β} (each : List.Forall₂ R values results)
    (related : ∀ value result, R value result → result = f value) : results = values.map f := by
  induction each with
  | nil => rfl
  | cons first later ih => rw [List.map_cons, related _ _ first, ih]

theorem Module.isTensor_iff : m.isTensor value = true ↔ ∃ type, m.tensorType value = .ok type := by
  simp only [Module.tensorType_eq_ok_iff, isTensor]
  cases m.valueType value with
  | error error => simp
  | ok type => cases type <;> simp

/-- A handle is held for each tensor that a function defines. -/
theorem exists_holdsTensor
    (described : function.Described m interner.objects program)
    (filled : function.Filled m interner program) (defined : value ∈ function.definedValues)
    (isTensor : m.isTensor value = true) :
    ∃ handle, function.HoldsTensor m program value handle := by
  rcases List.mem_append.mp defined with argument | result
  · obtain ⟨handle, pair, _⟩ :=
      exists_mem_zip filled.inputs (List.mem_filter.mpr ⟨argument, isTensor⟩)
    exact ⟨handle, .input pair⟩
  · rcases List.mem_flatMap.mp result with ⟨instruction, member, defines⟩
    obtain ⟨entry, executed, _⟩ := exists_mem_zip filled.operations member
    rcases Module.isTensor_iff.mp isTensor with ⟨type, typed⟩
    obtain ⟨role, reference, handle, held, sort, mentioned⟩ :=
      described.used instruction entry executed value (List.mem_append_right _ defines) _
        (Module.tensorType_eq_ok_iff.mp typed)
    exact ⟨handle, .slot executed held sort mentioned⟩

/-- The handles of a program that is filled from finished tables are given by the
roots of its tensors. -/
theorem Function.Filled.givenByRoots (wellFormed : function.WellFormed m)
    (described : function.Described m interner.objects program)
    (filled : function.Filled m interner program) :
    function.GivenByRoots m interner.tensorHandle program where
  name := filled.name
  inputs := eq_map_of_forall₂ filled.inputs fun _ _ found => (tensorHandle_eq found).symm
  outputs := eq_map_of_forall₂ filled.outputs fun _ _ found => (tensorHandle_eq found).symm
  held _ _ held := (tensorHandle_eq (handle?_of_holdsTensor wellFormed filled held).2).symm
  defined value defined isTensor := by
    obtain ⟨handle, held⟩ := exists_holdsTensor described filled defined isTensor
    rw [tensorHandle_eq (handle?_of_holdsTensor wellFormed filled held).2]
    exact held

end

/-- Handles identify buffers: those that are held for two tensors, in one program or in
two, are the same exactly when the tensors have the same root. -/
theorem Module.Built.handle_eq_iff_root_eq {m : Module} {options : LoweringOptions}
    {buffer : Bytes} (built : m.Built) (lowered : m.lower options = .ok buffer) :
    ∃ binary handleOf, Binary.ofFrame buffer = .ok binary ∧
      List.Forall₂ (Function.GivenByRoots m handleOf) m.functions binary.programs ∧
      ∀ first firstProgram second secondProgram,
        (first, firstProgram) ∈ m.functions.zip binary.programs →
        (second, secondProgram) ∈ m.functions.zip binary.programs →
        ∀ value handle other otherHandle,
          first.HoldsTensor m firstProgram value handle →
          second.HoldsTensor m secondProgram other otherHandle →
            (handle = otherHandle ↔ first.root value = second.root other) := by
  obtain ⟨binary, decoded, _, small, filled⟩ := built.wellFormed.decoded lowered
  have wellFormed {function : Function} {program : Program}
      (paired : (function, program) ∈ m.functions.zip binary.programs) : function.WellFormed m :=
    built.wellFormed.function function (List.of_mem_zip paired).1
  refine ⟨binary, (m.interner options).tensorHandle, decoded, ?_, ?_⟩
  · rw [List.forall₂_iff_zip] at filled ⊢
    refine ⟨filled.1, fun {function program} paired => ?_⟩
    have described :=
      (filled.2 paired).described (wellFormed paired) (m.sound_interner options) small
    exact (filled.2 paired).givenByRoots (wellFormed paired) described
  · intro first firstProgram second secondProgram paired otherPaired value handle other otherHandle
      held otherHeld
    have found := (handle?_of_holdsTensor (wellFormed paired)
      (List.forall₂_zip filled paired) held).2
    have otherFound := (handle?_of_holdsTensor (wellFormed otherPaired)
      (List.forall₂_zip filled otherPaired) otherHeld).2
    constructor
    · rintro rfl
      exact Key.value.inj (handle?_inj small found otherFound)
    · intro sameRoot
      rw [sameRoot, otherFound] at found
      exact (Option.some.inj found).symm

theorem handle_eq_iff_root_eq_copyAbs :
    (copyAbs .single).functions.map Function.name = ["copy_abs"] ∧ (copyAbs .single).Built ∧
      ∃ buffer, (copyAbs .single).lower {} = .ok buffer ∧
        ∃ binary handleOf, Binary.ofFrame buffer = .ok binary ∧
          List.Forall₂ (Function.GivenByRoots (copyAbs .single) handleOf)
            (copyAbs .single).functions binary.programs ∧
          ∀ first firstProgram second secondProgram,
            (first, firstProgram) ∈ (copyAbs .single).functions.zip binary.programs →
            (second, secondProgram) ∈ (copyAbs .single).functions.zip binary.programs →
            ∀ value handle other otherHandle,
              first.HoldsTensor (copyAbs .single) firstProgram value handle →
              second.HoldsTensor (copyAbs .single) secondProgram other otherHandle →
                (handle = otherHandle ↔ first.root value = second.root other) := by
  rcases exists_lower_copyAbs with ⟨buffer, lowered⟩
  exact ⟨names_copyAbs _, built_copyAbs _, buffer, lowered,
    Module.Built.handle_eq_iff_root_eq (built_copyAbs _) lowered⟩

end Tilework
