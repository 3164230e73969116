import Mathlib.Data.List.Induction
import Tilework.Proofs.Module.WellFormed

/-!
# Roots

A result that is written into another tensor shares that tensor, which may share
another one in turn.  The root of a value is the tensor at the end of this chain.
It is read off the instructions alone, from the newest to the oldest.
-/

namespace Tilework

/-! ## Sorts of values -/

namespace Module

variable {m : Module} {value : ValueId}

/-- A value that has to be of some sort has a type of that sort. -/
theorem valueType_bind_eq_ok_iff {τ : Type} {sort : ValueType → Except ModuleError τ}
    {wrap : τ → ValueType} {type : τ}
    (sorted : ∀ known, sort known = .ok type ↔ known = wrap type) :
    m.valueType value >>= sort = .ok type ↔ m.valueType value = .ok (wrap type) := by
  simp only [bind_eq_ok_iff, sorted, exists_eq_right]

theorem tensorType_eq_ok_iff {type : TensorType} :
    m.tensorType value = .ok type ↔ m.valueType value = .ok (.tensor type) :=
  valueType_bind_eq_ok_iff fun known => by
    cases known <;> simp [pure, Except.pure, throw, throwThe, MonadExceptOf.throw]

theorem deviceType_eq_ok_iff {type : DeviceType} :
    m.deviceType value = .ok type ↔ m.valueType value = .ok (.device type) :=
  valueType_bind_eq_ok_iff fun known => by
    cases known <;> simp [pure, Except.pure, throw, throwThe, MonadExceptOf.throw]

end Module

/-! ## Roots -/

/-- The root of a value among some instructions, the newest of which comes
first. -/
def rootAmong : List Instruction → ValueId → ValueId
  | [], value => value
  | instruction :: older, value =>
      match instruction.operation.destination with
      | some destination =>
          if value ∈ instruction.operation.results then rootAmong older destination
          else rootAmong older value
      | none => rootAmong older value

/-- The root of a value of a function: the root of the tensor that it is written
into if there is one, and the value itself otherwise. -/
def Function.root (function : Function) (value : ValueId) : ValueId :=
  rootAmong function.body.reverse value

/-- An operation that writes into a tensor has a single result. -/
theorem Operation.exists_results_eq {operation : Operation} {destination : ValueId}
    (written : operation.destination = some destination) :
    ∃ result, operation.results = [result] := by
  cases operation <;>
    first
    | exact ⟨_, rfl⟩
    | cases written

theorem Operation.destination_mem {operation : Operation} {destination : ValueId}
    (written : operation.destination = some destination) : destination ∈ operation.operands := by
  simp only [Operation.operands, Operation.destination] at written ⊢
  simp [written]

/-- Instructions that do not define a value leave its root alone. -/
theorem rootAmong_append {newer older : List Instruction} {value : ValueId}
    (undefined : value ∉ resultsOf newer) :
    rootAmong (newer ++ older) value = rootAmong older value := by
  induction newer with
  | nil => rfl
  | cons instruction newer ih =>
      simp only [resultsOf, List.flatMap_cons, List.mem_append, not_or] at undefined
      simp only [List.cons_append, rootAmong, undefined.1, if_false]
      split <;> exact ih undefined.2

theorem mem_resultsOf_reverse {body : List Instruction} {value : ValueId} :
    value ∈ resultsOf body.reverse ↔ value ∈ resultsOf body := by
  simp [resultsOf]

/-- A value that no instruction writes into a tensor is its own root. -/
theorem root_of_not_written {function : Function} {value : ValueId}
    (placed : ∀ instruction ∈ function.body, value ∈ instruction.operation.results →
      instruction.operation.destination = none) : function.root value = value := by
  have among (body : List Instruction)
      (within : ∀ instruction ∈ body, instruction ∈ function.body) :
      rootAmong body value = value := by
    induction body with
    | nil => rfl
    | cons instruction older ih =>
        have rest := ih fun other member => within other (List.mem_cons_of_mem instruction member)
        have placedHere := placed instruction (within instruction List.mem_cons_self)
        simp only [rootAmong]
        split
        · rename_i destination written
          rw [if_neg, rest]
          intro defines
          rw [placedHere defines] at written
          cases written
        · exact rest
  exact among function.body.reverse fun instruction member => List.mem_reverse.mp member

section

variable {m : Module} {function : Function} (wellFormed : function.WellFormed m)

include wellFormed

/-- Among the instructions that come after its definition nothing changes the
root of a value. -/
theorem root_eq_of_split {earlier later : List Instruction} {value : ValueId}
    (split : function.body = earlier ++ later)
    (known : value ∈ function.arguments ++ resultsOf earlier) :
    function.root value = rootAmong earlier.reverse value := by
  have distinct := wellFormed.distinct
  have values : function.definedValues =
      function.arguments ++ resultsOf earlier ++ resultsOf later := by
    simp [Function.definedValues, split, resultsOf]
  rw [values] at distinct
  have undefined : value ∉ resultsOf later := fun member =>
    (List.nodup_append.1 distinct).2.2 value known value member rfl
  rw [Function.root, split, List.reverse_append]
  exact rootAmong_append (mem_resultsOf_reverse.not.2 undefined)

/-- A result that is written into a tensor has the root of that tensor. -/
theorem root_of_destination {instruction : Instruction} {destination result : ValueId}
    (member : instruction ∈ function.body)
    (written : instruction.operation.destination = some destination)
    (defines : result ∈ instruction.operation.results) :
    function.root result = function.root destination := by
  obtain ⟨earlier, later, split⟩ := List.append_of_mem member
  have known := wellFormed.ordered earlier instruction later split destination
    (Operation.destination_mem written)
  have whole : function.body = (earlier ++ [instruction]) ++ later := by simp [split]
  rw [root_eq_of_split wellFormed whole (by simp [resultsOf, defines]),
    root_eq_of_split wellFormed split known, List.reverse_append]
  simp [rootAmong, written, defines]

/-- Arguments are their own roots. -/
theorem root_argument {value : ValueId} (argument : value ∈ function.arguments) :
    function.root value = value := by
  have values : function.definedValues = function.arguments ++ resultsOf function.body := rfl
  have distinct := wellFormed.distinct
  rw [values] at distinct
  apply root_of_not_written
  intro instruction member defines
  have result : value ∈ resultsOf function.body :=
    List.mem_flatMap.mpr ⟨instruction, member, defines⟩
  exact absurd rfl ((List.nodup_append.1 distinct).2.2 value argument value result)

/-- What an instruction defines is not known before it. -/
theorem not_known_of_result {earlier later : List Instruction} {instruction : Instruction}
    {value : ValueId} (split : function.body = earlier ++ instruction :: later)
    (defines : value ∈ instruction.operation.results) :
    value ∉ function.arguments ++ resultsOf earlier := by
  have distinct := wellFormed.distinct
  have values : function.definedValues = function.arguments ++ resultsOf earlier ++
      (instruction.operation.results ++ resultsOf later) := by
    simp [Function.definedValues, split, resultsOf]
  rw [values] at distinct
  intro known
  exact (List.nodup_append.1 distinct).2.2 value known value (List.mem_append_left _ defines) rfl

/-- A result that is not written into a tensor is its own root. -/
theorem root_of_allocated {instruction : Instruction} {value : ValueId}
    (member : instruction ∈ function.body) (placed : instruction.operation.destination = none)
    (defines : value ∈ instruction.operation.results) : function.root value = value := by
  obtain ⟨earlier, later, split⟩ := List.append_of_mem member
  have whole : function.body = (earlier ++ [instruction]) ++ later := by simp [split]
  have known := not_known_of_result wellFormed split defines
  have undefined : value ∉ resultsOf earlier.reverse := fun member =>
    known (List.mem_append_right _ (mem_resultsOf_reverse.1 member))
  have nothing : rootAmong (earlier.reverse ++ []) value = rootAmong [] value :=
    rootAmong_append undefined
  rw [root_eq_of_split wellFormed whole (by simp [resultsOf, defines]), List.reverse_append]
  simpa [rootAmong, placed] using nothing

/-- The root of a value is defined where the value is, has its type, and is its
own root. -/
theorem root_among_known {earlier later : List Instruction} {value : ValueId}
    (split : function.body = earlier ++ later)
    (known : value ∈ function.arguments ++ resultsOf earlier) :
    function.root value ∈ function.arguments ++ resultsOf earlier ∧
      m.valueType (function.root value) = m.valueType value ∧
      function.root (function.root value) = function.root value := by
  induction earlier using List.reverseRecOn generalizing later value with
  | nil =>
      have argument : value ∈ function.arguments := by simpa [resultsOf] using known
      have own := root_argument wellFormed argument
      rw [own]
      exact ⟨known, rfl, own⟩
  | append_singleton earlier instruction ih =>
      have before : function.body = earlier ++ instruction :: later := by simp [split]
      have results : resultsOf (earlier ++ [instruction]) =
          resultsOf earlier ++ instruction.operation.results := by simp [resultsOf]
      have member : instruction ∈ function.body := by simp [before]
      rw [results, ← List.append_assoc] at known ⊢
      rcases List.mem_append.mp known with known | defines
      · obtain ⟨inside, typed, idempotent⟩ := ih before known
        exact ⟨List.mem_append_left _ inside, typed, idempotent⟩
      · cases written : instruction.operation.destination with
        | some destination =>
            obtain ⟨result, only⟩ := Operation.exists_results_eq written
            rw [root_of_destination wellFormed member written defines]
            obtain ⟨inside, typed, idempotent⟩ := ih before
              (wellFormed.ordered earlier instruction later before destination
                (Operation.destination_mem written))
            refine ⟨List.mem_append_left _ inside, typed.trans ?_, idempotent⟩
            rw [only, List.mem_singleton] at defines
            obtain ⟨type, typed, resultTyped⟩ :=
              wellFormed.destination instruction member destination result written only
            rw [defines, typed, resultTyped]
        | none =>
            have own := root_of_allocated wellFormed member written defines
            rw [own]
            exact ⟨List.mem_append_right _ defines, rfl, own⟩

theorem root_mem {value : ValueId} (defined : value ∈ function.definedValues) :
    function.root value ∈ function.definedValues :=
  (root_among_known wellFormed (List.append_nil function.body).symm defined).1

theorem valueType_root {value : ValueId} (defined : value ∈ function.definedValues) :
    m.valueType (function.root value) = m.valueType value :=
  (root_among_known wellFormed (List.append_nil function.body).symm defined).2.1

theorem tensorType_root {value : ValueId} {type : TensorType}
    (defined : value ∈ function.definedValues) :
    m.tensorType (function.root value) = .ok type ↔ m.tensorType value = .ok type := by
  rw [Module.tensorType_eq_ok_iff, Module.tensorType_eq_ok_iff, valueType_root wellFormed defined]

theorem deviceType_root {value : ValueId} {type : DeviceType}
    (defined : value ∈ function.definedValues) :
    m.deviceType (function.root value) = .ok type ↔ m.deviceType value = .ok type := by
  rw [Module.deviceType_eq_ok_iff, Module.deviceType_eq_ok_iff, valueType_root wellFormed defined]

end

end Tilework
