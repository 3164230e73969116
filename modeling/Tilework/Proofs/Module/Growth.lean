import Tilework.Module.Printer
import Tilework.Proofs.Module.WellFormed

/-!
# Modules that grow

A module grows by new values and by functions that are drafted inside it.  What it held
before stays where it was: a value keeps its type, and the functions that it had come first
and are printed as they were.
-/

namespace Tilework

/-! ## Growth -/

/-- What a module grows into, by one value or one draft after another.  A draft leaves its
values behind whether or not it is accepted. -/
inductive Module.GrowsTo (m : Module) : Module → Prop
  | refl : GrowsTo m m
  | addValue {grown : Module} (grows : GrowsTo m grown) (type : ValueType) :
      GrowsTo m (grown.addValue type).2
  | finish {grown : Module} {draft : Draft} (grows : GrowsTo m grown)
      (drafted : draft.From grown) (returns : List ValueId) :
      GrowsTo m (draft.finish returns).1

/-- A module has all that another one has, in the same places. -/
structure Module.Extends (grown m : Module) : Prop where
  system : grown.system = m.system
  target : grown.target = m.target
  values : m.values <+: grown.values
  functions : m.functions <+: grown.functions

namespace Module

variable {m grown : Module}

theorem Extends.refl (m : Module) : m.Extends m :=
  ⟨rfl, rfl, List.prefix_rfl, List.prefix_rfl⟩

theorem Extends.addValue (extended : grown.Extends m) (type : ValueType) :
    (grown.addValue type).2.Extends m :=
  ⟨extended.system, extended.target, extended.values.trans (List.prefix_append _ _),
    extended.functions⟩

theorem Extends.draft {draft : Draft} (extended : grown.Extends m) (drafted : draft.From grown) :
    draft.module.Extends m := by
  induction drafted with
  | start name => exact extended
  | argument drafted type ih => exact ih.addValue type
  | value drafted type ih => exact ih.addValue type
  | append drafted instruction ih => exact ih

theorem Extends.insert {function : Function} {last : Module} (extended : grown.Extends m)
    (inserted : grown.insert function = .ok last) : last.Extends m := by
  simp only [Module.insert] at inserted
  split at inserted
  · cases inserted
  · rcases map_eq_ok_iff.mp inserted with ⟨⟨⟩, accepted, rfl⟩
    exact ⟨extended.system, extended.target, extended.values,
      extended.functions.trans (List.prefix_append _ _)⟩

/-- What a module grows into extends it. -/
theorem GrowsTo.extends (grows : m.GrowsTo grown) : grown.Extends m := by
  induction grows with
  | refl => exact .refl m
  | addValue grows type ih => exact ih.addValue type
  | @finish grown draft grows drafted returns ih =>
      have before := ih.draft drafted
      simp only [Draft.finish]
      split
      · rename_i last inserted
        exact before.insert inserted
      · exact before

/-- What grows out of a module that can be built can be built. -/
theorem Built.growsTo (built : m.Built) (grows : m.GrowsTo grown) : grown.Built := by
  induction grows with
  | refl => exact built
  | addValue grows type ih => exact ih.addValue type
  | finish grows drafted returns ih => exact ih.finish drafted returns

/-! ## What stays -/

section

variable (extended : grown.Extends m)

include extended

theorem Extends.getElem?_values_eq {value : ValueId}
    (typed : ∃ type, m.valueType value = .ok type) :
    grown.values[value.index]? = m.values[value.index]? := by
  obtain ⟨type, known⟩ := typed
  obtain ⟨added, split⟩ := extended.values
  rw [valueType] at known
  split at known
  · rename_i found
    rw [← split, List.getElem?_append_left (List.getElem?_eq_some_iff.mp found).1]
  · cases known

/-- A value keeps its type. -/
theorem Extends.valueType_eq {value : ValueId} (typed : ∃ type, m.valueType value = .ok type) :
    grown.valueType value = m.valueType value := by
  rw [valueType, extended.getElem?_values_eq typed, valueType]

theorem Extends.tensorType_eq {value : ValueId} (typed : ∃ type, m.valueType value = .ok type) :
    grown.tensorType value = m.tensorType value := by
  rw [tensorType, extended.valueType_eq typed, tensorType]

theorem Extends.deviceType_eq {value : ValueId} (typed : ∃ type, m.valueType value = .ok type) :
    grown.deviceType value = m.deviceType value := by
  rw [deviceType, extended.valueType_eq typed, deviceType]

theorem Extends.typesText_eq {values : List ValueId}
    (typed : ∀ value ∈ values, ∃ type, m.valueType value = .ok type) :
    grown.typesText values = m.typesText values := by
  rw [typesText, typesText]
  congr 1
  apply List.map_congr_left
  intro value member
  rw [extended.getElem?_values_eq (typed value member)]

theorem Extends.instructionText_eq {instruction : Instruction}
    (typed : ∀ value ∈ instruction.operation.results, ∃ type, m.valueType value = .ok type) :
    grown.instructionText instruction = m.instructionText instruction := by
  rw [instructionText, instructionText, extended.typesText_eq typed]

/-- A function is printed as before. -/
theorem Extends.functionText_eq {function : Function} (wellFormed : function.WellFormed m) :
    grown.functionText function = m.functionText function := by
  have arguments : function.arguments.map (fun argument =>
        argument.text ++ ": " ++ grown.typesText [argument]) =
      function.arguments.map fun argument =>
        argument.text ++ ": " ++ m.typesText [argument] := by
    apply List.map_congr_left
    intro argument member
    rw [extended.typesText_eq (List.forall_mem_singleton.mpr (wellFormed.typed_argument member))]
  have body : function.body.map (fun instruction =>
        "    " ++ grown.instructionText instruction ++ "\n") =
      function.body.map fun instruction => "    " ++ m.instructionText instruction ++ "\n" := by
    apply List.map_congr_left
    intro instruction member
    rw [extended.instructionText_eq fun value defines => wellFormed.typed_result member defines]
  have returned : grown.typesText function.returns = m.typesText function.returns :=
    extended.typesText_eq fun value member => wellFormed.typed_returned member
  unfold functionText
  simp only [arguments, body, returned]

/-- The printed form of a module gets no shorter. -/
theorem Extends.utf8ByteSize_text_le (wellFormed : m.WellFormed) :
    m.text.utf8ByteSize ≤ grown.text.utf8ByteSize := by
  obtain ⟨added, split⟩ := extended.functions
  have functions : m.functions.map grown.functionText = m.functions.map m.functionText :=
    List.map_congr_left fun function member =>
      extended.functionText_eq (wellFormed.function function member)
  unfold text
  simp only [extended.system, extended.target, ← split, List.map_append, functions,
    String.join_append, String.utf8ByteSize_append]
  omega

end

end Module

end Tilework
