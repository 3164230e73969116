import Tilework.Module.Printer
import Tilework.Proofs.Module.WellFormed

/-!
# Printing stored functions

The printed form of a module shows the type of every argument, result and returned
value, and says `<unknown>` where a value has none.  A second printer gives up at such
a value.  Both print the functions of a module that has been built, and they print the
same text.
-/

namespace Tilework

namespace Module

variable {m : Module} {values : List ValueId}

/-! ## A printer that gives up -/

/-- The printed types of a list of values, all of which have one. -/
def typesText? (m : Module) (values : List ValueId) : Option String := do
  let types ← values.mapM fun value => (m.values[value.index]?).map ValueType.text
  pure (Text.commas types)

/-- The printed form of an instruction whose results have types. -/
def instructionText? (m : Module) (instruction : Instruction) : Option String := do
  let operation := instruction.operation
  let results := operation.results
  let attributes := operation.attributes.map fun (name, text) => name ++ " = " ++ text
  let types ← m.typesText? results
  pure
    ((if results.isEmpty then "" else namesText results ++ " = ") ++
      operation.name ++ "(" ++ namesText operation.operands ++ ")" ++
      (if attributes.isEmpty then "" else " \x7b" ++ Text.commas attributes ++ "\x7d") ++
      (if results.isEmpty then "" else " : " ++ types) ++
      " " ++ instruction.location.text)

/-- The printed form of a function all of whose values have types. -/
def functionText? (m : Module) (function : Function) : Option String := do
  let arguments ← function.arguments.mapM fun argument => do
    let type ← m.typesText? [argument]
    pure (argument.text ++ ": " ++ type)
  let instructions ← function.body.mapM m.instructionText?
  let returned ← m.typesText? function.returns
  pure
    ("  func.func @" ++ function.name ++ "(" ++ Text.commas arguments ++ ") -> (" ++
      returned ++ ") \x7b\n" ++
      String.join (instructions.map fun text => "    " ++ text ++ "\n") ++
      "    return " ++ namesText function.returns ++
      (if function.returns.isEmpty then "" else " : " ++ returned) ++
      "\n  \x7d\n")

/-! ## Both printers agree -/

theorem mapM_eq_some_map {α β : Type} {items : List α} {f : α → Option β} {g : α → β}
    (each : ∀ item ∈ items, f item = some (g item)) : items.mapM f = some (items.map g) := by
  rw [mapM_eq_some_iff, List.forall₂_map_right_iff, List.forall₂_same]
  exact each

theorem typesText_eq : m.typesText values = Text.commas (values.map fun value =>
    ((m.values[value.index]?).map ValueType.text).getD "<unknown>") := by
  rw [typesText]
  congr 1
  apply List.map_congr_left
  intro value member
  cases m.values[value.index]? <;> rfl

theorem typesText?_eq_some (typed : ∀ value ∈ values, ∃ type, m.valueType value = .ok type) :
    m.typesText? values = some (m.typesText values) := by
  have texts : values.mapM (fun value => (m.values[value.index]?).map ValueType.text) =
      some (values.map fun value =>
        ((m.values[value.index]?).map ValueType.text).getD "<unknown>") := by
    apply mapM_eq_some_map
    intro value member
    obtain ⟨type, known⟩ := typed value member
    rw [valueType] at known
    split at known
    · rename_i found
      rw [found, Option.map_some, Option.getD_some]
    · cases known
  rw [typesText?, texts, typesText_eq]
  rfl

theorem instructionText?_eq_some {instruction : Instruction}
    (typed : ∀ value ∈ instruction.operation.results, ∃ type, m.valueType value = .ok type) :
    m.instructionText? instruction = some (m.instructionText instruction) := by
  rw [instructionText?, typesText?_eq_some typed]
  rfl

/-- The text of a function whose values have types shows no value as unknown. -/
theorem functionText?_eq_some {function : Function} (wellFormed : function.WellFormed m) :
    m.functionText? function = some (m.functionText function) := by
  have arguments : function.arguments.mapM (fun argument => do
        let type ← m.typesText? [argument]
        pure (argument.text ++ ": " ++ type)) =
      some (function.arguments.map fun argument =>
        argument.text ++ ": " ++ m.typesText [argument]) := by
    apply mapM_eq_some_map
    intro argument member
    rw [typesText?_eq_some (List.forall_mem_singleton.mpr (wellFormed.typed_argument member))]
    rfl
  have instructions : function.body.mapM m.instructionText? =
      some (function.body.map m.instructionText) := by
    apply mapM_eq_some_map
    intro instruction member
    exact instructionText?_eq_some fun value defines => wellFormed.typed_result member defines
  have returned : m.typesText? function.returns = some (m.typesText function.returns) :=
    typesText?_eq_some fun value member => wellFormed.typed_returned member
  rw [functionText?, arguments, instructions, returned]
  simp only [Option.bind_eq_bind, Option.bind_some, Option.pure_def, List.map_map]
  rfl

/-- Every module that can be built is well formed, and each of its functions is printed
with the types of its own values. -/
theorem Built.wellFormed_and_functionText?_eq (built : m.Built) :
    m.WellFormed ∧
      ∀ function ∈ m.functions, m.functionText? function = some (m.functionText function) := by
  have wellFormed := built.wellFormed
  refine ⟨wellFormed, ?_⟩
  intro function member
  exact functionText?_eq_some (wellFormed.function function member)

end Module

/-! ## An example -/

/-- A draft that is rejected, since it returns a value that nothing defines. -/
def rejectedDraft : Draft :=
  let target : Target := { workers := { rows := 1, columns := 1 }, chips := [0], mesh := [1] }
  let module : Module := { system := .single, target }
  ({ module, name := "rejected" : Draft }.argument (.device { chips := [0], mesh := [1] })).2

/-- A draft begun after the rejected one, whose operations define the value `%0` that the
other has left behind, and a value that comes from an unknown dialect. -/
def lateDraft : Draft :=
  let module := (rejectedDraft.finish [⟨1⟩]).1
  let (unknown, draft) :=
    { module, name := "late" : Draft }.value (.device { chips := [], mesh := [] })
  let draft := draft.append { operation := .getDevice { result := ⟨0⟩ } }
  draft.append
    { operation := .unregistered { name := "other.op", operands := [⟨0⟩], results := [unknown] } }

theorem wellFormed_and_functionText?_eq_lateDraft :
    let m := (lateDraft.finish [⟨0⟩, ⟨1⟩]).1
    m.Built ∧ (rejectedDraft.finish [⟨1⟩]).1.functions.length = 0 ∧
      m.functions.map Function.name = ["late"] ∧ m.definer? ⟨0⟩ = some "late" ∧ m.WellFormed ∧
        ∀ function ∈ m.functions, m.functionText? function = some (m.functionText function) := by
  have built : (lateDraft.finish [⟨0⟩, ⟨1⟩]).1.Built :=
    .finish (.finish (.empty _ _) (.argument (.start _) _) _)
      (.append (.append (.value (.start _) _) _) _) _
  exact ⟨built, rfl, rfl, rfl, Module.Built.wellFormed_and_functionText?_eq built⟩

end Tilework
