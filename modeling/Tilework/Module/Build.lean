import Tilework.Module.Basic

/-!
# Building functions

A function is drafted inside its module and checked when it is finished.  A
finished function is well formed: it has a name of its own, every value is
defined once in the whole module and before its first use, and a result that is
written into another tensor has the type of that tensor.  A rejected draft
leaves its values behind, and nothing else.
-/

namespace Tilework

namespace Module

/-! ## Checks -/

/-- Define a value, which nothing may have defined before. -/
def define (m : Module) (function : String) (defined : List ValueId) (value : ValueId) :
    Except ModuleError (List ValueId) := do
  let _ ← m.valueType value
  match m.definer? value with
  | some other => throw (.definedInOtherFunction function other value)
  | none =>
      if value ∈ defined then throw (.multipleDefinitions function value)
      else pure (value :: defined)

/-- Check that an operand is a value defined earlier. -/
def checkOperand (m : Module) (function : String) (defined : List ValueId)
    (operation : Operation) (operand : ValueId) : Except ModuleError Unit := do
  let _ ← m.valueType operand
  if operand ∈ defined then pure ()
  else throw (.useBeforeDefinition function operation.name operand)

/-- Check that an operation that opens a device defines a device. -/
def checkDevice (m : Module) : Operation → Except ModuleError Unit
  | .getDevice op => (m.deviceType op.result).map fun _ => ()
  | _ => pure ()

/-- Check that a single result written into another tensor has its type. -/
def checkDestination (m : Module) (operation : Operation) : Except ModuleError Unit :=
  match operation.destination, operation.results with
  | some destination, [result] => do
      let destinationType ← m.valueType destination
      let resultType ← m.valueType result
      if destinationType = resultType then pure ()
      else throw (.destinationTypeMismatch operation.name destination result)
  | _, _ => pure ()

/-- Check one instruction, given the values defined before it, and return the
values defined after it. -/
def checkInstruction (m : Module) (function : String) (defined : List ValueId)
    (instruction : Instruction) : Except ModuleError (List ValueId) := do
  let operation := instruction.operation
  operation.operands.forM (m.checkOperand function defined operation)
  let defined ← operation.results.foldlM (m.define function) defined
  m.checkDevice operation
  m.checkDestination operation
  pure defined

/-- Check that a returned value has been defined. -/
def checkReturn (function : String) (defined : List ValueId) (value : ValueId) :
    Except ModuleError Unit :=
  if value ∈ defined then pure () else throw (.undefinedReturnValue function value)

/-- Check that a function is well formed next to the functions of the module. -/
def checkFunction (m : Module) (function : Function) : Except ModuleError Unit := do
  let defined ← function.arguments.foldlM (m.define function.name) []
  let defined ← function.body.foldlM (m.checkInstruction function.name) defined
  function.returns.forM (checkReturn function.name defined)

/-- Add a function that has been checked. -/
def addFunction (m : Module) (function : Function) : Module :=
  { m with
    functions := m.functions ++ [function]
    definitions :=
      function.definedValues.map (fun value => (value, function.name)) ++ m.definitions }

/-- Check a function and add it. -/
def insert (m : Module) (function : Function) : Except ModuleError Module :=
  if (m.function? function.name).isSome then .error (.duplicateFunction function.name)
  else (m.checkFunction function).map fun _ => m.addFunction function

end Module

/-! ## Drafts -/

/-- A function under construction, with the module that it grows. -/
structure Draft where
  module : Module
  name : String
  arguments : List ValueId := []
  body : List Instruction := []

namespace Draft

/-- Add an argument. -/
def argument (draft : Draft) (type : ValueType) : ValueId × Draft :=
  let (value, module) := draft.module.addValue type
  (value, { draft with module, arguments := draft.arguments ++ [value] })

/-- Register a value, for an operation that is to be appended. -/
def value (draft : Draft) (type : ValueType) : ValueId × Draft :=
  let (value, module) := draft.module.addValue type
  (value, { draft with module })

/-- Append an instruction. -/
def append (draft : Draft) (instruction : Instruction) : Draft :=
  { draft with body := draft.body ++ [instruction] }

/-- The drafted function with the given returned values. -/
def function (draft : Draft) (returns : List ValueId) : Function :=
  { name := draft.name, arguments := draft.arguments, body := draft.body, returns }

/-- Check the function and add it to the module.  The module as it stands
afterwards comes with the reason why the function was rejected, if it was. -/
def finish (draft : Draft) (returns : List ValueId) : Module × Except ModuleError Unit :=
  match draft.module.insert (draft.function returns) with
  | .ok module => (module, .ok ())
  | .error error => (draft.module, .error error)

end Draft

end Tilework
