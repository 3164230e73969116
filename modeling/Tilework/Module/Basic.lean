import Tilework.Device.System
import Tilework.Device.Target
import Tilework.Operation.Signature

/-!
# Modules of device programs

A module owns the types of all values, the functions that define and use them,
and a description of the system and the device that it is compiled for.  Values
are numbered densely over the whole module, and the module remembers which
function defines each of them.
-/

namespace Tilework

/-- Where an operation comes from. -/
inductive Location
  | unknown
  | named (name : String)
  | position (file : String) (line column : UInt32)
  deriving DecidableEq, Inhabited

namespace Location

/-- The printed form of a location. -/
def text : Location → String
  | unknown => "loc(unknown)"
  | named name => "loc(\"" ++ name ++ "\")"
  | position file line column =>
      "loc(\"" ++ file ++ "\":" ++ toString line ++ ":" ++ toString column ++ ")"

end Location

/-- An operation and where it comes from. -/
structure Instruction where
  operation : Operation
  location : Location := .unknown

/-- A straight line of instructions with named arguments and returned values. -/
structure Function where
  name : String
  arguments : List ValueId
  body : List Instruction
  returns : List ValueId

namespace Function

/-- The values that the function defines: its arguments and the results of its
operations. -/
def definedValues (function : Function) : List ValueId :=
  function.arguments ++ function.body.flatMap fun instruction => instruction.operation.results

end Function

/-- What a value is expected to be. -/
inductive ValueSort
  | tensor
  | device
  deriving DecidableEq

namespace ValueSort

/-- How messages refer to a sort. -/
def text : ValueSort → String
  | tensor => "tensor"
  | device => "device"

end ValueSort

/-- Why a value cannot be used, or a function is not well formed. -/
inductive ModuleError
  | unknownValue (value : ValueId)
  | unexpectedSort (value : ValueId) (expected : ValueSort)
  | useBeforeDefinition (function operation : String) (value : ValueId)
  | multipleDefinitions (function : String) (value : ValueId)
  | definedInOtherFunction (function other : String) (value : ValueId)
  | undefinedReturnValue (function : String) (value : ValueId)
  | destinationTypeMismatch (operation : String) (destination result : ValueId)
  | duplicateFunction (name : String)
  deriving DecidableEq

namespace ModuleError

/-- The message of an error. -/
def message : ModuleError → String
  | unknownValue value => "value " ++ value.text ++ " does not exist in this module"
  | unexpectedSort value expected =>
      "value " ++ value.text ++ " is expected to be a " ++ expected.text ++ " value"
  | useBeforeDefinition function operation value =>
      "operation '" ++ operation ++ "' in function '" ++ function ++ "' uses value " ++
        value.text ++ " before it is defined"
  | multipleDefinitions function value =>
      "value " ++ value.text ++ " is defined more than once in function '" ++ function ++ "'"
  | definedInOtherFunction function other value =>
      "value " ++ value.text ++ " is defined in function '" ++ function ++
        "', but function '" ++ other ++ "' already defines it"
  | undefinedReturnValue function value =>
      "function '" ++ function ++ "' returns value " ++ value.text ++
        ", which it does not define"
  | destinationTypeMismatch operation destination result =>
      "operation '" ++ operation ++ "' writes into " ++ destination.text ++
        ", whose type differs from the type of result " ++ result.text
  | duplicateFunction name => "module already contains a function named '" ++ name ++ "'"

end ModuleError

/-- A module of device programs. -/
structure Module where
  system : System
  target : Target
  /-- The types of all values, in order of creation. -/
  values : List ValueType := []
  functions : List Function := []
  /-- The name of the function that defines each defined value. -/
  definitions : List (ValueId × String) := []

namespace Module

/-- The function of the given name. -/
def function? (m : Module) (name : String) : Option Function :=
  m.functions.find? fun function => function.name == name

/-- The name of the function that defines a value. -/
def definer? (m : Module) (value : ValueId) : Option String :=
  m.definitions.lookup value

/-- The type of a value. -/
def valueType (m : Module) (value : ValueId) : Except ModuleError ValueType :=
  match m.values[value.index]? with
  | some type => .ok type
  | none => .error (.unknownValue value)

/-- The type of a value that has to be a tensor. -/
def tensorType (m : Module) (value : ValueId) : Except ModuleError TensorType := do
  match ← m.valueType value with
  | .tensor type => pure type
  | .device _ => throw (.unexpectedSort value .tensor)

/-- The type of a value that has to be a device. -/
def deviceType (m : Module) (value : ValueId) : Except ModuleError DeviceType := do
  match ← m.valueType value with
  | .tensor _ => throw (.unexpectedSort value .device)
  | .device type => pure type

/-- Register a new value, which nothing defines yet. -/
def addValue (m : Module) (type : ValueType) : ValueId × Module :=
  (⟨m.values.length⟩, { m with values := m.values ++ [type] })

end Module

end Tilework
