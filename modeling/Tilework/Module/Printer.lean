import Tilework.Module.Basic

/-!
# Printing modules

The printed form of a module lists its functions, one instruction to a line,
with the types of all arguments and results and the location of every operation.
-/

namespace Tilework.Module

/-- The printed types of a list of values. -/
def typesText (m : Module) (values : List ValueId) : String :=
  Text.commas (values.map fun value =>
    match m.values[value.index]? with
    | some type => type.text
    | none => "<unknown>")

/-- The printed names of a list of values. -/
def namesText (values : List ValueId) : String :=
  Text.commas (values.map ValueId.text)

/-- The printed form of an instruction. -/
def instructionText (m : Module) (instruction : Instruction) : String :=
  let operation := instruction.operation
  let results := operation.results
  let attributes := operation.attributes.map fun (name, text) => name ++ " = " ++ text
  (if results.isEmpty then "" else namesText results ++ " = ") ++
    operation.name ++ "(" ++ namesText operation.operands ++ ")" ++
    (if attributes.isEmpty then "" else " \x7b" ++ Text.commas attributes ++ "\x7d") ++
    (if results.isEmpty then "" else " : " ++ m.typesText results) ++
    " " ++ instruction.location.text

/-- The printed form of a function, with a line break after every line. -/
def functionText (m : Module) (function : Function) : String :=
  let arguments := function.arguments.map fun argument =>
    argument.text ++ ": " ++ m.typesText [argument]
  "  func.func @" ++ function.name ++ "(" ++ Text.commas arguments ++ ") -> (" ++
    m.typesText function.returns ++ ") \x7b\n" ++
    String.join (function.body.map fun instruction =>
      "    " ++ m.instructionText instruction ++ "\n") ++
    "    return " ++ namesText function.returns ++
    (if function.returns.isEmpty then "" else " : " ++ m.typesText function.returns) ++
    "\n  \x7d\n"

/-- The printed form of a module. -/
def text (m : Module) : String :=
  "module attributes \x7bsystem_desc = " ++ m.system.text ++ ", device = " ++
    m.target.text ++ "\x7d \x7b\n" ++
    String.join (m.functions.map m.functionText) ++ "\x7d"

end Tilework.Module
