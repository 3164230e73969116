import Mathlib.Data.List.ReduceOption
import Tilework.Lowering.Program
import Tilework.Proofs.Artifact.Framing
import Tilework.Proofs.Lowering.Linking

/-!
# Lowered programs

The program of a function can be read off the finished tables: the inputs are the
handles of its tensor arguments, the outputs those of the roots of its returned
values, and its records are linked at the roots of its values.  The finished tables
hold one row for each key, and every row describes its key.
-/

namespace Tilework

open Artifact Interner

/-! ## Linked programs -/

/-- Whether a value is a tensor. -/
def Module.isTensor (m : Module) (value : ValueId) : Bool :=
  match m.valueType value with
  | .ok (.tensor _) => true
  | _ => false

/-- The arguments of a function that are tensors. -/
def Function.tensorArguments (m : Module) (function : Function) : List ValueId :=
  function.arguments.filter m.isTensor

/-- The entry of an instruction, read off the finished tables. -/
structure Instruction.Linked (m : Module) (interner : Interner) (function : Function)
    (instruction : Instruction) (entry : OperationEntry) : Prop where
  record : ∃ record linked, instruction.operation.record m = .ok record ∧
    record.mapM (Reference.handleIn interner function.root) = some linked ∧
      entry.record = some linked
  debugText : entry.debugText = m.instructionText instruction
  locationText : entry.locationText = instruction.location.text

/-- The program of a function, read off the finished tables. -/
structure Function.Linked (m : Module) (interner : Interner) (function : Function)
    (program : Program) : Prop where
  name : program.name = function.name
  inputs : List.Forall₂ (fun value handle => interner.handle? .tensors (.value value) = some handle)
    (function.tensorArguments m) program.inputs
  devices : ∀ value ∈ function.arguments, ∀ type, m.deviceType value = .ok type →
    ∃ handle, interner.handle? .devices (.value value) = some handle
  operations : List.Forall₂ (Instruction.Linked m interner function) function.body
    program.operations
  outputs : List.Forall₂
    (fun value handle => interner.handle? .tensors (.value (function.root value)) = some handle)
    function.returns program.outputs
  debugInfo : interner.handle? .debugInfos .debugInfo = some program.debugInfo

/-! ## Functions -/

section

variable {m : Module} {function : Function} {before after : LoweringState} {interner : Interner}

theorem grows_of_runs_body {body : List Instruction}
    {outcome : Except LoweringError (List OperationEntry)}
    (run : Runs (body.mapM (Instruction.lower m)) before outcome after) :
    before.interner.Grows after.interner := by
  have advances : Keeps (LoweringState.Advances m {}) (body.mapM (Instruction.lower m)) :=
    closed_advances.mapM closed_advances.instruction body
  exact (advances before outcome after run).1

/-- The tables grow while functions are lowered. -/
theorem grows_of_runs_functions {functions : List Function} {debugInfo : Handle}
    {outcome : Except LoweringError (List Program)}
    (run : Runs (functions.mapM fun function => function.lower m debugInfo) before outcome after) :
    before.interner.Grows after.interner := by
  have advances : Keeps (LoweringState.Advances m {})
      (functions.mapM fun function => function.lower m debugInfo) :=
    closed_advances.mapM (closed_advances.function · debugInfo) functions
  exact (advances before outcome after run).1

/-- An argument is a tensor with a handle, or a device with a handle of its own. -/
theorem runs_lowerArgument_ok {argument : ValueId} {given : Option Handle}
    (run : Runs (m.lowerArgument argument) before (.ok given) after) :
    after.aliases = before.aliases ∧
      ((∃ handle, m.isTensor argument = true ∧ given = some handle ∧
          after.interner.handle? .tensors (.value argument) = some handle ∧
          ∀ type, m.deviceType argument ≠ .ok type) ∨
        ∃ handle, m.isTensor argument = false ∧ given = none ∧
          after.interner.handle? .devices (.value argument) = some handle) := by
  rcases runs_bind_ok.mp run with ⟨type, middle, lifted, rest⟩
  rcases runs_lift.mp lifted with ⟨type_eq, rfl⟩
  have typed := mapError_eq_ok_iff.mp type_eq.symm
  cases type with
  | device type =>
      rcases runs_bind_ok.mp rest with ⟨handle, last, opened, done⟩
      rcases runs_pure.mp done with ⟨same, rfl⟩
      cases same
      obtain ⟨found, aliases_eq⟩ := Lowering.handle?_of_runs_own opened
      exact ⟨aliases_eq, Or.inr ⟨handle, by simp [Module.isTensor, typed], rfl, found⟩⟩
  | tensor type =>
      rcases runs_map_ok.mp rest with ⟨handle, allocated, rfl⟩
      obtain ⟨found, aliases_eq⟩ := Lowering.handle?_of_runs_own allocated
      refine ⟨aliases_eq, Or.inl ⟨handle, by simp [Module.isTensor, typed], rfl, found, ?_⟩⟩
      intro other opens
      simp only [Module.deviceType, typed] at opens
      cases opens

/-- The tensors among some arguments have the handles that are given for them. -/
theorem linked_of_runs_arguments {arguments : List ValueId} {given : List (Option Handle)}
    (run : Runs (arguments.mapM m.lowerArgument) before (.ok given) after) :
    after.aliases = before.aliases ∧
      (after.interner.Grows interner → interner.Distinct →
        List.Forall₂ (fun value handle => interner.handle? .tensors (.value value) = some handle)
          (arguments.filter m.isTensor) given.reduceOption ∧
        ∀ value ∈ arguments, ∀ type, m.deviceType value = .ok type →
          ∃ handle, interner.handle? .devices (.value value) = some handle) := by
  induction arguments generalizing before given with
  | nil =>
      rcases runs_mapM_nil.mp run with ⟨rfl, rfl⟩
      exact ⟨rfl, fun _ _ => ⟨.nil, nofun⟩⟩
  | cons argument arguments ih =>
      rcases runs_mapM_cons.mp run with ⟨first, middle, later, ran, rest, rfl⟩
      have advances : Keeps (LoweringState.Advances m {}) (arguments.mapM m.lowerArgument) :=
        closed_advances.mapM closed_advances.argument arguments
      have grows := (advances middle _ after rest).1
      obtain ⟨aliases_eq, found⟩ := runs_lowerArgument_ok ran
      obtain ⟨laterAliases_eq, linked⟩ := ih rest
      refine ⟨laterAliases_eq.trans aliases_eq, fun whole distinct => ?_⟩
      obtain ⟨tensors, devices⟩ := linked whole distinct
      have still := IsTrans.trans _ _ _ grows whole
      rcases found with ⟨handle, isTensor, rfl, found, other⟩ | ⟨handle, isDevice, rfl, found⟩
      · rw [List.filter_cons_of_pos isTensor, List.reduceOption_cons_of_some]
        refine ⟨.cons (handle?_of_grows still distinct found) tensors, ?_⟩
        refine List.forall_mem_cons.mpr ⟨fun type opens => absurd opens (other type), devices⟩
      · rw [List.filter_cons_of_neg (by simp [isDevice]), List.reduceOption_cons_of_none]
        refine ⟨tensors, List.forall_mem_cons.mpr ⟨fun type _ => ?_, devices⟩⟩
        exact ⟨handle, handle?_of_grows still distinct found⟩

/-- Returned values are looked up where their aliases lead. -/
theorem runs_mapM_tensor_ok {values : List ValueId} {handles : List Handle} :
    Runs (values.mapM Lowering.tensor) before (.ok handles) after ↔
      List.Forall₂ (fun value handle =>
        before.interner.handle? .tensors (.value (before.aliases.resolve value)) = some handle)
        values handles ∧ after = before := by
  induction values generalizing handles with
  | nil =>
      rw [runs_mapM_nil, List.forall₂_nil_left_iff]
  | cons value values ih =>
      rw [runs_mapM_cons, List.forall₂_cons_left_iff]
      constructor
      · rintro ⟨handle, middle, later, ran, rest, rfl⟩
        rcases Lowering.runs_shared_ok.mp ran with ⟨found, rfl⟩
        obtain ⟨each, rfl⟩ := ih.1 rest
        exact ⟨⟨handle, later, found, each, rfl⟩, rfl⟩
      · rintro ⟨⟨handle, later, found, each, rfl⟩, rfl⟩
        exact ⟨handle, after, later, Lowering.runs_shared_ok.mpr ⟨found, rfl⟩,
          ih.2 ⟨each, rfl⟩, rfl⟩

variable (wellFormed : function.WellFormed m)

include wellFormed

/-- Instructions in the middle of a body are linked one after another, while the aliases are
those of the instructions before. -/
theorem linked_of_runs_body {earlier body later : List Instruction}
    (split : function.body = earlier ++ (body ++ later)) {entries : List OperationEntry}
    (aliases_eq : before.aliases = aliasesAfter earlier)
    (run : Runs (body.mapM (Instruction.lower m)) before (.ok entries) after) :
    after.aliases = aliasesAfter (earlier ++ body) ∧
      (after.interner.Grows interner → interner.Distinct →
        List.Forall₂ (Instruction.Linked m interner function) body entries) := by
  induction body generalizing earlier before entries with
  | nil =>
      rcases runs_mapM_nil.mp run with ⟨rfl, rfl⟩
      rw [List.append_nil]
      exact ⟨aliases_eq, fun _ _ => .nil⟩
  | cons instruction body ih =>
      rcases runs_mapM_cons.mp run with ⟨entry, middle, others, ran, rest, rfl⟩
      have grows := grows_of_runs_body rest
      rcases runs_bind_ok.mp ran with ⟨linked, last, lowered, done⟩
      rcases runs_pure.mp done with ⟨same, rfl⟩
      cases same
      obtain ⟨middleAliases_eq, record, encoded, reads⟩ :=
        record_of_runs_lower wellFormed split aliases_eq lowered
      have whole : function.body = (earlier ++ [instruction]) ++ (body ++ later) := by simp [split]
      obtain ⟨final, each⟩ := ih whole middleAliases_eq rest
      rw [List.append_assoc] at final
      refine ⟨final, fun grown distinct => .cons ?_ (each grown distinct)⟩
      have still := IsTrans.trans _ _ _ grows grown
      exact ⟨⟨record, linked, encoded, reads interner still distinct, rfl⟩, rfl, rfl⟩

/-- The parts of a program are linked as the finished tables say, whatever its debug
information is. -/
theorem parts_of_runs_function {debugInfo : Handle} {program : Program}
    (run : Runs (function.lower m debugInfo) before (.ok program) after)
    (grows : after.interner.Grows interner) (distinct : interner.Distinct) :
    (program.name = function.name ∧ program.debugInfo = debugInfo) ∧
      (List.Forall₂ (fun value handle => interner.handle? .tensors (.value value) = some handle)
        (function.tensorArguments m) program.inputs ∧
      ∀ value ∈ function.arguments, ∀ type, m.deviceType value = .ok type →
        ∃ handle, interner.handle? .devices (.value value) = some handle) ∧
      List.Forall₂ (Instruction.Linked m interner function) function.body program.operations ∧
      List.Forall₂
        (fun value handle => interner.handle? .tensors (.value (function.root value)) = some handle)
        function.returns program.outputs := by
  rcases runs_bind_ok.mp run with ⟨_, start, cleared, afterStart⟩
  rcases runs_modify.mp cleared with ⟨_, rfl⟩
  rcases runs_bind_ok.mp afterStart with ⟨given, ready, arguments, afterArguments⟩
  rcases runs_bind_ok.mp afterArguments with ⟨operations, finished, body, afterBody⟩
  rcases runs_bind_ok.mp afterBody with ⟨outputs, last, returned, done⟩
  rcases runs_pure.mp done with ⟨same, rfl⟩
  cases same
  rcases runs_mapM_tensor_ok.mp returned with ⟨found, rfl⟩
  have bodyGrows := grows_of_runs_body body
  obtain ⟨unaliased, linked⟩ := linked_of_runs_arguments arguments
  have aliases_eq : ready.aliases = aliasesAfter [] := unaliased
  obtain ⟨final, each⟩ :=
    linked_of_runs_body wellFormed (List.append_nil _).symm aliases_eq body
  refine ⟨⟨rfl, rfl⟩, linked (IsTrans.trans _ _ _ bodyGrows grows) distinct,
    each grows distinct, ?_⟩
  refine found.imp fun value handle found => ?_
  rw [final, List.nil_append, resolve_aliasesAfter_body wellFormed] at found
  exact handle?_of_grows grows distinct found

/-- A function is linked as the finished tables say. -/
theorem linked_of_runs_function {debugInfo : Handle} {program : Program}
    (run : Runs (function.lower m debugInfo) before (.ok program) after)
    (grows : after.interner.Grows interner) (distinct : interner.Distinct)
    (debug : interner.handle? .debugInfos .debugInfo = some debugInfo) :
    function.Linked m interner program := by
  obtain ⟨⟨name, rfl⟩, ⟨inputs, devices⟩, operations, outputs⟩ :=
    parts_of_runs_function wellFormed run grows distinct
  exact ⟨name, inputs, devices, operations, outputs, debug⟩

end

/-! ## Modules -/

section

variable {m : Module} {options : LoweringOptions}

/-- What holds of each function that is lowered, while its tables grow into the finished
ones, holds of all of them. -/
theorem forall₂_of_runs_functions {R : Function → Program → Prop} {functions : List Function}
    {programs : List Program} {debugInfo : Handle} {before after : LoweringState}
    {interner : Interner}
    (each : ∀ function ∈ functions, ∀ before program after,
      Runs (function.lower m debugInfo) before (.ok program) after →
        after.interner.Grows interner → R function program)
    (run : Runs (functions.mapM fun function => function.lower m debugInfo) before
      (.ok programs) after)
    (grows : after.interner.Grows interner) : List.Forall₂ R functions programs := by
  induction functions generalizing before programs with
  | nil =>
      rcases runs_mapM_nil.mp run with ⟨rfl, _⟩
      exact .nil
  | cons function functions ih =>
      rcases runs_mapM_cons.mp run with ⟨first, middle, later, ran, rest, rfl⟩
      rcases List.forall_mem_cons.mp each with ⟨here, others⟩
      have still := IsTrans.trans _ _ _ (grows_of_runs_functions rest) grows
      exact .cons (here before first middle ran still) (ih others rest)

theorem linked_of_runs_functions {functions : List Function} {programs : List Program}
    {debugInfo : Handle} {before after : LoweringState} {interner : Interner}
    (wellFormed : ∀ function ∈ functions, function.WellFormed m)
    (run : Runs (functions.mapM fun function => function.lower m debugInfo) before
      (.ok programs) after)
    (grows : after.interner.Grows interner) (distinct : interner.Distinct)
    (debug : interner.handle? .debugInfos .debugInfo = some debugInfo) :
    List.Forall₂ (Function.Linked m interner) functions programs :=
  forall₂_of_runs_functions (fun function member _ _ _ ran still =>
    linked_of_runs_function (wellFormed function member) ran still distinct debug) run grows

/-- The finished tables of a module. -/
def Module.interner (m : Module) (options : LoweringOptions) : Interner :=
  ((m.lowerFunctions options).run {}).2.interner

/-- The finished tables of a module hold one row for each key, which describes
it. -/
theorem Module.sound_interner (m : Module) (options : LoweringOptions) :
    (m.interner options).Sound m options := by
  have advances : Keeps (LoweringState.Advances m options) (m.lowerFunctions options) :=
    closed_advances.lowerFunctions (Lowering.advances_interning advances_debugInfo)
  exact (advances {} _ ((m.lowerFunctions options).run {}).2 rfl).2 sound_empty

/-- The parts of an artifact: the system, the finished tables and the programs. -/
theorem Module.binary_eq_ok_iff {binary : Binary} :
    m.binary options = .ok binary ↔
      ∃ programs system, ((m.lowerFunctions options).run {}).1 = .ok programs ∧
        m.system.record = .ok system ∧
        binary =
          { version := some options.version
            buildIdentity := options.buildIdentity
            system := some system
            objects := some (m.interner options).objects
            programs } := by
  constructor
  · intro built
    rcases bind_eq_ok_iff.mp built with ⟨programs, lowered, rest⟩
    rcases bind_eq_ok_iff.mp rest with ⟨system, described, done⟩
    exact ⟨programs, system, lowered, described, (Except.ok.inj done).symm⟩
  · rintro ⟨programs, system, lowered, described, rfl⟩
    exact bind_eq_ok_iff.mpr ⟨programs, lowered, bind_eq_ok_iff.mpr ⟨system, described, rfl⟩⟩

/-- Every program of an artifact is linked as the finished tables say. -/
theorem Module.WellFormed.linked (wellFormed : m.WellFormed) {programs : List Program}
    (lowered : ((m.lowerFunctions options).run {}).1 = .ok programs) :
    List.Forall₂ (Function.Linked m (m.interner options)) m.functions programs := by
  have run : Runs (m.lowerFunctions options) {} (.ok programs)
      ((m.lowerFunctions options).run {}).2 := Prod.ext lowered rfl
  rcases runs_bind_ok.mp run with ⟨debugInfo, middle, interned, functions⟩
  have distinct := (m.sound_interner options).distinct
  have grows := grows_of_runs_functions functions
  have debug := handle?_of_grows grows distinct (Lowering.handle?_of_runs_intern interned).1
  exact linked_of_runs_functions wellFormed.function functions (Std.Refl.refl _) distinct debug

/-- A module is lowered to the frame of an artifact that passes verification. -/
theorem Module.lower_eq_ok_iff {buffer : Bytes} :
    m.lower options = .ok buffer ↔
      ∃ binary, m.binary options = .ok binary ∧ binary.toFrame = .ok buffer ∧
        binary.verify = .ok () := by
  constructor
  · intro lowered
    rcases bind_eq_ok_iff.mp lowered with ⟨binary, built, rest⟩
    rcases bind_eq_ok_iff.mp rest with ⟨framed, toFrame, rest⟩
    rcases bind_eq_ok_iff.mp rest with ⟨decoded, ofFrame, done⟩
    cases done
    rw [mapError_eq_ok_iff] at toFrame ofFrame
    rw [ofFrame_toFrame toFrame, map_eq_ok_iff] at ofFrame
    rcases ofFrame with ⟨_, verified, _⟩
    exact ⟨binary, built, toFrame, verified⟩
  · rintro ⟨binary, built, toFrame, verified⟩
    refine bind_eq_ok_iff.mpr ⟨binary, built, bind_eq_ok_iff.mpr ⟨buffer, ?_, ?_⟩⟩
    · exact mapError_eq_ok_iff.mpr toFrame
    · have decoded := ofFrame_of_verified toFrame verified
      exact bind_eq_ok_iff.mpr ⟨binary.normalized, mapError_eq_ok_iff.mpr decoded, rfl⟩

end

end Tilework
