import Tilework.Proofs.Lowering.Handles

/-!
# Lowering task by task

Lowering a function is a row of tasks: its arguments come first, then every instruction is
encoded and the references of its record are linked, and the outputs come last.  A point
in this row is what has been reached after some of the tasks, the last of which may have
failed.

As far as aliases and defined values are concerned, the tasks done at a point are those of
the first instructions of the function.
-/

namespace Tilework

open Artifact

/-! ## Tasks -/

namespace Lowering

variable {α β : Type}

/-- What a step does, whatever value it returns. -/
def effect (action : Lowering α) : Lowering Unit :=
  (fun _ => ()) <$> action

theorem effect_pure (value : α) : effect (pure value) = pure () :=
  map_pure _ _

theorem effect_bind (action : Lowering α) (next : α → Lowering β) :
    effect (action >>= next) = action >>= fun value => effect (next value) :=
  map_bind _ _ _

/-- What follows a step does not depend on the value of the step. -/
theorem effect_bind_of_forall {action : Lowering α} {next : α → Lowering β} {rest : Lowering Unit}
    (same : ∀ value, effect (next value) = rest) :
    effect (action >>= next) = effect action >>= fun _ => rest := by
  rw [effect_bind, effect, map_eq_pure_bind, bind_assoc]
  simp only [same, pure_bind]

theorem effect_mapM (f : α → Lowering β) (values : List α) :
    effect (values.mapM f) = forM values fun value => effect (f value) := by
  induction values with
  | nil =>
      rw [List.mapM_nil]
      exact effect_pure []
  | cons value values ih =>
      rw [List.mapM_cons]
      have rest (result : β) :
          effect (values.mapM f >>= fun results => pure (result :: results)) =
            forM values fun value => effect (f value) := by
        rw [effect_bind_of_forall fun results => effect_pure (result :: results), ih,
          bind_pure_unit]
      exact effect_bind_of_forall rest

end Lowering

/-- What there is to do when a function is lowered. -/
inductive Task
  /-- An argument is allocated or opened. -/
  | argument (value : ValueId)
  /-- The record of an instruction is put together. -/
  | encode (instruction : Instruction)
  /-- A reference of the record is replaced by a handle. -/
  | link (reference : Reference)
  /-- A returned value is looked up. -/
  | output (value : ValueId)

namespace Task

/-- Carry a task out. -/
def run (m : Module) : Task → Lowering Unit
  | argument value => Lowering.effect (m.lowerArgument value)
  | encode instruction => Lowering.effect (liftM (instruction.operation.record m))
  | link reference => Lowering.effect (reference.link m)
  | output value => Lowering.effect (Lowering.tensor value)

/-- Carry tasks out one after another. -/
def runAll (m : Module) (tasks : List Task) : Lowering Unit :=
  forM tasks (run m)

/-- Whether a task is the encoding of an instruction. -/
def encodes : Task → Bool
  | encode _ => true
  | _ => false

/-- The alias that a task adds. -/
def alias? : Task → Option (ValueId × ValueId)
  | link reference => reference.alias?
  | _ => none

/-- The value that a task defines. -/
def defines? : Task → Option ValueId
  | argument value => some value
  | link (.allocated result) | link (.opened result) | link (.written _ result) => some result
  | _ => none

end Task

/-- An instruction is encoded, and the references of its record are linked. -/
def Instruction.tasks (m : Module) (instruction : Instruction) : List Task :=
  .encode instruction ::
    match instruction.operation.record m with
    | .ok record => record.references.map .link
    | .error _ => []

/-- The tasks of a function, in order. -/
def Function.tasks (m : Module) (function : Function) : List Task :=
  function.arguments.map .argument ++ function.body.flatMap (Instruction.tasks m) ++
    function.returns.map .output

section Tasks

variable {m : Module}

theorem Task.runAll_cons (task : Task) (tasks : List Task) :
    runAll m (task :: tasks) = task.run m >>= fun _ => runAll m tasks :=
  List.forM_cons

theorem Task.runAll_append (tasks later : List Task) :
    runAll m (tasks ++ later) = runAll m tasks >>= fun _ => runAll m later :=
  List.forM_append

theorem Task.runAll_singleton (task : Task) : runAll m [task] = task.run m := by
  rw [runAll_cons]
  exact bind_pure_unit

/-- Members that are turned into tasks one by one. -/
theorem Task.runAll_flatMap {α β : Type} {f : α → Lowering β} {tasks : α → List Task}
    (same : ∀ value, Lowering.effect (f value) = runAll m (tasks value)) (values : List α) :
    Lowering.effect (values.mapM f) = runAll m (values.flatMap tasks) := by
  rw [Lowering.effect_mapM]
  induction values with
  | nil => rfl
  | cons value values ih => rw [List.forM_cons, ih, same, List.flatMap_cons, runAll_append]

theorem Task.runAll_map {α β : Type} {f : α → Lowering β} {task : α → Task}
    (same : ∀ value, Lowering.effect (f value) = (task value).run m) (values : List α) :
    Lowering.effect (values.mapM f) = runAll m (values.map task) := by
  rw [List.map_eq_flatMap]
  exact runAll_flatMap (fun value => (same value).trans (runAll_singleton (task value)).symm) values

theorem effect_mapM_link (record : OperationRecord Reference) :
    Lowering.effect (record.mapM (Reference.link m)) =
      Task.runAll m (record.references.map .link) := by
  have relates : OperationRecord.Relates (Reference.link m) (Reference.link m)
      fun {α} (steps _ : Lowering α) references =>
        Lowering.effect steps = Task.runAll m (references.map .link) := by
    refine ⟨Lowering.effect_pure, ?_, fun reference => ?_⟩
    · intro α β first second next other references later same rest
      rw [Lowering.effect_bind_of_forall rest, same, List.map_append, Task.runAll_append]
    · rw [List.map_singleton, Task.runAll_singleton, Task.run]
  exact relates.mapM record

theorem effect_lower_instruction (instruction : Instruction) :
    Lowering.effect (instruction.lower m) = Task.runAll m (instruction.tasks m) := by
  have lowered : Lowering.effect (instruction.lower m) =
      Lowering.effect (instruction.operation.lower m) := by
    rw [Instruction.lower, Lowering.effect_bind_of_forall fun record => Lowering.effect_pure _,
      bind_pure_unit]
  rw [lowered, Operation.lower, Lowering.effect_bind, Instruction.tasks, Task.runAll_cons, Task.run]
  cases instruction.operation.record m with
  | ok record => exact effect_mapM_link record
  | error error => rfl

/-- Lowering a function forgets all aliases and does the tasks of the function. -/
theorem effect_lower (function : Function) (debugInfo : Handle) :
    Lowering.effect (function.lower m debugInfo) =
      Lowering.clearAliases >>= fun _ => Task.runAll m (function.tasks m) := by
  have arguments : Lowering.effect (function.arguments.mapM m.lowerArgument) =
      Task.runAll m (function.arguments.map .argument) :=
    Task.runAll_map (fun _ => rfl) function.arguments
  have body : Lowering.effect (function.body.mapM (Instruction.lower m)) =
      Task.runAll m (function.body.flatMap (Instruction.tasks m)) :=
    Task.runAll_flatMap effect_lower_instruction function.body
  have outputs : Lowering.effect (function.returns.mapM Lowering.tensor) =
      Task.runAll m (function.returns.map .output) :=
    Task.runAll_map (fun _ => rfl) function.returns
  rw [Function.tasks, Task.runAll_append, Task.runAll_append, ← arguments, ← body, ← outputs,
    bind_assoc, Function.lower]
  refine Lowering.effect_bind_of_forall fun _ => Lowering.effect_bind_of_forall fun inputs =>
    Lowering.effect_bind_of_forall fun operations => ?_
  rw [Lowering.effect_bind_of_forall fun handles => Lowering.effect_pure _, bind_pure_unit]

/-! ## Points -/

/-- A point in a row of tasks: the state after some of them, the last of which may have
failed. -/
inductive Task.Passes (m : Module) (start : LoweringState) : List Task → LoweringState → Prop
  | start : Passes m start [] start
  | task {finished : List Task} {task : Task} {before after : LoweringState}
      {outcome : Except LoweringError Unit}
      (succeeded : Runs (runAll m finished) start (.ok ()) before)
      (runs : Runs (task.run m) before outcome after) : Passes m start (finished ++ [task]) after

namespace Task

variable {finished : List Task} {start after : LoweringState}

/-- Tasks that all succeed lead to a point. -/
theorem Passes.of_runsAll (run : Runs (runAll m finished) start (.ok ()) after) :
    Passes m start finished after := by
  rcases List.eq_nil_or_concat finished with rfl | ⟨earlier, task, rfl⟩
  · obtain ⟨_, rfl⟩ := runs_pure.mp run
    exact .start
  · rw [List.concat_eq_append] at run ⊢
    rw [runAll_append] at run
    obtain ⟨value, middle, first, last⟩ := runs_bind_ok.mp run
    rw [runAll_singleton] at last
    exact .task first last

end Task

theorem Lowering.exists_runs_of_effect {α : Type} {action : Lowering α}
    {before after : LoweringState} {outcome : Except LoweringError Unit}
    (run : Runs (effect action) before outcome after) :
    ∃ result, Runs action before result after := by
  rw [effect, map_eq_pure_bind] at run
  obtain ⟨value, middle, ran, rest⟩ | ⟨error, failed, _⟩ := runs_bind.mp run
  · obtain ⟨_, rfl⟩ := runs_pure.mp rest
    exact ⟨_, ran⟩
  · exact ⟨_, failed⟩

/-! ## Tasks and instructions -/

/-- Tasks that amount to some instructions, as far as aliases and defined values are
concerned, next to values that are known already. -/
structure Task.AmountTo (known : List ValueId) (tasks : List Task)
    (instructions : List Instruction) : Prop where
  aliases : tasks.filterMap alias? = instructions.filterMap Instruction.alias?
  encodes : instructions.length ≤ tasks.countP encodes
  defines : ∀ task ∈ tasks, ∀ value, task.defines? = some value →
    value ∈ known ++ resultsOf instructions

namespace Task

variable {known : List ValueId} {tasks later : List Task} {instructions others : List Instruction}

theorem AmountTo.append (first : AmountTo known tasks instructions)
    (second : AmountTo [] later others) :
    AmountTo known (tasks ++ later) (instructions ++ others) where
  aliases := by rw [List.filterMap_append, List.filterMap_append, first.aliases, second.aliases]
  encodes := by
    rw [List.length_append, List.countP_append]
    exact Nat.add_le_add first.encodes second.encodes
  defines task member value defined := by
    rw [resultsOf, List.flatMap_append, ← List.append_assoc, List.mem_append]
    exact (List.mem_append.mp member).imp (first.defines task · value defined)
      (second.defines task · value defined)

/-- Tasks that add no alias and define nothing new. -/
theorem amountTo_nil (plain : ∀ task ∈ tasks, task.alias? = none)
    (defines : ∀ task ∈ tasks, ∀ value, task.defines? = some value → value ∈ known) :
    AmountTo known tasks [] where
  aliases := List.filterMap_eq_nil_iff.mpr plain
  encodes := Nat.zero_le _
  defines task member value defined := List.mem_append_left _ (defines task member value defined)

end Task

section

variable {instruction : Instruction} {part : List Task}

/-- The tasks of an instruction add its alias. -/
theorem Instruction.filterMap_alias?_tasks :
    (instruction.tasks m).filterMap Task.alias? = instruction.alias?.toList := by
  cases encoded : instruction.operation.record m with
  | ok record =>
      have aliases := Operation.aliases_of_record encoded
      simp only [tasks, encoded, List.filterMap_cons, List.filterMap_map, Task.alias?]
      exact aliases
  | error error =>
      rw [Instruction.alias?_eq_none_iff.mpr (Operation.destination_of_error encoded)]
      simp [tasks, encoded, Task.alias?]

/-- A task of an instruction defines a result of it.  Unless the result is written into a
tensor, the instruction has no destination. -/
theorem Instruction.mem_results_of_tasks {task : Task} {value : ValueId}
    (member : task ∈ instruction.tasks m) (defines : task.defines? = some value) :
    value ∈ instruction.operation.results ∧
      (task.alias? = none → instruction.operation.destination = none) := by
  rw [tasks] at member
  rcases List.mem_cons.mp member with rfl | member
  · cases defines
  cases encoded : instruction.operation.record m with
  | error error =>
      rw [encoded] at member
      cases member
  | ok record =>
      rw [encoded] at member
      obtain ⟨reference, inside, rfl⟩ := List.mem_map.mp member
      obtain ⟨⟨role, reference⟩, inSlot, rfl⟩ := List.mem_map.mp inside
      cases Operation.fits_of_record encoded (role, reference) inSlot with
      | tensor | device | memoryConfig | unplaced => cases defines
      | allocated placed only =>
          cases defines
          exact ⟨by simp [only], fun _ => placed⟩
      | written given only =>
          cases defines
          exact ⟨by simp [only], nofun⟩
      | opened opens =>
          cases defines
          rw [opens]
          exact ⟨List.mem_singleton_self value, fun _ => rfl⟩

/-- Tasks of an instruction that have added its alias amount to the instruction. -/
theorem Instruction.amountTo_singleton (inside : part <+: instruction.tasks m) (begun : part ≠ [])
    (aliases : part.filterMap Task.alias? = instruction.alias?.toList) :
    Task.AmountTo [] part [instruction] where
  aliases := by
    rw [aliases, List.filterMap_cons]
    cases instruction.alias? <;> rfl
  encodes := by
    obtain ⟨rest, whole⟩ := inside
    obtain ⟨task, part, rfl⟩ := List.exists_cons_of_ne_nil begun
    rw [tasks, List.cons_append] at whole
    rw [(List.cons.inj whole).1]
    simp [Task.encodes]
  defines task member value defined := by
    simpa [resultsOf] using (mem_results_of_tasks (inside.subset member) defined).1

theorem Instruction.amountTo_tasks : Task.AmountTo [] (instruction.tasks m) [instruction] :=
  amountTo_singleton List.prefix_rfl (List.cons_ne_nil _ _) filterMap_alias?_tasks

/-- As far as the tasks of an instruction have been done, they amount to the instruction or
to nothing. -/
theorem Instruction.amountTo_of_prefix (inside : part <+: instruction.tasks m) :
    Task.AmountTo [] part [instruction] ∨ Task.AmountTo [] part [] := by
  by_cases begun : part = []
  · subst begun
    exact Or.inr (Task.amountTo_nil (List.forall_mem_nil _) (List.forall_mem_nil _))
  have parted : ∃ rest, part.filterMap Task.alias? ++ rest = instruction.alias?.toList := by
    obtain ⟨rest, whole⟩ := inside
    refine ⟨rest.filterMap Task.alias?, ?_⟩
    rw [← List.filterMap_append, whole, filterMap_alias?_tasks]
  obtain ⟨rest, parted⟩ := parted
  rcases eq_nil_or_eq_toList parted with nothing | all
  · cases given : instruction.alias? with
    | none => exact Or.inl (amountTo_singleton inside begun (by rw [nothing, given]; rfl))
    | some pair =>
        have plain := List.filterMap_eq_nil_iff.mp nothing
        refine Or.inr (Task.amountTo_nil plain fun task member value defined => ?_)
        have placed := (mem_results_of_tasks (inside.subset member) defined).2 (plain task member)
        rw [alias?_eq_none_iff.mpr placed] at given
        cases given
  · exact Or.inl (amountTo_singleton inside begun all)

/-- The tasks that have been done for a body amount to its first instructions. -/
theorem exists_amountTo_of_prefix {body : List Instruction}
    (inside : part <+: body.flatMap (Instruction.tasks m)) :
    ∃ earlier later, body = earlier ++ later ∧ Task.AmountTo [] part earlier := by
  induction body generalizing part with
  | nil =>
      rw [List.flatMap_nil, List.prefix_nil] at inside
      subst inside
      exact ⟨[], [], rfl, Task.amountTo_nil (List.forall_mem_nil _) (List.forall_mem_nil _)⟩
  | cons instruction body ih =>
      rw [List.flatMap_cons] at inside
      obtain ⟨rest, whole⟩ := inside
      rcases List.append_eq_append_iff.mp whole with ⟨more, own, _⟩ | ⟨part, rfl, others⟩
      · -- The instruction is not finished yet.
        have prefixed : part <+: instruction.tasks m := ⟨more, own.symm⟩
        rcases Instruction.amountTo_of_prefix prefixed with done | nothing
        · exact ⟨[instruction], body, rfl, done⟩
        · exact ⟨[], instruction :: body, rfl, nothing⟩
      · obtain ⟨earlier, later, rfl, amount⟩ := ih ⟨rest, others.symm⟩
        exact ⟨instruction :: earlier, later, rfl, Instruction.amountTo_tasks.append amount⟩

end

/-- At every point of a function the tasks amount to its first instructions, next to its
arguments. -/
theorem Function.exists_amountTo {function : Function} {finished : List Task}
    (inside : finished <+: function.tasks m) :
    ∃ earlier later, function.body = earlier ++ later ∧
      Task.AmountTo function.arguments finished earlier := by
  obtain ⟨front, outputs, rfl, inFront, inOutputs⟩ := exists_append_of_prefix inside
  obtain ⟨arguments, body, rfl, inArguments, inBody⟩ := exists_append_of_prefix inFront
  obtain ⟨earlier, later, split, amount⟩ := exists_amountTo_of_prefix inBody
  have argument : Task.AmountTo function.arguments arguments [] := by
    have each : ∀ task ∈ arguments, ∃ value ∈ function.arguments, .argument value = task :=
      fun task member => List.mem_map.mp (inArguments.subset member)
    refine Task.amountTo_nil (fun task member => ?_) fun task member value defined => ?_
    · obtain ⟨value, _, rfl⟩ := each task member
      rfl
    · obtain ⟨value, known, rfl⟩ := each task member
      cases defined
      exact known
  have output : Task.AmountTo [] outputs [] := by
    have each : ∀ task ∈ outputs, ∃ value ∈ function.returns, .output value = task :=
      fun task member => List.mem_map.mp (inOutputs.subset member)
    refine Task.amountTo_nil (fun task member => ?_) fun task member value defined => ?_
    · obtain ⟨value, _, rfl⟩ := each task member
      rfl
    · obtain ⟨value, _, rfl⟩ := each task member
      cases defined
  refine ⟨earlier, later, split, ?_⟩
  simpa only [List.nil_append, List.append_nil] using (argument.append amount).append output

end Tasks

end Tilework
