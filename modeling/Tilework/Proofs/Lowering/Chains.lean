import Tilework.Proofs.Lowering.Tasks

/-!
# Chains that end

While a function is lowered, only the link of a result that is written into a tensor adds
an alias.  At every point no chain of aliases returns to itself: it ends after at most as
many steps as instructions have been encoded, in a value that is no alias.  What a value
resolves to once it is defined is its root, and stays so.
-/

namespace Tilework

open Artifact

/-! ## Chains -/

namespace Aliases

variable {aliases : Aliases} {value output other next last : ValueId} {steps : Nat}

/-- The chain of a value takes a number of steps, and ends in a value that is no alias. -/
inductive EndsIn (aliases : Aliases) : Nat → ValueId → ValueId → Prop
  | stop {value : ValueId} (unaliased : aliases.lookup value = none) : EndsIn aliases 0 value value
  | step {steps : Nat} {value next last : ValueId} (found : aliases.lookup value = some next)
      (rest : EndsIn aliases steps next last) : EndsIn aliases (steps + 1) value last

/-- A chain ends in one way only. -/
theorem EndsIn.unique (ends : aliases.EndsIn steps value last) {steps' : Nat} {last' : ValueId}
    (again : aliases.EndsIn steps' value last') : steps = steps' ∧ last = last' := by
  induction ends generalizing steps' with
  | stop unaliased =>
      cases again with
      | stop => exact ⟨rfl, rfl⟩
      | step found rest =>
          rw [unaliased] at found
          cases found
  | step found rest ih =>
      cases again with
      | stop unaliased =>
          rw [unaliased] at found
          cases found
      | step foundAgain restAgain =>
          cases Option.some.inj (found.symm.trans foundAgain)
          obtain ⟨rfl, rfl⟩ := ih restAgain
          exact ⟨rfl, rfl⟩

/-- What a chain comes by is closer to its end. -/
theorem EndsIn.of_transGen (ends : aliases.EndsIn steps value last)
    (reached : Relation.TransGen (fun one next => aliases.lookup one = some next) value other) :
    ∃ fewer < steps, aliases.EndsIn fewer other last := by
  induction reached with
  | single found =>
      cases ends with
      | stop unaliased =>
          rw [unaliased] at found
          cases found
      | step foundAgain rest =>
          cases Option.some.inj (found.symm.trans foundAgain)
          exact ⟨_, Nat.lt_succ_self _, rest⟩
  | tail _ found ih =>
      obtain ⟨fewer, less, rest⟩ := ih
      cases rest with
      | stop unaliased =>
          rw [unaliased] at found
          cases found
      | @step fewer _ next _ foundAgain rest =>
          cases Option.some.inj (found.symm.trans foundAgain)
          exact ⟨fewer, by omega, rest⟩

/-- A chain that ends does not return to where it began. -/
theorem EndsIn.not_transGen_self (ends : aliases.EndsIn steps value last) :
    ¬ Relation.TransGen (fun one next => aliases.lookup one = some next) value value := by
  intro cycle
  obtain ⟨fewer, less, again⟩ := ends.of_transGen cycle
  have same := (ends.unique again).1
  omega

/-- A chain that begins elsewhere does not come by a new alias. -/
theorem EndsIn.cons_of_ne (fresh : ∀ pair ∈ aliases, pair.1 ≠ value ∧ pair.2 ≠ value)
    (ends : aliases.EndsIn steps other last) (different : other ≠ value) :
    EndsIn ((value, output) :: aliases) steps other last := by
  induction ends with
  | stop unaliased => exact .stop ((lookup_cons_of_ne different).trans unaliased)
  | step found rest ih =>
      have further := (fresh _ (mem_of_lookup found)).2
      exact .step ((lookup_cons_of_ne different).trans found) (ih further)

/-- In aliases that are added in order, every chain ends where following it leads. -/
theorem exists_endsIn (ordered : aliases.Ordered) (value : ValueId) :
    ∃ steps ≤ aliases.length, aliases.EndsIn steps value (aliases.resolve value) := by
  induction aliases generalizing value with
  | nil => exact ⟨0, Nat.le_refl 0, .stop rfl⟩
  | cons pair older ih =>
      rcases pair with ⟨result, output⟩
      obtain ⟨olderOrdered, different, fresh⟩ := ordered
      by_cases same : value = result
      · subst same
        obtain ⟨steps, few, ends⟩ := ih olderOrdered output
        rw [resolve_cons_self ⟨olderOrdered, different, fresh⟩]
        exact ⟨steps + 1, Nat.succ_le_succ few,
          .step List.lookup_cons_self (ends.cons_of_ne fresh different.symm)⟩
      · obtain ⟨steps, few, ends⟩ := ih olderOrdered value
        rw [resolve_cons_of_ne ⟨olderOrdered, different, fresh⟩ same]
        exact ⟨steps, Nat.le_succ_of_le few, ends.cons_of_ne fresh same⟩

end Aliases

/-! ## Aliases at a point -/

/-- The aliases of a state are left as they are. -/
def LoweringState.KeepsAliases (before after : LoweringState) : Prop :=
  after.aliases = before.aliases

instance : Std.Refl LoweringState.KeepsAliases where
  refl _ := rfl

instance : IsTrans LoweringState LoweringState.KeepsAliases where
  trans _ _ _ first second := second.trans first

namespace Lowering

open LoweringState (KeepsAliases)

variable {m : Module} {α : Type}

theorem keepsAliases_interning (action : Interning α) : Keeps KeepsAliases (interning action) := by
  intro before outcome after run
  exact (runs_interning.mp run).2

/-- A step that works with the chain of a value. -/
theorem keepsAliases_resolve_bind {value : ValueId} {next : ValueId → Lowering α}
    (later : ∀ root, Keeps KeepsAliases (next root)) :
    Keeps KeepsAliases (resolve value >>= next) := by
  intro before outcome after run
  exact later _ before outcome after (runs_resolve_bind.mp run)

theorem keepsAliases_shared (table : Table) (value : ValueId) :
    Keeps KeepsAliases (shared table value) :=
  keepsAliases_resolve_bind fun _ => keepsAliases_interning _

theorem keepsAliases_own {table : Table} {value : ValueId} {asked : Except ModuleError α}
    {record : α → Interning table.Record} : Keeps KeepsAliases (own table value asked record) :=
  keeps_bind (keeps_lift _) fun _ => keepsAliases_interning _

theorem keepsAliases_lowerArgument (value : ValueId) :
    Keeps KeepsAliases (m.lowerArgument value) := by
  rw [Module.lowerArgument]
  refine keeps_bind (keeps_lift _) fun type => ?_
  cases type with
  | device type => exact keeps_bind keepsAliases_own fun _ => keeps_pure _
  | tensor type => exact keeps_map some keepsAliases_own

/-- A result that is written into another tensor becomes an alias of it, even where that
tensor is missing. -/
theorem aliases_of_runs_write {output result : ValueId} (different : result ≠ output)
    {before after : LoweringState} {outcome : Except LoweringError Handle}
    (run : Runs (write output result) before outcome after) :
    after.aliases = (result, output) :: before.aliases := by
  rw [write, if_pos different] at run
  obtain ⟨_, middle, modified, rest⟩ | ⟨error, modified, _⟩ := runs_bind.mp run
  · obtain ⟨_, rfl⟩ := runs_modify.mp modified
    exact keepsAliases_shared .tensors result _ outcome after rest
  · cases (runs_modify.mp modified).1

end Lowering

section Points

variable {m : Module}

open LoweringState (KeepsAliases)

namespace Task

variable {task : Task} {finished : List Task} {start before after : LoweringState}
  {outcome : Except LoweringError Unit}

/-- Only the link of a result that is written into a tensor adds an alias. -/
theorem keepsAliases_run (plain : task.alias? = none) : Keeps KeepsAliases (task.run m) := by
  cases task with
  | argument value => exact keeps_map _ (Lowering.keepsAliases_lowerArgument value)
  | encode instruction => exact keeps_map _ (keeps_lift _)
  | output value => exact keeps_map _ (Lowering.keepsAliases_shared .tensors value)
  | link reference =>
      apply keeps_map
      cases reference with
      | tensor value => exact Lowering.keepsAliases_shared .tensors value
      | device value => exact Lowering.keepsAliases_shared .devices value
      | memoryConfig config =>
          rw [Reference.link, Lowering.memoryConfig]
          exact Lowering.keepsAliases_interning _
      | allocated | opened => exact Lowering.keepsAliases_own
      | unplaced name => exact keeps_throw _
      | written output result => cases plain

/-- A task that makes no value an alias of itself. -/
def Proper (task : Task) : Prop :=
  ∀ pair, task.alias? = some pair → pair.1 ≠ pair.2

/-- A task adds its alias and no other, whether it succeeds or fails. -/
theorem aliases_of_runs (proper : task.Proper)
    (run : Runs (task.run m) before outcome after) :
    after.aliases = task.alias?.toList ++ before.aliases := by
  cases added : task.alias? with
  | none => exact keepsAliases_run added before outcome after run
  | some pair =>
      obtain ⟨output, result, rfl, rfl⟩ :
          ∃ output result, task = .link (.written output result) ∧ pair = (result, output) := by
        cases task with
        | link reference =>
            cases reference with
            | written output result => exact ⟨output, result, rfl, (Option.some.inj added).symm⟩
            | _ => cases added
        | _ => cases added
      obtain ⟨handle, written⟩ := Lowering.exists_runs_of_effect run
      exact Lowering.aliases_of_runs_write (proper _ added) written

theorem aliases_of_runsAll (proper : ∀ task ∈ finished, task.Proper)
    (run : Runs (runAll m finished) start (.ok ()) after) :
    after.aliases = (finished.filterMap alias?).reverse ++ start.aliases := by
  induction finished generalizing start with
  | nil =>
      obtain ⟨_, rfl⟩ := runs_pure.mp run
      rfl
  | cons task finished ih =>
      rw [List.forall_mem_cons] at proper
      rw [runAll_cons] at run
      obtain ⟨value, middle, first, rest⟩ := runs_bind_ok.mp run
      rw [ih proper.2 rest, aliases_of_runs proper.1 first]
      cases added : task.alias? <;> simp [added]

/-- The aliases at a point are those of the tasks so far. -/
theorem Passes.aliases_eq (point : Passes m start finished after)
    (proper : ∀ task ∈ finished, task.Proper) (empty : start.aliases = []) :
    after.aliases = (finished.filterMap alias?).reverse := by
  cases point with
  | start => rw [empty, List.filterMap_nil, List.reverse_nil]
  | @task finished task before _ _ succeeded runs =>
      rw [List.forall_mem_append] at proper
      rw [aliases_of_runs (proper.2 task List.mem_cons_self) runs,
        aliases_of_runsAll proper.1 succeeded, empty]
      cases added : task.alias? <;> simp [added]

end Task

section

variable {function : Function} {finished : List Task}

theorem Function.proper_of_tasks (wellFormed : function.WellFormed m) {task : Task}
    (member : task ∈ function.tasks m) : task.Proper := by
  intro pair added
  have inBody : ∃ instruction ∈ function.body, task ∈ instruction.tasks m := by
    rw [tasks, List.mem_append, List.mem_append] at member
    rcases member with (member | member) | member
    · obtain ⟨value, _, rfl⟩ := List.mem_map.mp member
      cases added
    · exact List.mem_flatMap.mp member
    · obtain ⟨value, _, rfl⟩ := List.mem_map.mp member
      cases added
  obtain ⟨instruction, inside, here⟩ := inBody
  obtain ⟨earlier, later, split⟩ := List.append_of_mem inside
  have given : pair ∈ (instruction.tasks m).filterMap Task.alias? :=
    List.mem_filterMap.mpr ⟨task, here, added⟩
  rw [Instruction.filterMap_alias?_tasks, Option.mem_toList] at given
  exact Instruction.alias?_proper wellFormed split given

/-- The aliases at a point of a function are added in order, and lead from what has been
defined to its root. -/
theorem Function.aliases_of_passes (wellFormed : function.WellFormed m)
    (inside : finished <+: function.tasks m) {start state : LoweringState}
    (point : Task.Passes m { start with aliases := [] } finished state) :
    state.aliases.Ordered ∧ state.aliases.length ≤ finished.countP Task.encodes ∧
      ∀ value ∈ finished.filterMap Task.defines?,
        state.aliases.resolve value = function.root value := by
  obtain ⟨earlier, later, split, amount⟩ := exists_amountTo inside
  have aliases : state.aliases = aliasesAfter earlier := by
    have proper : ∀ task ∈ finished, task.Proper :=
      fun task member => proper_of_tasks wellFormed (inside.subset member)
    rw [point.aliases_eq proper rfl, amount.aliases, aliasesAfter]
  rw [aliases]
  refine ⟨(ordered_aliasesAfter wellFormed split).1, ?_, fun value member => ?_⟩
  · rw [aliasesAfter, List.length_reverse]
    exact (List.length_filterMap_le _ _).trans amount.encodes
  · obtain ⟨task, done, defined⟩ := List.mem_filterMap.mp member
    exact resolve_aliasesAfter_of_known wellFormed split
      (amount.defines task done value defined)

end

/-- Lowering a function forgets all aliases and does the tasks of the function.  At every
point, whatever was lowered before, chains of aliases end, and what a value resolves to does
not change once it is defined. -/
theorem chains_end {function : Function} (built : m.Built) (member : function ∈ m.functions)
    (start : LoweringState) :
    (∀ debugInfo, Lowering.effect (function.lower m debugInfo) =
      Lowering.clearAliases >>= fun _ => Task.runAll m (function.tasks m)) ∧
    ∀ finished state, finished <+: function.tasks m →
      Task.Passes m { start with aliases := [] } finished state →
        (∀ value, ∃ steps ≤ finished.countP Task.encodes,
          state.aliases.EndsIn steps value (state.aliases.resolve value)) ∧
        (∀ value, ¬ Relation.TransGen (fun one next => state.aliases.lookup one = some next)
          value value) ∧
        ∀ further last, finished <+: further → further <+: function.tasks m →
          Task.Passes m { start with aliases := [] } further last →
            ∀ value ∈ finished.filterMap Task.defines?,
              last.aliases.resolve value = state.aliases.resolve value := by
  have wellFormed := built.wellFormed.function function member
  refine ⟨effect_lower function, fun finished state inside point => ?_⟩
  obtain ⟨ordered, few, roots⟩ := Function.aliases_of_passes wellFormed inside point
  have ends (value : ValueId) : ∃ steps ≤ finished.countP Task.encodes,
      state.aliases.EndsIn steps value (state.aliases.resolve value) := by
    obtain ⟨steps, atMost, ends⟩ := Aliases.exists_endsIn ordered value
    exact ⟨steps, atMost.trans few, ends⟩
  refine ⟨ends, fun value => ?_, ?_⟩
  · obtain ⟨steps, _, ends⟩ := ends value
    exact ends.not_transGen_self
  · intro further last longer insideLast pointLast value defined
    obtain ⟨_, _, rootsLast⟩ := Function.aliases_of_passes wellFormed insideLast pointLast
    rw [roots value defined, rootsLast value ((longer.filterMap _).subset defined)]

theorem chains_end_copyAbs :
    (copyAbs .single).Built ∧ ∃ function ∈ (copyAbs .single).functions, ∃ state,
      Task.Passes (copyAbs .single) {} (function.tasks (copyAbs .single)) state ∧
        ∀ value, ∃ steps ≤ 2, state.aliases.EndsIn steps value (state.aliases.resolve value) := by
  have finishes : ∀ function ∈ (copyAbs .single).functions,
      ((Task.runAll (copyAbs .single) (function.tasks (copyAbs .single))).run {}).1 = .ok () ∧
        (function.tasks (copyAbs .single)).countP Task.encodes = 2 := by
    decide +kernel
  obtain ⟨function, member⟩ : ∃ function, function ∈ (copyAbs .single).functions :=
    ⟨_, List.mem_cons_self⟩
  obtain ⟨succeeds, count⟩ := finishes function member
  have run : Runs (Task.runAll (copyAbs .single) (function.tasks (copyAbs .single))) {} (.ok ())
      ((Task.runAll (copyAbs .single) (function.tasks (copyAbs .single))).run {}).2 :=
    Prod.ext succeeds rfl
  have point := Task.Passes.of_runsAll run
  obtain ⟨_, points⟩ := chains_end (built_copyAbs .single) member {}
  obtain ⟨ends, _⟩ := points _ _ List.prefix_rfl point
  rw [count] at ends
  exact ⟨built_copyAbs .single, function, member, _, point, ends⟩

end Points

end Tilework
