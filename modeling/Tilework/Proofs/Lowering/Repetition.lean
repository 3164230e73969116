import Tilework.Proofs.Lowering.Handles

/-!
# Doing it again

A step of lowering that has succeeded finds everything that it asks for when it is done
again: the rows that it needs are there, and it takes no new number.  So lowering a
function once more in the same state, at once or after other functions, returns the same
program and leaves the tables alone.
-/

namespace Tilework

open Artifact Interner

/-! ## Steps -/

namespace Lowering

variable {α β : Type} {m : Module}

/-- A step that has succeeded succeeds again with the same value, in all tables that have
grown out of those it left behind, and does not change them. -/
def Repeats (action : Lowering α) : Prop :=
  ∀ before value after, Runs action before (.ok value) after →
    ∀ interner, after.interner.Grows interner → interner.Distinct →
      Runs action { interner, aliases := before.aliases } (.ok value)
        { interner, aliases := after.aliases }

/-- A step that does not notice the tables. -/
theorem repeats_of_forall {action : Lowering α}
    (same : ∀ before value after, Runs action before (.ok value) after → ∀ interner,
      Runs action { before with interner } (.ok value) { after with interner }) :
    Repeats action :=
  fun before value after run interner _ _ => same before value after run interner

theorem repeats_pure (value : α) : Repeats (pure value : Lowering α) := by
  apply repeats_of_forall
  intro before other after run interner
  obtain ⟨same, rfl⟩ := runs_pure.mp run
  exact runs_pure.mpr ⟨same, rfl⟩

theorem repeats_throw (error : LoweringError) : Repeats (throw error : Lowering α) := by
  intro before value after run
  cases (runs_throw.mp run).1

theorem repeats_lift (result : Except LoweringError α) :
    Repeats (liftM result : Lowering α) := by
  apply repeats_of_forall
  intro before value after run interner
  obtain ⟨same, rfl⟩ := runs_lift.mp run
  exact runs_lift.mpr ⟨same, rfl⟩

/-- Between two steps the tables only grow, so both find again what they have found. -/
theorem repeats_bind {action : Lowering α} {next : α → Lowering β}
    (keeps : ∀ value, Keeps (LoweringState.Advances m {}) (next value))
    (first : Repeats action) (rest : ∀ value, Repeats (next value)) :
    Repeats (action >>= next) := by
  intro before result after run interner grows distinct
  obtain ⟨value, middle, ran, continued⟩ := runs_bind_ok.mp run
  have between : middle.interner.Grows after.interner := (keeps value middle _ after continued).1
  have again := first before value middle ran interner (IsTrans.trans _ _ _ between grows) distinct
  exact runs_bind_ok.mpr ⟨value, _, again,
    rest value middle result after continued interner grows distinct⟩

/-- A request finds the row that it has left behind. -/
theorem repeats_intern {table : Table} {key : Key} {build : Interning table.Record} :
    Repeats (interning (Interning.intern table key build)) := by
  intro before handle after run interner grows distinct
  obtain ⟨found, aliases_eq⟩ := handle?_of_runs_intern run
  have still := handle?_of_grows grows distinct found
  refine runs_interning.mpr ⟨Interning.runs_intern.mpr ?_, aliases_eq⟩
  rw [still]
  exact runs_pure.mpr ⟨rfl, rfl⟩

theorem repeats_lookup {table : Table} {key : Key} :
    Repeats (interning (Interning.lookup table key)) := by
  intro before handle after run interner grows distinct
  obtain ⟨found, rfl⟩ := runs_lookup_ok.mp run
  exact runs_lookup_ok.mpr ⟨handle?_of_grows grows distinct found, rfl⟩

/-- The single steps of lowering can be done again, and so can everything made of them. -/
theorem closed_repeats :
    Closed m fun {_} action => Keeps (LoweringState.Advances m {}) action ∧ Repeats action where
  pure value := ⟨closed_advances.pure value, repeats_pure value⟩
  bind first rest :=
    ⟨closed_advances.bind first.1 fun value => (rest value).1,
      repeats_bind (fun value => (rest value).1) first.2 fun value => (rest value).2⟩
  resolve value := by
    refine ⟨closed_advances.resolve value, repeats_of_forall ?_⟩
    intro before root after run interner
    obtain ⟨same, rfl⟩ := runs_pure.mp (runs_resolve_bind.mp run)
    exact runs_resolve_bind.mpr (runs_pure.mpr ⟨same, rfl⟩)
  lookup table key := ⟨closed_advances.lookup table key, repeats_lookup⟩
  modify f := by
    refine ⟨closed_advances.modify f, repeats_of_forall ?_⟩
    intro before value after run interner
    obtain ⟨same, rfl⟩ := runs_modify.mp run
    exact runs_modify.mpr ⟨same, rfl⟩
  program {_ _ outcome next} later := by
    refine ⟨closed_advances.program fun value found => (later value found).1, ?_⟩
    cases outcome with
    | ok value => exact (later value rfl).2
    | error error => exact repeats_throw (.program error)
  internTensor typed := ⟨closed_advances.internTensor typed, repeats_intern⟩
  internDevice typed := ⟨closed_advances.internDevice typed, repeats_intern⟩
  memoryConfig config := ⟨closed_advances.memoryConfig config, repeats_intern⟩
  unplaced name := ⟨closed_advances.unplaced name, repeats_throw _⟩
  encode operation := ⟨closed_advances.encode operation, repeats_lift _⟩

theorem repeats_function (function : Function) (debugInfo : Handle) :
    Repeats (function.lower m debugInfo) :=
  (closed_repeats.function function debugInfo).2

/-- The aliases that are there before a function is lowered do not matter. -/
theorem runs_function_of_aliases {function : Function} {debugInfo : Handle}
    {before after : LoweringState} {outcome : Except LoweringError Program} (aliases : Aliases) :
    Runs (function.lower m debugInfo) { before with aliases } outcome after ↔
      Runs (function.lower m debugInfo) before outcome after :=
  Iff.rfl

end Lowering

/-! ## Functions -/

/-- Lower functions one after another in the same state, each with a handle for its debug
information.  One that fails does not keep the others from being lowered. -/
def LoweringState.afterCalls (m : Module) (state : LoweringState)
    (calls : List (Function × Handle)) : LoweringState :=
  calls.foldl (fun state call => ((call.1.lower m call.2).run state).2) state

section

variable {m : Module}

theorem LoweringState.afterCalls_append (state : LoweringState)
    (calls later : List (Function × Handle)) :
    state.afterCalls m (calls ++ later) = (state.afterCalls m calls).afterCalls m later :=
  List.foldl_append

theorem LoweringState.advances_afterCalls (state : LoweringState)
    (calls : List (Function × Handle)) : state.Advances m {} (state.afterCalls m calls) := by
  induction calls generalizing state with
  | nil => exact Std.Refl.refl state
  | cons call calls ih =>
      have first : state.Advances m {} ((call.1.lower m call.2).run state).2 :=
        closed_advances.function call.1 call.2 state _ _ rfl
      exact IsTrans.trans _ _ _ first (ih _)

theorem LoweringState.distinct_afterCalls (calls : List (Function × Handle)) :
    (LoweringState.afterCalls m {} calls).interner.Distinct :=
  ((LoweringState.advances_afterCalls {} calls).2 sound_empty).distinct

/-- A function that has been lowered is lowered to the same program again, at once or
later, and the tables and the numbers of tensors stay as they are. -/
theorem Function.lower_again {function : Function} {debugInfo : Handle}
    (earlier later : List (Function × Handle)) {program : Program} {after : LoweringState}
    (lowered : Runs (function.lower m debugInfo) (LoweringState.afterCalls m {} earlier)
      (.ok program) after) :
    ∃ last,
      Runs (function.lower m debugInfo)
        (LoweringState.afterCalls m {} (earlier ++ (function, debugInfo) :: later))
        (.ok program) last ∧
      last.interner =
        (LoweringState.afterCalls m {} (earlier ++ (function, debugInfo) :: later)).interner := by
  have distinct := LoweringState.distinct_afterCalls (m := m)
    (earlier ++ (function, debugInfo) :: later)
  have sequence : LoweringState.afterCalls m {} (earlier ++ (function, debugInfo) :: later) =
      after.afterCalls m later := by
    have result : ((function.lower m debugInfo).run
        (LoweringState.afterCalls m {} earlier)).2 = after := congrArg Prod.snd lowered
    rw [LoweringState.afterCalls_append, ← result]
    rfl
  rw [sequence] at distinct ⊢
  have grows := (LoweringState.advances_afterCalls (m := m) after later).1
  have again := Lowering.repeats_function function debugInfo _ program after lowered
    (after.afterCalls m later).interner grows distinct
  exact ⟨_, (Lowering.runs_function_of_aliases _).mp again, rfl⟩

theorem Function.lower_again_copyAbsAndPass :
    ∃ function ∈ (copyAbsAndPass .single).functions, ∃ program after,
      Runs (function.lower (copyAbsAndPass .single) 0) {} (.ok program) after ∧
      ∃ last,
        Runs (function.lower (copyAbsAndPass .single) 0)
          (LoweringState.afterCalls (copyAbsAndPass .single) {}
            ((function, 0) :: (copyAbsAndPass .single).functions.map (·, 0)))
          (.ok program) last ∧
        last.interner = (LoweringState.afterCalls (copyAbsAndPass .single) {}
          ((function, 0) :: (copyAbsAndPass .single).functions.map (·, 0))).interner := by
  have succeeds : ∀ function ∈ (copyAbsAndPass .single).functions,
      ((function.lower (copyAbsAndPass .single) 0).run {}).1.toOption.isSome = true := by
    decide +kernel
  obtain ⟨function, member⟩ : ∃ function, function ∈ (copyAbsAndPass .single).functions :=
    ⟨_, List.mem_cons_self⟩
  obtain ⟨program, found⟩ := Option.isSome_iff_exists.mp (succeeds function member)
  have lowered : Runs (function.lower (copyAbsAndPass .single) 0) {} (.ok program) _ :=
    Prod.ext (mem_toOption_iff.mp found) rfl
  exact ⟨function, member, program, _, lowered, Function.lower_again [] _ lowered⟩

end

end Tilework
