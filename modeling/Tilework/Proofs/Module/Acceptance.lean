import Tilework.Proofs.Module.Growth
import Tilework.Proofs.Module.Printing

/-!
# What is accepted

The checks of a draft ask for no more than they have to.  A function is accepted exactly
when its name is new, when it is well formed, and when no other function of the module
defines one of its values.  Then the module has one function more, which is the definer of
its own values, and otherwise the module stays as the draft has left it.
-/

namespace Tilework

/-! ## Admissible functions -/

/-- A function that a module can take in: its name is new, it is well formed, and the
functions that are there already define none of its values. -/
structure Function.Admissible (m : Module) (function : Function) : Prop where
  newName : ∀ other ∈ m.functions, other.name ≠ function.name
  wellFormed : function.WellFormed m
  undefinedBefore : ∀ other ∈ m.functions, ∀ value ∈ function.definedValues,
    value ∉ other.definedValues

/-- A module has one function more than another one, which defines its own values, and is
the same otherwise. -/
structure Module.Adds (grown m : Module) (function : Function) : Prop where
  functions : grown.functions = m.functions ++ [function]
  definer : ∀ value, grown.definer? value =
    if value ∈ function.definedValues then some function.name else m.definer? value
  values : grown.values = m.values
  system : grown.system = m.system
  target : grown.target = m.target

/-! ## Checks that pass -/

namespace Module

variable {m grown : Module} {name : String} {defined : List ValueId} {function : Function}

/-- Checking a list of instructions succeeds when it has what the checks ask for. -/
theorem BodyAccepted.foldlM_eq {body : List Instruction} (accepted : m.BodyAccepted defined body)
    (typed : ∀ value ∈ defined, ∃ type, m.valueType value = .ok type) :
    body.foldlM (m.checkInstruction name) defined = .ok ((resultsOf body).reverse ++ defined) := by
  induction body generalizing defined with
  | nil => rfl
  | cons instruction body ih =>
      have results : resultsOf (instruction :: body) =
          instruction.operation.results ++ resultsOf body := rfl
      have available := accepted.available
      have distinct := accepted.distinct
      have separate := accepted.separate
      rw [results] at available distinct separate
      obtain ⟨availableFirst, availableLater⟩ := List.forall_mem_append.mp available
      obtain ⟨distinctFirst, distinctLater, disjoint⟩ := List.nodup_append.mp distinct
      obtain ⟨separateFirst, separateLater⟩ := List.forall_mem_append.mp separate
      have operands : ∀ operand ∈ instruction.operation.operands,
          (∃ type, m.valueType operand = .ok type) ∧ operand ∈ defined := by
        intro operand used
        rcases accepted.ordered [] instruction body rfl operand used with known | none
        · exact ⟨typed operand known, known⟩
        · cases none
      have first : m.checkInstruction name defined instruction =
          .ok (instruction.operation.results.reverse ++ defined) :=
        checkInstruction_eq_ok_iff.mpr ⟨operands, availableFirst, distinctFirst, separateFirst,
          accepted.device instruction List.mem_cons_self,
          accepted.destination instruction List.mem_cons_self, rfl⟩
      have later : m.BodyAccepted (instruction.operation.results.reverse ++ defined) body := by
        refine ⟨availableLater, distinctLater, ?_, ?_, ?_, ?_⟩
        · intro result member known
          rcases List.mem_append.mp known with known | known
          · exact disjoint result (List.mem_reverse.mp known) result member rfl
          · exact separateLater result member known
        · rintro earlier current following rfl operand used
          have known := accepted.ordered (instruction :: earlier) current following rfl operand used
          simp only [resultsOf, List.flatMap_cons, List.mem_append, List.mem_reverse] at known ⊢
          tauto
        · exact fun other member => accepted.device other (List.mem_cons_of_mem _ member)
        · exact fun other member => accepted.destination other (List.mem_cons_of_mem _ member)
      have typedLater : ∀ value ∈ instruction.operation.results.reverse ++ defined,
          ∃ type, m.valueType value = .ok type := by
        intro value known
        rcases List.mem_append.mp known with known | known
        · exact (availableFirst value (List.mem_reverse.mp known)).1
        · exact typed value known
      rw [List.foldlM_cons, bind_eq_ok_iff]
      refine ⟨_, first, ?_⟩
      rw [ih later typedLater, results, List.reverse_append, List.append_assoc]

/-- A function passes its checks exactly when it is well formed and nothing has defined its
values before. -/
theorem checkFunction_eq_ok_iff :
    m.checkFunction function = .ok () ↔
      function.WellFormed m ∧ ∀ value ∈ function.definedValues, m.Available value := by
  refine ⟨wellFormed_of_checkFunction, ?_⟩
  rintro ⟨wellFormed, available⟩
  have values : function.definedValues = function.arguments ++ resultsOf function.body := rfl
  have distinct := wellFormed.distinct
  rw [values] at available distinct
  obtain ⟨availableArguments, availableResults⟩ := List.forall_mem_append.mp available
  obtain ⟨distinctArguments, distinctResults, disjoint⟩ := List.nodup_append.mp distinct
  have arguments : function.arguments.foldlM (m.define function.name) [] =
      .ok (function.arguments.reverse ++ []) :=
    foldlM_define_eq_ok_iff.mpr ⟨availableArguments, distinctArguments, by simp, rfl⟩
  have body : m.BodyAccepted (function.arguments.reverse ++ []) function.body := by
    refine ⟨availableResults, distinctResults, ?_, ?_, ?_, ?_⟩
    · intro result member known
      simp only [List.append_nil, List.mem_reverse] at known
      exact disjoint result known result member rfl
    · intro earlier instruction later split operand used
      simpa using wellFormed.ordered earlier instruction later split operand used
    · exact fun instruction member =>
        checkDevice_eq_ok_iff.mpr (wellFormed.device instruction member)
    · exact fun instruction member =>
        checkDestination_eq_ok_iff.mpr (wellFormed.destination instruction member)
  have typed : ∀ value ∈ function.arguments.reverse ++ [],
      ∃ type, m.valueType value = .ok type := by
    intro value known
    simp only [List.append_nil, List.mem_reverse] at known
    exact (availableArguments value known).1
  simp only [checkFunction, bind_eq_ok_iff]
  refine ⟨_, arguments, _, body.foldlM_eq typed, forM_eq_ok_iff.mpr ?_⟩
  intro value returned
  have known := wellFormed.returned value returned
  rw [values] at known
  rw [checkReturn_eq_ok_iff]
  simp only [List.append_nil, List.mem_append, List.mem_reverse] at known ⊢
  exact known.symm

/-! ## Next to other functions -/

/-- In a well-formed module nothing defines a value exactly when none of the functions
does. -/
theorem WellFormed.definer?_eq_none_iff (wellFormed : m.WellFormed) {value : ValueId} :
    m.definer? value = none ↔ ∀ other ∈ m.functions, value ∉ other.definedValues := by
  constructor
  · intro undefined other member defined
    have named := (wellFormed.definer value other.name).mpr ⟨other, member, rfl, defined⟩
    rw [undefined] at named
    cases named
  · intro undefined
    cases named : m.definer? value with
    | none => rfl
    | some name =>
        obtain ⟨other, member, -, defined⟩ := (wellFormed.definer value name).mp named
        exact absurd defined (undefined other member)

/-- A well-formed module takes a function in exactly when it is admissible. -/
theorem WellFormed.insert_eq_ok_iff (wellFormed : m.WellFormed) :
    m.insert function = .ok grown ↔
      function.Admissible m ∧ grown = m.addFunction function := by
  have named : (m.function? function.name).isSome = true ↔
      ∃ other ∈ m.functions, other.name = function.name := by
    simp [function?]
  have accepts : m.checkFunction function = .ok () ↔ function.WellFormed m ∧
      ∀ other ∈ m.functions, ∀ value ∈ function.definedValues, value ∉ other.definedValues := by
    rw [checkFunction_eq_ok_iff]
    constructor
    · rintro ⟨checked, available⟩
      refine ⟨checked, fun other member value defined => ?_⟩
      exact wellFormed.definer?_eq_none_iff.mp (available value defined).2 other member
    · rintro ⟨checked, undefined⟩
      refine ⟨checked, fun value defined => ⟨checked.typed value defined, ?_⟩⟩
      exact wellFormed.definer?_eq_none_iff.mpr
        fun other member => undefined other member value defined
  rw [Module.insert]
  split
  · rename_i taken
    obtain ⟨other, member, same⟩ := named.mp taken
    constructor
    · intro refused
      cases refused
    · rintro ⟨admissible, -⟩
      exact absurd same (admissible.newName other member)
  · rename_i free
    have newName : ∀ other ∈ m.functions, other.name ≠ function.name :=
      fun other member same => free (named.mpr ⟨other, member, same⟩)
    rw [map_eq_ok_iff]
    constructor
    · rintro ⟨⟨⟩, accepted, rfl⟩
      obtain ⟨checked, undefined⟩ := accepts.mp accepted
      exact ⟨⟨newName, checked, undefined⟩, rfl⟩
    · rintro ⟨admissible, rfl⟩
      exact ⟨(), accepts.mpr ⟨admissible.wellFormed, admissible.undefinedBefore⟩, rfl⟩

theorem adds_addFunction (m : Module) (function : Function) :
    (m.addFunction function).Adds m function :=
  ⟨rfl, m.definer?_addFunction function, rfl, rfl, rfl⟩

end Module

/-! ## Drafts -/

namespace Draft

variable {draft : Draft} {m : Module}

/-- A draft adds values to its module and nothing else. -/
theorem From.keeps (drafted : draft.From m) :
    draft.module.functions = m.functions ∧ draft.module.definitions = m.definitions ∧
      m.values <+: draft.module.values := by
  induction drafted with
  | start name => exact ⟨rfl, rfl, List.prefix_rfl⟩
  | argument drafted type ih | value drafted type ih =>
      exact ⟨ih.1, ih.2.1, ih.2.2.trans (List.prefix_append _ _)⟩
  | append drafted instruction ih => exact ih

/-- A draft in a well-formed module is accepted exactly when its function is admissible.
The module then has this one function more, and after a rejection it stays as the draft has
left it: with the functions and the definitions from before the draft, and with the values
that the draft has added. -/
theorem finish_exact_and_atomic (wellFormed : draft.module.WellFormed) (returns : List ValueId) :
    ((draft.finish returns).2 = .ok () ↔ (draft.function returns).Admissible draft.module) ∧
    ((draft.finish returns).2 = .ok () →
      (draft.finish returns).1.Adds draft.module (draft.function returns)) ∧
    (∀ error, (draft.finish returns).2 = .error error →
      (draft.finish returns).1 = draft.module) ∧
    ∀ m, draft.From m → draft.module.functions = m.functions ∧
      draft.module.definitions = m.definitions ∧ m.values <+: draft.module.values := by
  have last := fun m (drafted : draft.From m) => drafted.keeps
  cases inserted : draft.module.insert (draft.function returns) with
  | ok grown =>
      obtain ⟨admissible, rfl⟩ := wellFormed.insert_eq_ok_iff.mp inserted
      have finished : draft.finish returns =
          (draft.module.addFunction (draft.function returns), .ok ()) := by
        rw [finish, inserted]
      rw [finished]
      refine ⟨⟨fun _ => admissible, fun _ => rfl⟩, fun _ => Module.adds_addFunction _ _, ?_, last⟩
      intro error refused
      cases refused
  | error error =>
      have refused : ¬ (draft.function returns).Admissible draft.module := by
        intro admissible
        have accepted := wellFormed.insert_eq_ok_iff.mpr ⟨admissible, rfl⟩
        rw [inserted] at accepted
        cases accepted
      have finished : draft.finish returns = (draft.module, .error error) := by
        rw [finish, inserted]
      rw [finished]
      refine ⟨⟨?_, fun admissible => absurd admissible refused⟩, ?_, fun _ _ => rfl, last⟩
      · intro accepted
        cases accepted
      · intro accepted
        cases accepted

/-- The late draft is accepted with the values that it defines, and rejected with one that
it does not define. -/
theorem finish_exact_and_atomic_lateDraft :
    lateDraft.module.WellFormed ∧ (lateDraft.finish [⟨0⟩, ⟨1⟩]).2 = .ok () ∧
      (lateDraft.function [⟨0⟩, ⟨1⟩]).Admissible lateDraft.module ∧
      (lateDraft.finish [⟨0⟩, ⟨1⟩]).1.Adds lateDraft.module (lateDraft.function [⟨0⟩, ⟨1⟩]) ∧
      (lateDraft.finish [⟨2⟩]).2 = .error (.undefinedReturnValue "late" ⟨2⟩) ∧
      ¬ (lateDraft.function [⟨2⟩]).Admissible lateDraft.module ∧
      (lateDraft.finish [⟨2⟩]).1 = lateDraft.module := by
  have built : (rejectedDraft.finish [⟨1⟩]).1.Built :=
    .finish (.empty _ _) (.argument (.start _) _) _
  have drafted : lateDraft.From (rejectedDraft.finish [⟨1⟩]).1 :=
    .append (.append (.value (.start _) _) _) _
  have wellFormed := built.wellFormed.draft drafted
  have accepted : (lateDraft.finish [⟨0⟩, ⟨1⟩]).2 = .ok () := rfl
  have rejected : (lateDraft.finish [⟨2⟩]).2 = .error (.undefinedReturnValue "late" ⟨2⟩) := rfl
  obtain ⟨exact, adds, -, -⟩ := finish_exact_and_atomic wellFormed [⟨0⟩, ⟨1⟩]
  obtain ⟨exactLater, -, keeps, -⟩ := finish_exact_and_atomic wellFormed [⟨2⟩]
  refine ⟨wellFormed, accepted, exact.mp accepted, adds accepted, rejected, ?_, keeps _ rejected⟩
  intro admissible
  rw [exactLater.mpr admissible] at rejected
  cases rejected

end Draft

end Tilework
