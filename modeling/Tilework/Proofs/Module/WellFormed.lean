import Mathlib.Data.List.Nodup
import Tilework.Module.Build
import Tilework.Proofs.Run

/-!
# Well-formed modules

A module grows by values and by functions that have passed their checks.  What
the checks ask of a function, together with what they ask of it next to the
functions before it, holds of every module that is built this way: each value has
a single definition in the whole module, which comes before all its uses, and a
result that is written into another tensor has the type of that tensor.
-/

namespace Tilework

/-! ## Building -/

/-- The drafts that are begun in a module. -/
inductive Draft.From (m : Module) : Draft → Prop
  | start (name : String) : From m { module := m, name }
  | argument {draft : Draft} (drafted : From m draft) (type : ValueType) :
      From m (draft.argument type).2
  | value {draft : Draft} (drafted : From m draft) (type : ValueType) :
      From m (draft.value type).2
  | append {draft : Draft} (drafted : From m draft) (instruction : Instruction) :
      From m (draft.append instruction)

/-- The modules that can be built.  A draft leaves its module behind whether or
not it is accepted. -/
inductive Module.Built : Module → Prop
  | empty (system : System) (target : Target) : Built { system, target }
  | addValue {m : Module} (built : Built m) (type : ValueType) : Built (m.addValue type).2
  | finish {m : Module} {draft : Draft} (built : Built m) (drafted : draft.From m)
      (returns : List ValueId) : Built (draft.finish returns).1

/-! ## Well-formedness -/

/-- The values that a list of instructions defines. -/
def resultsOf (body : List Instruction) : List ValueId :=
  body.flatMap fun instruction => instruction.operation.results

/-- A function whose values have types, and single definitions before their
uses. -/
structure Function.WellFormed (m : Module) (function : Function) : Prop where
  typed : ∀ value ∈ function.definedValues, ∃ type, m.valueType value = .ok type
  distinct : function.definedValues.Nodup
  ordered : ∀ earlier instruction later, function.body = earlier ++ instruction :: later →
    ∀ operand ∈ instruction.operation.operands,
      operand ∈ function.arguments ++ resultsOf earlier
  device : ∀ instruction ∈ function.body, ∀ op, instruction.operation = .getDevice op →
    ∃ type, m.deviceType op.result = .ok type
  destination : ∀ instruction ∈ function.body, ∀ destination result,
    instruction.operation.destination = some destination →
      instruction.operation.results = [result] →
        ∃ type, m.valueType destination = .ok type ∧ m.valueType result = .ok type
  returned : ∀ value ∈ function.returns, value ∈ function.definedValues

/-- A module whose functions are well formed and share neither names nor
definitions. -/
structure Module.WellFormed (m : Module) : Prop where
  distinctNames : (m.functions.map Function.name).Nodup
  function : ∀ function ∈ m.functions, function.WellFormed m
  distinct : (m.functions.flatMap Function.definedValues).Nodup
  definer : ∀ value name, m.definer? value = some name ↔
    ∃ function ∈ m.functions, function.name = name ∧ value ∈ function.definedValues

/-! ## Checks -/

namespace Module

variable {m : Module} {name : String} {defined after : List ValueId}

/-- A value that has a type and no definition yet. -/
def Available (m : Module) (value : ValueId) : Prop :=
  (∃ type, m.valueType value = .ok type) ∧ m.definer? value = none

theorem define_eq_ok_iff {value : ValueId} :
    m.define name defined value = .ok after ↔
      m.Available value ∧ value ∉ defined ∧ after = value :: defined := by
  simp only [define, bind_eq_ok_iff, Available]
  cases m.definer? value with
  | some other => simp [throw, throwThe, MonadExceptOf.throw]
  | none =>
      by_cases known : value ∈ defined
      · simp [known, throw, throwThe, MonadExceptOf.throw]
      · simp [known, pure, Except.pure, eq_comm]

theorem foldlM_define_eq_ok_iff {values : List ValueId} :
    values.foldlM (m.define name) defined = .ok after ↔
      (∀ value ∈ values, m.Available value) ∧ values.Nodup ∧
        (∀ value ∈ values, value ∉ defined) ∧ after = values.reverse ++ defined := by
  induction values generalizing defined with
  | nil => simp [pure, Except.pure, eq_comm]
  | cons value values ih =>
      simp only [List.foldlM_cons, bind_eq_ok_iff, define_eq_ok_iff, ih]
      constructor
      · rintro ⟨_, ⟨available, fresh, rfl⟩, later, distinct, separate, rfl⟩
        refine ⟨?_, ?_, ?_, by simp⟩
        · exact List.forall_mem_cons.mpr ⟨available, later⟩
        · refine List.nodup_cons.mpr ⟨?_, distinct⟩
          intro member
          exact separate value member List.mem_cons_self
        · refine List.forall_mem_cons.mpr ⟨fresh, ?_⟩
          intro other member isDefined
          exact separate other member (List.mem_cons_of_mem value isDefined)
      · rintro ⟨available, distinct, separate, rfl⟩
        obtain ⟨first, distinct⟩ := List.nodup_cons.1 distinct
        refine ⟨_, ⟨available value List.mem_cons_self, separate value List.mem_cons_self, rfl⟩,
          ?_, distinct, ?_, by simp⟩
        · exact fun other member => available other (List.mem_cons_of_mem value member)
        · intro other member isDefined
          rcases List.mem_cons.mp isDefined with rfl | isDefined
          · exact first member
          · exact separate other (List.mem_cons_of_mem value member) isDefined

theorem checkOperand_eq_ok_iff {operation : Operation} {operand : ValueId} :
    m.checkOperand name defined operation operand = .ok () ↔
      (∃ type, m.valueType operand = .ok type) ∧ operand ∈ defined := by
  simp only [checkOperand, bind_eq_ok_iff]
  by_cases known : operand ∈ defined
  · simp [known, pure, Except.pure]
  · simp [known, throw, throwThe, MonadExceptOf.throw]

theorem checkDevice_eq_ok_iff {operation : Operation} :
    m.checkDevice operation = .ok () ↔
      ∀ op, operation = .getDevice op → ∃ type, m.deviceType op.result = .ok type := by
  cases operation <;> simp [checkDevice, pure, Except.pure, map_eq_ok_iff]

theorem checkDestination_eq_ok_iff {operation : Operation} :
    m.checkDestination operation = .ok () ↔
      ∀ destination result, operation.destination = some destination →
        operation.results = [result] →
          ∃ type, m.valueType destination = .ok type ∧ m.valueType result = .ok type := by
  cases written : operation.destination with
  | none => simp [checkDestination, written, pure, Except.pure]
  | some destination =>
      rcases results : operation.results with _ | ⟨result, _ | ⟨other, later⟩⟩
      · simp [checkDestination, written, results, pure, Except.pure]
      · simp only [checkDestination, written, results, bind_eq_ok_iff, Option.some.injEq,
          List.cons.injEq, and_true]
        constructor
        · rintro ⟨destinationType, typed, resultType, resultTyped, same⟩ _ _ rfl rfl
          split at same
          · rename_i equal
            exact ⟨destinationType, typed, equal ▸ resultTyped⟩
          · cases same
        · intro holds
          obtain ⟨type, typed, resultTyped⟩ := holds destination result rfl rfl
          exact ⟨type, typed, type, resultTyped, by simp [pure, Except.pure]⟩
      · simp [checkDestination, written, results, pure, Except.pure]

theorem checkInstruction_eq_ok_iff {instruction : Instruction} :
    m.checkInstruction name defined instruction = .ok after ↔
      (∀ operand ∈ instruction.operation.operands,
        (∃ type, m.valueType operand = .ok type) ∧ operand ∈ defined) ∧
      (∀ result ∈ instruction.operation.results, m.Available result) ∧
      instruction.operation.results.Nodup ∧
      (∀ result ∈ instruction.operation.results, result ∉ defined) ∧
      m.checkDevice instruction.operation = .ok () ∧
      m.checkDestination instruction.operation = .ok () ∧
      after = instruction.operation.results.reverse ++ defined := by
  have operands_iff : instruction.operation.operands.forM
      (m.checkOperand name defined instruction.operation) = .ok () ↔
        ∀ operand ∈ instruction.operation.operands,
          (∃ type, m.valueType operand = .ok type) ∧ operand ∈ defined := by
    simp only [forM_eq_ok_iff, checkOperand_eq_ok_iff]
  simp only [checkInstruction, bind_eq_ok_iff, foldlM_define_eq_ok_iff, pure, Except.pure,
    Except.ok.injEq]
  constructor
  · rintro ⟨_, operands, _, ⟨available, distinct, separate, rfl⟩, _, device, _, destination, rfl⟩
    exact ⟨operands_iff.mp operands, available, distinct, separate, device, destination, rfl⟩
  · rintro ⟨operands, available, distinct, separate, device, destination, rfl⟩
    exact ⟨(), operands_iff.mpr operands, _, ⟨available, distinct, separate, rfl⟩, (), device, (),
      destination, rfl⟩

/-- What checking a list of instructions asks of it, given the values defined
before. -/
structure BodyAccepted (m : Module) (defined : List ValueId) (body : List Instruction) : Prop where
  available : ∀ result ∈ resultsOf body, m.Available result
  distinct : (resultsOf body).Nodup
  separate : ∀ result ∈ resultsOf body, result ∉ defined
  ordered : ∀ earlier instruction later, body = earlier ++ instruction :: later →
    ∀ operand ∈ instruction.operation.operands, operand ∈ defined ∨ operand ∈ resultsOf earlier
  device : ∀ instruction ∈ body, m.checkDevice instruction.operation = .ok ()
  destination : ∀ instruction ∈ body, m.checkDestination instruction.operation = .ok ()

theorem bodyAccepted_of_foldlM {body : List Instruction}
    (accepted : body.foldlM (m.checkInstruction name) defined = .ok after) :
    m.BodyAccepted defined body ∧ after = (resultsOf body).reverse ++ defined := by
  induction body generalizing defined with
  | nil =>
      simp only [List.foldlM_nil, pure, Except.pure, Except.ok.injEq] at accepted
      subst accepted
      have nothing : resultsOf [] = [] := rfl
      refine ⟨⟨?_, List.nodup_nil, ?_, ?_, ?_, ?_⟩, rfl⟩
      all_goals simp [nothing]
  | cons instruction body ih =>
      rcases bind_eq_ok_iff.mp accepted with ⟨middle, first, rest⟩
      obtain ⟨operands, available, distinct, separate, device, destination, rfl⟩ :=
        checkInstruction_eq_ok_iff.mp first
      obtain ⟨later, rfl⟩ := ih rest
      have results : resultsOf (instruction :: body) =
          instruction.operation.results ++ resultsOf body := rfl
      refine ⟨⟨?_, ?_, ?_, ?_, ?_, ?_⟩, by simp [results]⟩
      · rw [results]
        exact List.forall_mem_append.mpr ⟨available, later.available⟩
      · rw [results]
        refine List.nodup_append.mpr ⟨distinct, later.distinct, ?_⟩
        rintro result member _ memberLater rfl
        exact later.separate result memberLater (by simp [member])
      · rw [results]
        refine List.forall_mem_append.mpr ⟨separate, ?_⟩
        intro result member isDefined
        exact later.separate result member (by simp [isDefined])
      · intro earlier current following split operand used
        rcases earlier with _ | ⟨first, earlier⟩
        · cases split
          exact Or.inl (operands operand used).2
        · obtain ⟨rfl, rfl⟩ := List.cons.inj split
          have known := later.ordered earlier current following rfl operand used
          simp only [List.mem_append, List.mem_reverse] at known
          rcases known with (known | known) | known
          · exact Or.inr (List.mem_append_left _ known)
          · exact Or.inl known
          · exact Or.inr (List.mem_append_right _ known)
      · exact List.forall_mem_cons.mpr ⟨device, later.device⟩
      · exact List.forall_mem_cons.mpr ⟨destination, later.destination⟩

theorem checkReturn_eq_ok_iff {value : ValueId} :
    checkReturn name defined value = .ok () ↔ value ∈ defined := by
  by_cases known : value ∈ defined
  · simp [checkReturn, known, pure, Except.pure]
  · simp [checkReturn, known, throw, throwThe, MonadExceptOf.throw]

/-- A function that passes its checks is well formed, and nothing defined its
values before. -/
theorem wellFormed_of_checkFunction {function : Function}
    (accepted : m.checkFunction function = .ok ()) :
    function.WellFormed m ∧ ∀ value ∈ function.definedValues, m.Available value := by
  simp only [checkFunction, bind_eq_ok_iff] at accepted
  rcases accepted with ⟨_, arguments, _, body, accepted⟩
  rcases foldlM_define_eq_ok_iff.mp arguments with ⟨available, distinct, _, rfl⟩
  obtain ⟨checked, rfl⟩ := bodyAccepted_of_foldlM body
  have returns := forM_eq_ok_iff.mp accepted
  simp only [checkReturn_eq_ok_iff] at returns
  have values : function.definedValues = function.arguments ++ resultsOf function.body := rfl
  have all : ∀ value ∈ function.definedValues, m.Available value :=
    List.forall_mem_append.mpr ⟨available, checked.available⟩
  have typed : ∀ value ∈ function.definedValues, ∃ type, m.valueType value = .ok type :=
    fun value member => (all value member).1
  refine ⟨⟨typed, ?_, ?_, ?_, ?_, ?_⟩, all⟩
  · rw [values]
    refine List.nodup_append.mpr ⟨distinct, checked.distinct, ?_⟩
    rintro value member _ memberLater rfl
    exact checked.separate value memberLater (by simp [member])
  · intro earlier instruction later split operand used
    have known := checked.ordered earlier instruction later split operand used
    simpa using known
  · intro instruction member
    exact checkDevice_eq_ok_iff.mp (checked.device instruction member)
  · intro instruction member
    exact checkDestination_eq_ok_iff.mp (checked.destination instruction member)
  · intro value returned
    have known := returns value returned
    rw [values]
    simp only [List.append_nil, List.mem_append, List.mem_reverse] at known ⊢
    exact known.symm

/-! ## Growth -/

/-- A new value leaves the types of the others as they are. -/
theorem valueType_addValue {value : ValueId} {known : ValueType} (type : ValueType)
    (typed : m.valueType value = .ok known) : (m.addValue type).2.valueType value = .ok known := by
  simp only [valueType] at typed ⊢
  cases found : m.values[value.index]? with
  | none =>
      rw [found] at typed
      cases typed
  | some first =>
      rw [found] at typed
      have still : (m.values ++ [type])[value.index]? = some first := by
        rw [List.getElem?_append_left (List.getElem?_eq_some_iff.mp found).1, found]
      simp only [addValue, still]
      exact typed

theorem deviceType_addValue {value : ValueId} {known : DeviceType} (type : ValueType)
    (typed : m.deviceType value = .ok known) :
    (m.addValue type).2.deviceType value = .ok known := by
  rcases bind_eq_ok_iff.mp typed with ⟨first, found, rest⟩
  exact bind_eq_ok_iff.mpr ⟨first, valueType_addValue type found, rest⟩

end Module

variable {m : Module} {function : Function}

theorem Function.WellFormed.addValue (wellFormed : function.WellFormed m) (type : ValueType) :
    function.WellFormed (m.addValue type).2 where
  typed value member := by
    obtain ⟨known, typed⟩ := wellFormed.typed value member
    exact ⟨known, Module.valueType_addValue type typed⟩
  distinct := wellFormed.distinct
  ordered := wellFormed.ordered
  device instruction member op opens := by
    obtain ⟨known, typed⟩ := wellFormed.device instruction member op opens
    exact ⟨known, Module.deviceType_addValue type typed⟩
  destination instruction member destination result written results := by
    obtain ⟨known, typed, resultTyped⟩ :=
      wellFormed.destination instruction member destination result written results
    exact ⟨known, Module.valueType_addValue type typed, Module.valueType_addValue type resultTyped⟩
  returned := wellFormed.returned

theorem Module.WellFormed.addValue (wellFormed : m.WellFormed) (type : ValueType) :
    (m.addValue type).2.WellFormed where
  distinctNames := wellFormed.distinctNames
  function function member := (wellFormed.function function member).addValue type
  distinct := wellFormed.distinct
  definer := wellFormed.definer

/-- Adding a function leaves the types of all values as they are. -/
theorem Function.WellFormed.addFunction (wellFormed : function.WellFormed m) (added : Function) :
    function.WellFormed (m.addFunction added) :=
  ⟨wellFormed.typed, wellFormed.distinct, wellFormed.ordered, wellFormed.device,
    wellFormed.destination, wellFormed.returned⟩

/-- The new function is the definer of its values. -/
theorem Module.definer?_addFunction (m : Module) (function : Function) (value : ValueId) :
    (m.addFunction function).definer? value =
      if value ∈ function.definedValues then some function.name else m.definer? value := by
  simp only [definer?, addFunction]
  induction function.definedValues with
  | nil => simp
  | cons first values ih =>
      rw [List.map_cons, List.cons_append, List.lookup_cons]
      by_cases same : value = first
      · simp [same]
      · have different : (value == first) = false := by simpa using same
        simp [different, ih, same]

theorem Module.WellFormed.insert {grown : Module} (wellFormed : m.WellFormed)
    (inserted : m.insert function = .ok grown) : grown.WellFormed := by
  simp only [Module.insert] at inserted
  split at inserted
  · cases inserted
  · rename_i unnamed
    rcases map_eq_ok_iff.mp inserted with ⟨⟨⟩, accepted, rfl⟩
    obtain ⟨checked, available⟩ := Module.wellFormed_of_checkFunction accepted
    have newName : ∀ other ∈ m.functions, other.name ≠ function.name := by
      simpa [Module.function?] using unnamed
    have undefinedBefore : ∀ other ∈ m.functions, ∀ value ∈ other.definedValues,
        value ∉ function.definedValues := by
      intro other member value defined isNew
      have definer := (wellFormed.definer value other.name).2 ⟨other, member, rfl, defined⟩
      rw [(available value isNew).2] at definer
      cases definer
    constructor
    · simp only [Module.addFunction, List.map_append, List.map_cons, List.map_nil]
      refine List.nodup_append.mpr ⟨wellFormed.distinctNames, List.nodup_singleton _, ?_⟩
      intro name named other isNew
      rcases List.mem_map.mp named with ⟨earlier, member, rfl⟩
      rw [List.mem_singleton.mp isNew]
      exact newName earlier member
    · intro other member
      rcases List.mem_append.mp member with member | member
      · exact (wellFormed.function other member).addFunction function
      · rw [List.mem_singleton.mp member]
        exact checked.addFunction function
    · simp only [Module.addFunction, List.flatMap_append, List.flatMap_cons, List.flatMap_nil,
        List.append_nil]
      refine List.nodup_append.mpr ⟨wellFormed.distinct, checked.distinct, ?_⟩
      rintro value defined _ isNew rfl
      rcases List.mem_flatMap.mp defined with ⟨other, member, defined⟩
      exact undefinedBefore other member value defined isNew
    · intro value name
      rw [Module.definer?_addFunction]
      simp only [Module.addFunction, List.mem_append, List.mem_singleton]
      by_cases isNew : value ∈ function.definedValues
      · rw [if_pos isNew]
        constructor
        · intro named
          exact ⟨function, Or.inr rfl, Option.some.inj named, isNew⟩
        · rintro ⟨other, member | rfl, named, defined⟩
          · exact absurd isNew (undefinedBefore other member value defined)
          · rw [named]
      · rw [if_neg isNew, wellFormed.definer]
        constructor
        · rintro ⟨other, member, named, defined⟩
          exact ⟨other, Or.inl member, named, defined⟩
        · rintro ⟨other, member | rfl, named, defined⟩
          · exact ⟨other, member, named, defined⟩
          · exact absurd defined isNew

theorem Module.WellFormed.draft {draft : Draft} (wellFormed : m.WellFormed)
    (drafted : draft.From m) : draft.module.WellFormed := by
  induction drafted with
  | start name => exact wellFormed
  | argument drafted type ih => exact ih.addValue type
  | value drafted type ih => exact ih.addValue type
  | append drafted instruction ih => exact ih

/-- Every module that can be built is well formed. -/
theorem Module.Built.wellFormed (built : m.Built) : m.WellFormed := by
  induction built with
  | empty system target =>
      exact ⟨List.nodup_nil, by simp, List.nodup_nil, by simp [Module.definer?]⟩
  | addValue built type ih => exact ih.addValue type
  | @finish m draft built drafted returns ih =>
      have before := ih.draft drafted
      simp only [Draft.finish]
      split
      · rename_i grown inserted
        exact before.insert inserted
      · exact before

/-! ## Consequences -/

/-- What an instruction uses is defined in its function. -/
theorem Function.WellFormed.operand_mem (wellFormed : function.WellFormed m)
    {instruction : Instruction} (member : instruction ∈ function.body) {operand : ValueId}
    (used : operand ∈ instruction.operation.operands) : operand ∈ function.definedValues := by
  obtain ⟨earlier, later, split⟩ := List.append_of_mem member
  have known := wellFormed.ordered earlier instruction later split operand used
  have values : function.definedValues = function.arguments ++ resultsOf function.body := rfl
  rw [values, split]
  rcases List.mem_append.mp known with known | known
  · exact List.mem_append_left _ known
  · simp only [resultsOf, List.flatMap_append, List.mem_append] at known ⊢
    exact Or.inr (Or.inl known)

theorem Function.WellFormed.typed_argument (wellFormed : function.WellFormed m)
    {argument : ValueId} (member : argument ∈ function.arguments) :
    ∃ type, m.valueType argument = .ok type :=
  wellFormed.typed argument (List.mem_append_left _ member)

theorem Function.WellFormed.typed_result (wellFormed : function.WellFormed m)
    {instruction : Instruction} (member : instruction ∈ function.body) {result : ValueId}
    (defines : result ∈ instruction.operation.results) : ∃ type, m.valueType result = .ok type := by
  apply wellFormed.typed
  exact List.mem_append_right _ (List.mem_flatMap.mpr ⟨instruction, member, defines⟩)

theorem Function.WellFormed.typed_returned (wellFormed : function.WellFormed m)
    {value : ValueId} (returned : value ∈ function.returns) :
    ∃ type, m.valueType value = .ok type :=
  wellFormed.typed value (wellFormed.returned value returned)

/-- Two functions that define the same value are one function. -/
theorem Module.WellFormed.unique (wellFormed : m.WellFormed) {first second : Function}
    (member : first ∈ m.functions) (memberSecond : second ∈ m.functions) {value : ValueId}
    (defined : value ∈ first.definedValues) (definedSecond : value ∈ second.definedValues) :
    first = second := by
  have definer := (wellFormed.definer value first.name).2 ⟨first, member, rfl, defined⟩
  obtain ⟨other, _, sameName, _⟩ := (wellFormed.definer value first.name).1 definer
  have named := (wellFormed.definer value second.name).2
    ⟨second, memberSecond, rfl, definedSecond⟩
  rw [definer] at named
  exact List.inj_on_of_nodup_map wellFormed.distinctNames member memberSecond
    (Option.some.inj named)

end Tilework
