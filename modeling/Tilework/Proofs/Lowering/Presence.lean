import Tilework.Proofs.Lowering.Buffers
import Tilework.Proofs.Lowering.Errors

/-!
# Nothing is missing

Whatever an instruction of a well-sorted module refers to has been defined earlier in the
same function, and every definition leaves a row in the table that its value is looked up
in.  A chain of aliases ends in the value that the row was made for.  So no lookup comes
to nothing, and no value is asked for as what it is not.
-/

namespace Tilework

open Artifact Interner
open LoweringError (Plain)

/-! ## Values of the right sort -/

namespace Lowering

variable {m : Module} {value : ValueId}

/-- A step on a value of the module goes on with what the module knows of it. -/
theorem runs_program_bind {α β : Type} {asked : Except ModuleError α} {known : α}
    {next : α → Lowering β} {before after : LoweringState} {outcome : Except LoweringError β}
    (asked_eq : asked = .ok known) :
    Runs (liftM (asked.mapError LoweringError.program) >>= next) before outcome after ↔
      Runs (next known) before outcome after := by
  subst asked_eq
  exact Iff.rfl

/-- A record of a value's own is made for a known type, or fails for reasons of the record. -/
theorem fails_own {τ : Type} {table : Table} {asked : Except ModuleError τ}
    {record : τ → Interning table.Record} {type : τ} (typed : asked = .ok type)
    (fails : Fails Plain (interning (Interning.intern table (.value value) (record type)))) :
    Fails Plain (own table value asked record) := by
  intro before error after run
  exact fails before error after ((runs_program_bind typed).mp run)

/-- An argument of a known type is a tensor that is allocated or a device that is
opened. -/
theorem fails_argument {type : ValueType} (typed : m.valueType value = .ok type) :
    Fails Plain (m.lowerArgument value) := by
  intro before error after run
  have continued := (runs_program_bind typed).mp run
  cases type with
  | device type =>
      have opens : Fails Plain (openDevice m value) :=
        fails_own (Module.deviceType_eq_ok_iff.mpr typed) (fails_internDevice type)
      exact fails_bind opens (fun _ => fails_pure none) before error after continued
  | tensor type =>
      have allocates : Fails Plain (allocate m value) :=
        fails_own (Module.tensorType_eq_ok_iff.mpr typed) (fails_internTensor type)
      exact fails_map some allocates before error after continued

end Lowering

/-! ## References -/

namespace Reference

variable {m : Module} {options : LoweringOptions} {interner earlier later : Interner}
  {root : ValueId → ValueId} {reference : Reference}

/-- A reference whose row is there, or can be made for a value of the right sort. -/
def Ready (m : Module) (interner : Interner) (root : ValueId → ValueId) : Reference → Prop
  | tensor value => ∃ handle, interner.handle? .tensors (.value (root value)) = some handle
  | device value => ∃ handle, interner.handle? .devices (.value (root value)) = some handle
  | written _ result => ∃ handle, interner.handle? .tensors (.value (root result)) = some handle
  | allocated result => ∃ type, m.tensorType result = .ok type
  | opened result => ∃ type, m.deviceType result = .ok type
  | memoryConfig _ | unplaced _ => True

theorem Ready.of_grows (grows : earlier.Grows later) (distinct : later.Distinct)
    (ready : reference.Ready m earlier root) : reference.Ready m later root := by
  cases reference with
  | tensor | device | written =>
      obtain ⟨handle, found⟩ := ready
      exact ⟨handle, handle?_of_grows grows distinct found⟩
  | _ => exact ready

/-- References that can be linked one after another. -/
structure Linkable (m : Module) (options : LoweringOptions) (root : ValueId → ValueId)
    (references : List Reference) (state : LoweringState) : Prop where
  sound : state.interner.Sound m options
  coherent : Coherent root state.aliases references
  ready : ∀ reference ∈ references, reference.Ready m state.interner root

/-- Linking a reference that is ready does not come to nothing. -/
theorem plain_of_runs_link {before after : LoweringState} {error : LoweringError}
    (coherent : Coherent root before.aliases [reference])
    (ready : reference.Ready m before.interner root)
    (run : Runs (reference.link m) before (.error error) after) : error.Plain := by
  have leads : ∀ value, reference.followed? = some value →
      (aliasesFrom before.aliases [reference]).resolve value = root value :=
    coherent.follows [] reference [] rfl
  rw [aliasesFrom_singleton] at leads
  cases reference with
  | tensor value | device value =>
      obtain ⟨handle, found⟩ := ready
      rw [← leads value rfl] at found
      cases (run.unique (Lowering.runs_shared_ok.mpr ⟨found, rfl⟩)).1
  | memoryConfig config => exact Lowering.fails_memoryConfig config before error after run
  | allocated result =>
      obtain ⟨type, typed⟩ := ready
      exact Lowering.fails_own typed (Lowering.fails_internTensor type) before error after run
  | written output result =>
      obtain ⟨handle, found⟩ := ready
      have different := coherent.proper _ List.mem_cons_self (result, output) rfl
      rw [← leads result rfl] at found
      cases (run.unique ((Lowering.runs_write_ok different).mpr ⟨rfl, found⟩)).1
  | opened result =>
      obtain ⟨type, typed⟩ := ready
      exact Lowering.fails_own typed (Lowering.fails_internDevice type) before error after run
  | unplaced operation =>
      cases (runs_throw.mp run).1
      trivial

/-- Linking a reference leaves the later ones to be linked. -/
theorem leads_link (reference : Reference) (later : List Reference) :
    Leads Plain (Linkable m options root ([reference] ++ later)) (reference.link m)
      fun _ => Linkable m options root later := by
  intro before outcome after linkable run
  obtain ⟨first, rest⟩ := linkable.coherent.append
  have ready := List.forall_mem_append.mp linkable.ready
  constructor
  · rintro handle rfl
    have advances : Keeps (LoweringState.Advances m options) (reference.link m) :=
      closed_advances.link reference
    obtain ⟨grows, keeps⟩ := advances before _ after run
    have sound := keeps linkable.sound
    refine ⟨sound, ?_, fun other member => (ready.2 other member).of_grows grows sound.distinct⟩
    rw [(handleIn_of_runs_link first run).1]
    exact rest
  · rintro error rfl
    exact plain_of_runs_link first (ready.1 reference List.mem_cons_self) run

/-- References that can be linked one after another are linked, record by record. -/
theorem leads_relates :
    OperationRecord.Relates (Reference.link m) (Reference.link m) fun {_} steps _ references =>
      ∀ later, Leads Plain (Linkable m options root (references ++ later)) steps
        fun _ => Linkable m options root later where
  pure value later := leads_pure fun _ linkable => linkable
  bind {_ _ _ _ _ _ references others} first next later := by
    rw [List.append_assoc]
    exact leads_bind (first (others ++ later)) fun value => next value later
  step reference later := leads_link reference later

end Reference

/-! ## Functions -/

/-- Values whose roots have rows in the tables that their sorts call for. -/
def Present (m : Module) (root : ValueId → ValueId) (values : List ValueId)
    (interner : Interner) : Prop :=
  ∀ value ∈ values, ∀ type, m.valueType value = .ok type →
    ∃ handle, interner.handle? type.table (.value (root value)) = some handle

/-- A state of lowering a function with the given aliases, in which some values are
present. -/
structure Function.Reached (m : Module) (options : LoweringOptions) (function : Function)
    (aliases : Aliases) (values : List ValueId) (state : LoweringState) : Prop where
  sound : state.interner.Sound m options
  aliases : state.aliases = aliases
  present : Present m function.root values state.interner

/-- A state in which the arguments of a function and some of its instructions have been
lowered. -/
def Function.ReachedAfter (m : Module) (options : LoweringOptions) (function : Function)
    (earlier : List Instruction) : LoweringState → Prop :=
  function.Reached m options (aliasesAfter earlier) (function.arguments ++ resultsOf earlier)

section

variable {m : Module} {options : LoweringOptions} {function : Function}
  {before after state : LoweringState}

theorem Present.of_grows {root : ValueId → ValueId} {values : List ValueId}
    {earlier later : Interner} (grows : earlier.Grows later) (distinct : later.Distinct)
    (present : Present m root values earlier) : Present m root values later := by
  intro value member type typed
  obtain ⟨handle, found⟩ := present value member type typed
  exact ⟨handle, handle?_of_grows grows distinct found⟩

theorem present_append {root : ValueId → ValueId} {first second : List ValueId}
    {interner : Interner} :
    Present m root (first ++ second) interner ↔
      Present m root first interner ∧ Present m root second interner :=
  List.forall_mem_append

variable (wellFormed : function.WellFormed m)

include wellFormed

/-! ### Arguments -/

/-- An argument that has been lowered has a row, whatever its sort. -/
theorem present_of_runs_argument {value : ValueId} (argument : value ∈ function.arguments)
    {given : Option Handle} (run : Runs (m.lowerArgument value) before (.ok given) after) :
    Present m function.root [value] after.interner := by
  unfold Present
  rw [List.forall_mem_singleton, root_argument wellFormed argument]
  intro type typed
  obtain ⟨_, found⟩ := runs_lowerArgument_ok run
  cases type with
  | tensor type =>
      have isTensor := Module.isTensor_iff.mpr ⟨type, Module.tensorType_eq_ok_iff.mpr typed⟩
      rcases found with ⟨handle, _, _, found, _⟩ | ⟨handle, isDevice, _⟩
      · exact ⟨handle, found⟩
      · rw [isTensor] at isDevice
        cases isDevice
  | device type =>
      have opens := Module.deviceType_eq_ok_iff.mpr typed
      rcases found with ⟨handle, _, _, _, other⟩ | ⟨handle, _, _, found⟩
      · exact absurd opens (other type)
      · exact ⟨handle, found⟩

/-- The arguments of a function are lowered before its instructions. -/
theorem leads_arguments :
    Leads Plain (function.Reached m options [] []) (function.arguments.mapM m.lowerArgument)
      fun _ => function.ReachedAfter m options [] := by
  have each : Leads Plain (function.Reached m options [] [])
      (function.arguments.mapM m.lowerArgument)
      fun _ => function.Reached m options [] function.arguments := by
    apply leads_mapM
    intro earlier value later split
    have argument : value ∈ function.arguments := by simp [split]
    obtain ⟨type, typed⟩ := wellFormed.typed value (List.mem_append_left _ argument)
    apply leads_of_fails (Lowering.fails_argument typed)
    intro before given after reached run
    have advances : Keeps (LoweringState.Advances m options) (m.lowerArgument value) :=
      closed_advances.argument value
    obtain ⟨grows, keeps⟩ := advances before _ after run
    have sound := keeps reached.sound
    refine ⟨sound, (runs_lowerArgument_ok run).1.trans reached.aliases, ?_⟩
    exact present_append.mpr ⟨reached.present.of_grows grows sound.distinct,
      present_of_runs_argument wellFormed argument run⟩
  apply each.imp fun _ reached => reached
  intro _ state reached
  exact ⟨reached.sound, reached.aliases, present_append.mpr ⟨reached.present, nofun⟩⟩

/-! ### Instructions -/

variable {earlier later : List Instruction} {instruction : Instruction}
  (split : function.body = earlier ++ instruction :: later)

include split

/-- An instruction that has been lowered leaves rows for its results behind, or has written
them into a tensor that has one. -/
theorem Function.ReachedAfter.next (reached : function.ReachedAfter m options earlier before)
    {entry : OperationEntry} (run : Runs (instruction.lower m) before (.ok entry) after) :
    function.ReachedAfter m options (earlier ++ [instruction]) after := by
  have advances : Keeps (LoweringState.Advances m options) (instruction.lower m) :=
    closed_advances.instruction instruction
  obtain ⟨grows, keeps⟩ := advances before _ after run
  have sound := keeps reached.sound
  rcases runs_bind_ok.mp run with ⟨linked, last, lowered, done⟩
  rcases runs_pure.mp done with ⟨same, rfl⟩
  obtain ⟨aliases_eq, record, encoded, reads⟩ :=
    record_of_runs_lower wellFormed split reached.aliases lowered
  have filled : instruction.Filled m after.interner function entry := by
    have found := reads after.interner (Std.Refl.refl _) sound.distinct
    cases same
    exact ⟨record, linked, encoded, rfl, OperationRecord.slots_of_mapM found⟩
  have member : instruction ∈ function.body := by simp [split]
  have results : Present m function.root instruction.operation.results after.interner := by
    intro value defines type typed
    obtain ⟨role, reference, handle, held, mentioned⟩ :=
      filled.exists_holds (List.mem_append_right _ defines)
    obtain ⟨defined, found⟩ := filled.handle?_of_holds wellFormed member held mentioned
    rw [← valueType_root wellFormed defined] at typed
    rw [← sound.table_eq found typed]
    exact ⟨handle, found⟩
  refine ⟨sound, aliases_eq, ?_⟩
  have resultsOf_eq : resultsOf (earlier ++ [instruction]) =
      resultsOf earlier ++ instruction.operation.results := by simp [resultsOf]
  rw [resultsOf_eq, ← List.append_assoc]
  exact present_append.mpr ⟨reached.present.of_grows grows sound.distinct, results⟩

variable (sorted : function.WellSorted m)

include sorted

/-- What the record of the next instruction refers to is ready. -/
theorem Function.ReachedAfter.linkable (reached : function.ReachedAfter m options earlier state)
    {record : OperationRecord Reference} (encoded : instruction.operation.record m = .ok record) :
    Reference.Linkable m options function.root record.references state := by
  have member : instruction ∈ function.body := by simp [split]
  have known : instruction.operation.kind?.isSome := by
    cases operation : instruction.operation with
    | unregistered op =>
        rw [operation] at encoded
        cases encoded
    | _ => rfl
  have operand {value : ValueId} (used : value ∈ instruction.operation.tensors ++
      instruction.operation.devices ++ instruction.operation.destination.toList) :
      value ∈ function.arguments ++ resultsOf earlier :=
    wellFormed.ordered earlier instruction later split value
      ((Operation.perm_operands known).mem_iff.mp used)
  refine ⟨reached.sound, ?_, ?_⟩
  · rw [reached.aliases]
    exact coherent_of_record wellFormed split encoded
  · intro reference among
    have fits := Operation.sorted_of_record encoded reference among
    cases reference with
    | tensor value =>
        obtain ⟨type, typed⟩ := sorted.tensor instruction member value (List.mem_append_left _ fits)
        exact reached.present value
          (operand (List.mem_append_left _ (List.mem_append_left _ fits))) _
          (Module.tensorType_eq_ok_iff.mp typed)
    | device value =>
        obtain ⟨type, typed⟩ := sorted.device instruction member value fits
        exact reached.present value
          (operand (List.mem_append_left _ (List.mem_append_right _ fits))) _
          (Module.deviceType_eq_ok_iff.mp typed)
    | written output result =>
        obtain ⟨given, defines⟩ := fits
        have written := Option.mem_toList.mpr given
        obtain ⟨type, typed⟩ :=
          sorted.tensor instruction member output (List.mem_append_right _ written)
        rw [Reference.Ready, root_of_destination wellFormed member given (by simp [defines])]
        exact reached.present output (operand (List.mem_append_right _ written)) _
          (Module.tensorType_eq_ok_iff.mp typed)
    | allocated result => exact sorted.result instruction member fits.2 result fits.1
    | opened result => exact wellFormed.device instruction member ⟨result⟩ fits
    | memoryConfig | unplaced => trivial

/-- The next instruction is lowered, or fails for reasons of its own. -/
theorem leads_instruction :
    Leads Plain (function.ReachedAfter m options earlier) (instruction.lower m)
      fun _ => function.ReachedAfter m options (earlier ++ [instruction]) := by
  have member : instruction ∈ function.body := by simp [split]
  have known {α : Type} {asked : Except ModuleError α} (found : ∃ type, asked = .ok type) :
      Rejects (fun inner => Plain (.program inner)) asked := by
    obtain ⟨type, rfl⟩ := found
    exact rejects_ok type
  have encodes : Rejects Plain (instruction.operation.record m) := by
    apply rejects_operation fun _ plain => plain
    · exact fun value uses => known (sorted.device instruction member value uses)
    · exact fun op opens => known (wellFormed.device instruction member op opens)
    · exact fun other value defines => known (sorted.result instruction member other value defines)
  have operation : Leads Plain (function.ReachedAfter m options earlier)
      (instruction.operation.lower m) fun _ _ => True := by
    apply leads_bind (leads_lift encodes fun state record reached encoded =>
      reached.linkable wellFormed split sorted encoded)
    intro record
    have links : Leads Plain (Reference.Linkable m options function.root (record.references ++ []))
        (record.mapM (Reference.link m)) fun _ => Reference.Linkable m options function.root [] :=
      Reference.leads_relates.mapM record []
    rw [List.append_nil] at links
    exact links.imp (fun _ linkable => linkable) fun _ _ _ => trivial
  have instruction : Leads Plain (function.ReachedAfter m options earlier) (instruction.lower m)
      fun _ _ => True :=
    leads_bind operation fun record => leads_pure fun _ _ => trivial
  exact instruction.and_then fun before entry after reached run =>
    reached.next wellFormed split run

end

/-! ### Whole functions -/

/-- A returned value is found where its aliases lead. -/
theorem leads_returned {m : Module} {options : LoweringOptions} {function : Function}
    (wellFormed : function.WellFormed m) (sorted : function.WellSorted m) {value : ValueId}
    (member : value ∈ function.returns) :
    Leads Plain (function.ReachedAfter m options function.body) (Lowering.tensor value)
      fun _ => function.ReachedAfter m options function.body := by
  intro before outcome after reached run
  obtain ⟨type, typed⟩ := sorted.returned value member
  obtain ⟨handle, found⟩ := reached.present value (wellFormed.returned value member) _
    (Module.tensorType_eq_ok_iff.mp typed)
  have leads : before.aliases.resolve value = function.root value := by
    rw [reached.aliases, resolve_aliasesAfter_body wellFormed]
  rw [← leads] at found
  obtain ⟨rfl, rfl⟩ := run.unique (Lowering.runs_shared_ok.mpr ⟨found, rfl⟩)
  exact ⟨fun _ _ => reached, nofun⟩

/-- A well-sorted function is lowered, or fails for reasons of its own. -/
theorem leads_function {m : Module} {options : LoweringOptions} {function : Function}
    (wellFormed : function.WellFormed m) (sorted : function.WellSorted m) (debugInfo : Handle) :
    Leads Plain (fun state => state.interner.Sound m options) (function.lower m debugInfo)
      fun _ state => state.interner.Sound m options := by
  have cleared : Leads Plain (fun state => state.interner.Sound m options) Lowering.clearAliases
      fun _ => function.Reached m options [] [] := by
    apply leads_of_fails (fails_modify _)
    intro before _ after sound run
    obtain ⟨_, rfl⟩ := runs_modify.mp run
    exact ⟨sound, rfl, nofun⟩
  have body : Leads Plain (function.ReachedAfter m options [])
      (function.body.mapM (Instruction.lower m))
      fun _ => function.ReachedAfter m options function.body :=
    leads_mapM fun _ _ _ split => leads_instruction wellFormed split sorted
  have returned : Leads Plain (function.ReachedAfter m options function.body)
      (function.returns.mapM Lowering.tensor)
      fun _ => function.ReachedAfter m options function.body :=
    leads_mapM_of_forall fun _ member => leads_returned wellFormed sorted member
  rw [Function.lower]
  apply leads_bind cleared
  intro _
  apply leads_bind (leads_arguments wellFormed)
  intro arguments
  apply leads_bind body
  intro operations
  apply leads_bind returned
  intro outputs
  exact leads_pure fun _ reached => reached.sound

/-! ## Modules -/

section

variable {m : Module} {options : LoweringOptions}

/-- The tables and programs of a well-sorted module are made, or what fails has reasons of
its own. -/
theorem Module.WellFormed.rejects_binary_plain (wellFormed : m.WellFormed) (sorted : m.WellSorted) :
    Rejects Plain (m.binary options) := by
  have debug : Leads Plain (fun state => state.interner.Sound m options)
      (Lowering.interning (Interning.intern .debugInfos .debugInfo
        (pure (options.debugRecord m.text))))
      fun _ state => state.interner.Sound m options := by
    apply leads_of_fails (Lowering.fails_interning (Interning.fails_intern (fails_pure _)))
    intro before handle after sound run
    have advances : Keeps (LoweringState.Advances m options) (Lowering.interning
        (Interning.intern .debugInfos .debugInfo (pure (options.debugRecord m.text)))) :=
      Lowering.advances_interning advances_debugInfo
    exact (advances before _ after run).2 sound
  have functions : Leads Plain (fun state => state.interner.Sound m options)
      (m.lowerFunctions options) fun _ state => state.interner.Sound m options := by
    rw [Module.lowerFunctions]
    apply leads_bind debug
    intro debugInfo
    apply leads_mapM_of_forall
    intro function member
    exact leads_function (wellFormed.function function member) (sorted function member) debugInfo
  rw [Module.binary]
  apply rejects_bind
  · intro error failed
    have run : Runs (m.lowerFunctions options) {} (.error error)
        ((m.lowerFunctions options).run {}).2 := Prod.ext failed rfl
    exact (functions {} _ _ sound_empty run).2 error rfl
  · intro programs
    exact rejects_bind (rejects_system m.system) fun system => rejects_ok _

/-- However a module is built, as long as its values are of the sorts that their positions
call for, its lowering never fails for want of a row and never blames a value. -/
theorem Module.Built.lower_ne_notBuilt_and_ne_program (built : m.Built) (sorted : m.WellSorted)
    (options : LoweringOptions) :
    (∀ key table, m.lower options ≠ .error (.notBuilt key table)) ∧
      ∀ inner, m.lower options ≠ .error (.program inner) := by
  have verifies {α : Type} (outcome : Except ArtifactError α) :
      Rejects (fun error => error.Plain ∨ ∃ rejected, error = .verification rejected)
        (outcome.mapError LoweringError.verification) :=
    rejects_mapError fun rejected _ => Or.inr ⟨rejected, rfl⟩
  have fails : Rejects (fun error => error.Plain ∨ ∃ rejected, error = .verification rejected)
      (m.lower options) := by
    have plain : Rejects Plain (m.binary options) := built.wellFormed.rejects_binary_plain sorted
    rw [Module.lower]
    apply rejects_bind (plain.imp fun _ => Or.inl)
    intro binary
    apply rejects_bind (verifies binary.toFrame)
    intro buffer
    exact rejects_bind (verifies (Binary.ofFrame buffer)) fun decoded => rejects_ok buffer
  constructor
  · exact fun key table failed => (fails _ failed).elim (fun plain => plain) nofun
  · exact fun inner failed => (fails _ failed).elim (fun plain => plain) nofun

end

/-! ## An example -/

theorem wellSorted_copyAbs (system : System) : (copyAbs system).WellSorted := by
  have only : (copyAbs system).functions =
      [(copyAbsDraft { system, target := (copyAbs system).target }).function [⟨3⟩]] := rfl
  have body : ((copyAbsDraft { system, target := (copyAbs system).target }).function [⟨3⟩]).body =
      [{ operation := .toDevice ⟨⟨0⟩, ⟨1⟩, some { banks := .interleaved, buffer := .dram }, ⟨2⟩⟩ },
        { operation := .elementwise (.into .abs [⟨0⟩] ⟨2⟩ ⟨3⟩) }] := rfl
  have input : ∃ type, (copyAbs system).tensorType ⟨0⟩ = .ok type := ⟨_, rfl⟩
  have device : ∃ type, (copyAbs system).deviceType ⟨1⟩ = .ok type := ⟨_, rfl⟩
  have copy : ∃ type, (copyAbs system).tensorType ⟨2⟩ = .ok type := ⟨_, rfl⟩
  have result : ∃ type, (copyAbs system).tensorType ⟨3⟩ = .ok type := ⟨_, rfl⟩
  rw [Module.WellSorted, only, List.forall_mem_singleton]
  constructor
  case tensor =>
    rw [body, List.forall_mem_cons, List.forall_mem_singleton]
    exact ⟨List.forall_mem_singleton.mpr input, List.forall_mem_cons.mpr
      ⟨input, List.forall_mem_singleton.mpr copy⟩⟩
  case device =>
    rw [body, List.forall_mem_cons, List.forall_mem_singleton]
    exact ⟨List.forall_mem_singleton.mpr device, nofun⟩
  case result =>
    rw [body, List.forall_mem_cons, List.forall_mem_singleton]
    exact ⟨fun _ => List.forall_mem_singleton.mpr copy,
      fun _ => List.forall_mem_singleton.mpr result⟩
  case returned => exact List.forall_mem_singleton.mpr result

theorem lower_ne_notBuilt_and_ne_program_copyAbs :
    (copyAbs .single).functions.map Function.name = ["copy_abs"] ∧ (copyAbs .single).Built ∧
      (copyAbs .single).WellSorted ∧
      (∀ key table, (copyAbs .single).lower {} ≠ .error (.notBuilt key table)) ∧
        ∀ inner, (copyAbs .single).lower {} ≠ .error (.program inner) :=
  ⟨names_copyAbs _, built_copyAbs _, wellSorted_copyAbs _,
    Module.Built.lower_ne_notBuilt_and_ne_program (built_copyAbs _) (wellSorted_copyAbs _) {}⟩

end Tilework
