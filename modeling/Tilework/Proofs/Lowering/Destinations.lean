import Tilework.Proofs.Lowering.Attributes

/-!
# Destinations

An operation that writes into a tensor names it as its last operand, and defines a single
result.  Its record holds the tensor in the place of its result, so whoever checks operands
before results has checked every tensor that is written into.  Every other result has a
tensor of its own.
-/

namespace Tilework

open Artifact Interner

/-! ## Outputs of records -/

namespace Artifact.OperationRecord

variable {ρ τ : Type} {g : ρ → Option τ} {record : OperationRecord ρ}
  {linked : OperationRecord τ} {reference : ρ}

/-- What a record holds for the tensor that its operation produces. -/
def outs (record : OperationRecord ρ) : List ρ :=
  (record.slots.filter fun slot => slot.1 = .result).map Prod.snd

theorem mem_outs_iff : reference ∈ record.outs ↔ (Role.result, reference) ∈ record.slots := by
  simp [outs]

theorem outs_of_mapM (replaced : record.mapM g = some linked) :
    List.Forall₂ (fun reference value => g reference = some value) record.outs linked.outs := by
  rw [outs, outs, List.forall₂_map_left_iff, List.forall₂_map_right_iff]
  refine (List.rel_filter ?_ (slots_of_mapM replaced)).imp fun _ _ => And.right
  rintro slot other ⟨role, _⟩
  simp only [role]

end Artifact.OperationRecord

/-! ## Operations -/

namespace Operation

variable {m : Module} {operation : Operation} {destination result : ValueId}
  {record : OperationRecord Reference}

/-- The tensor that an operation writes into is its last operand. -/
theorem getLast?_operands (written : operation.destination = some destination) :
    operation.operands.getLast? = some destination := by
  have written : operation.signature.destination = some destination := written
  simp [operands, written]

theorem ne_getDevice_of_destination (written : operation.destination = some destination)
    (op : GetDevice) : operation ≠ .getDevice op := by
  rintro rfl
  cases written

/-- Except for a device that is opened, every result of an operation is an output of its
record. -/
theorem length_outs_of_record (encoded : operation.record m = .ok record)
    (places : ∀ op, operation ≠ .getDevice op) :
    record.outs.length = operation.results.length := by
  cases operation with
  | unregistered op => cases encoded
  | getDevice op => exact absurd rfl (places op)
  | _ op =>
      first
      | obtain ⟨inner, found, rfl⟩ := map_eq_ok_iff.mp encoded
        first
        | rw [OperationRecord.outs, slots_empty found]
        | rw [OperationRecord.outs, slots_full found]
        | rw [OperationRecord.outs, slots_meshShard found]
      | cases encoded
        rw [OperationRecord.outs]
      simp [OperationRecord.slots, OperationRecord.slotsFor, List.filter_map, Function.comp_def,
        Conversion.record, ConstantFill.record, results, signature]

/-- The one output of a linked record is the tensor at the root of the result where the
operation writes into a tensor, and a tensor of the result otherwise. -/
theorem exists_out_of_mapM {interner : Interner} {root : ValueId → ValueId}
    {linked : OperationRecord Handle} (encoded : operation.record m = .ok record)
    (replaced : record.mapM (Reference.handleIn interner root) = some linked)
    (places : ∀ op, operation ≠ .getDevice op) (defines : operation.results = [result]) :
    ∃ handle, linked.outs = [handle] ∧
      ((∃ destination, operation.destination = some destination) ∧
          interner.handle? .tensors (.value (root result)) = some handle ∨
        operation.destination = none ∧
          interner.handle? .tensors (.value result) = some handle) := by
  have single := length_outs_of_record encoded places
  rw [defines] at single
  obtain ⟨out, only⟩ := List.length_eq_one_iff.mp single
  have slot : (Role.result, out) ∈ record.slots := OperationRecord.mem_outs_iff.mp (by simp [only])
  have each := OperationRecord.outs_of_mapM replaced
  rw [only, List.forall₂_cons_left_iff] at each
  obtain ⟨handle, later, found, nothing, whole⟩ := each
  rw [List.forall₂_nil_left_iff] at nothing
  subst nothing
  refine ⟨handle, whole, ?_⟩
  cases fits_of_record encoded _ slot with
  | @written output other given defined =>
      rw [defines] at defined
      cases defined
      exact Or.inl ⟨⟨output, given⟩, found⟩
  | @allocated other placed defined =>
      rw [defines] at defined
      cases defined
      exact Or.inr ⟨placed, found⟩
  | unplaced name => cases found

end Operation

/-! ## Functions -/

/-- Lower the arguments of a function and the first of its instructions. -/
def Function.lowerUpTo (m : Module) (function : Function) (body : List Instruction) :
    Lowering (List (Option Handle) × List OperationEntry) := do
  Lowering.clearAliases
  let arguments ← function.arguments.mapM m.lowerArgument
  let operations ← body.mapM (Instruction.lower m)
  pure (arguments, operations)

/-- Lower the other instructions and the returned values of a function. -/
def Function.lowerFrom (m : Module) (function : Function) (debugInfo : Handle)
    (body : List Instruction) (lowered : List (Option Handle) × List OperationEntry) :
    Lowering Program := do
  let operations ← body.mapM (Instruction.lower m)
  let outputs ← function.returns.mapM Lowering.tensor
  pure
    { name := function.name
      inputs := lowered.1.reduceOption
      outputs
      operations := lowered.2 ++ operations
      debugInfo }

section

variable {m : Module} {options : LoweringOptions} {function : Function}
  {earlier later : List Instruction} {start before : LoweringState}
  {lowered : List (Option Handle) × List OperationEntry}

theorem Function.lower_eq_bind (split : function.body = earlier ++ later) (debugInfo : Handle) :
    function.lower m debugInfo =
      function.lowerUpTo m earlier >>= function.lowerFrom m debugInfo later := by
  simp [Function.lower, lowerUpTo, lowerFrom, split, List.mapM_append]

/-- Lowering the first instructions of a function leaves their aliases behind. -/
theorem aliases_of_runs_lowerUpTo (wellFormed : function.WellFormed m)
    (split : function.body = earlier ++ later)
    (run : Runs (function.lowerUpTo m earlier) start (.ok lowered) before) :
    before.aliases = aliasesAfter earlier := by
  rcases runs_bind_ok.mp run with ⟨_, cleared, clears, afterClear⟩
  rcases runs_modify.mp clears with ⟨_, rfl⟩
  rcases runs_bind_ok.mp afterClear with ⟨given, ready, arguments, afterArguments⟩
  rcases runs_bind_ok.mp afterArguments with ⟨operations, last, body, done⟩
  rcases runs_pure.mp done with ⟨_, rfl⟩
  have unaliased : ready.aliases = aliasesAfter [] :=
    (@linked_of_runs_arguments m _ ready {} _ _ arguments).1
  exact (@linked_of_runs_body m function ready before {} wellFormed [] _ _ split _ unaliased body).1

theorem advances_lowerUpTo (earlier : List Instruction) :
    Keeps (LoweringState.Advances m options) (function.lowerUpTo m earlier) := by
  have cleared : Keeps (LoweringState.Advances m options) Lowering.clearAliases :=
    Lowering.advances_modify fun _ => rfl
  refine keeps_bind cleared fun _ => ?_
  refine keeps_bind (closed_advances.mapM closed_advances.argument _) fun arguments => ?_
  exact keeps_bind (closed_advances.mapM closed_advances.instruction _) fun operations =>
    keeps_pure _

/-- An operation whose result is a tensor does not open a device. -/
theorem ne_getDevice_of_tensorType (wellFormed : function.WellFormed m) {instruction : Instruction}
    (inside : instruction ∈ function.body) {result : ValueId} {type : TensorType}
    (defines : instruction.operation.results = [result]) (typed : m.tensorType result = .ok type)
    (op : Operation.GetDevice) : instruction.operation ≠ .getDevice op := by
  intro opens
  obtain ⟨device, isDevice⟩ := wellFormed.device instruction inside op opens
  rw [opens] at defines
  cases defines
  rw [Module.deviceType_eq_ok_iff] at isDevice
  rw [Module.tensorType_eq_ok_iff, isDevice] at typed
  cases typed

/-- What is linked for an instruction can be read off the tables at that time. -/
theorem linked_of_runs_lower (wellFormed : function.WellFormed m) {instruction : Instruction}
    (split : function.body = earlier ++ instruction :: later)
    (sound : start.interner.Sound m options)
    {after : LoweringState} {linked : OperationRecord Handle}
    (ran : Runs (function.lowerUpTo m earlier) start (.ok lowered) before)
    (run : Runs (instruction.operation.lower m) before (.ok linked) after) :
    before.aliases = aliasesAfter earlier ∧
      after.aliases = aliasesAfter (earlier ++ [instruction]) ∧
      ∃ record, instruction.operation.record m = .ok record ∧
        record.mapM (Reference.handleIn after.interner function.root) = some linked := by
  have aliases := aliases_of_runs_lowerUpTo wellFormed split ran
  obtain ⟨aliasesNext, record, encoded, reads⟩ := record_of_runs_lower wellFormed split aliases run
  have soundBefore := (advances_lowerUpTo earlier _ _ _ ran).2 sound
  have distinct := ((closed_advances.operation _ _ _ _ run).2 soundBefore).distinct
  exact ⟨aliases, aliasesNext, record, encoded, reads after.interner (Std.Refl.refl _) distinct⟩

/-- The one output of a record is the tensor of a value. -/
def LoweringState.Outputs (state : LoweringState) (linked : OperationRecord Handle)
    (value : ValueId) : Prop :=
  ∃ handle, linked.outs = [handle] ∧
    state.interner.handle? .tensors (.value value) = some handle

/-- The last operand of an operation is the tensor that it writes into, which shares its tensor
with the one result, has its type and is defined before.  While a function is lowered, the output
of the record is the tensor at the end of the aliases of this operand; where there is none, the
output is a tensor of the result. -/
theorem Module.Built.outputs_of_runs (built : m.Built) (member : function ∈ m.functions)
    (reached : start.Reached m options) :
    (∀ operation destination, Operation.destination operation = some destination →
      (∃ result, operation.results = [result]) ∧
        operation.operands.getLast? = some destination) ∧
    (∀ earlier later, function.body = earlier ++ later → ∀ debugInfo,
      function.lower m debugInfo =
        function.lowerUpTo m earlier >>= function.lowerFrom m debugInfo later) ∧
    ∀ earlier instruction later, function.body = earlier ++ instruction :: later →
      ∀ lowered before linked after,
        Runs (function.lowerUpTo m earlier) start (.ok lowered) before →
        Runs (instruction.operation.lower m) before (.ok linked) after →
        ∀ result, instruction.operation.results = [result] →
          (∀ destination, instruction.operation.destination = some destination →
            destination ∈ function.arguments ++ resultsOf earlier ∧
            (∃ type, m.valueType destination = .ok type ∧ m.valueType result = .ok type) ∧
            after.aliases.resolve destination = before.aliases.resolve destination ∧
            after.Outputs linked (after.aliases.resolve destination)) ∧
          (instruction.operation.destination = none → (∃ type, m.tensorType result = .ok type) →
            after.Outputs linked result) := by
  refine ⟨fun operation destination written => ?_, fun earlier later split => ?_, ?_⟩
  · exact ⟨Operation.exists_results_eq written, Operation.getLast?_operands written⟩
  · exact Function.lower_eq_bind split
  intro earlier instruction later split lowered before linked after ran run result defines
  have wellFormed := built.wellFormed.function function member
  have inside : instruction ∈ function.body := by simp [split]
  have whole : function.body = (earlier ++ [instruction]) ++ later := by simp [split]
  obtain ⟨aliasesEarlier, aliasesNext, record, encoded, replaced⟩ :=
    linked_of_runs_lower wellFormed split reached.sound ran run
  constructor
  · intro destination written
    have known := wellFormed.ordered earlier instruction later split destination
      (Operation.destination_mem written)
    have knownAfter : destination ∈ function.arguments ++ resultsOf (earlier ++ [instruction]) := by
      rw [resultsOf, List.flatMap_append, ← List.append_assoc]
      exact List.mem_append_left _ known
    rw [aliasesEarlier, aliasesNext, resolve_aliasesAfter_of_known wellFormed split known,
      resolve_aliasesAfter_of_known wellFormed whole knownAfter]
    refine ⟨known, wellFormed.destination instruction inside destination result written defines,
      rfl, ?_⟩
    obtain ⟨handle, only, ⟨_, found⟩ | ⟨placed, _⟩⟩ := Operation.exists_out_of_mapM encoded replaced
      (Operation.ne_getDevice_of_destination written) defines
    · have shared := root_of_destination wellFormed inside written (by simp [defines] : result ∈ _)
      rw [← shared]
      exact ⟨handle, only, found⟩
    · rw [written] at placed
      cases placed
  · rintro placed ⟨type, typed⟩
    obtain ⟨handle, only, ⟨⟨destination, written⟩, _⟩ | ⟨_, found⟩⟩ :=
      Operation.exists_out_of_mapM encoded replaced
        (ne_getDevice_of_tensorType wellFormed inside defines typed) defines
    · rw [written] at placed
      cases placed
    · exact ⟨handle, only, found⟩

end

/-- The second operation of `copyAbs` writes into the result of the first. -/
theorem outputs_of_runs_copyAbs :
    ∃ function ∈ (copyAbs .single).functions, ∃ copy abs, function.body = [copy, abs] ∧
      abs.operation.destination = some ⟨2⟩ ∧ abs.operation.results = [⟨3⟩] ∧
      (copyAbs .single).Built ∧ LoweringState.Reached (copyAbs .single) {} {} ∧
      ∃ lowered before linked after,
        Runs (function.lowerUpTo (copyAbs .single) [copy]) {} (.ok lowered) before ∧
        Runs (abs.operation.lower (copyAbs .single)) before (.ok linked) after ∧
        after.Outputs linked (after.aliases.resolve ⟨2⟩) := by
  have ran : ∃ lowered before linked after,
      Runs (((copyAbsDraft { system := .single, target := (copyAbs .single).target }).function
        [⟨3⟩]).lowerUpTo (copyAbs .single)
          [{ operation := .toDevice ⟨⟨0⟩, ⟨1⟩, some { banks := .interleaved, buffer := .dram },
            ⟨2⟩⟩ }]) {} (.ok lowered) before ∧
      Runs ((Operation.elementwise (.into .abs [⟨0⟩] ⟨2⟩ ⟨3⟩)).lower (copyAbs .single)) before
        (.ok linked) after :=
    ⟨_, _, _, _, rfl, rfl⟩
  obtain ⟨lowered, before, linked, after, first, second⟩ := ran
  have built := built_copyAbs .single
  have reached : LoweringState.Reached (copyAbs .single) {} {} := .empty
  have outputs := (built.outputs_of_runs List.mem_cons_self reached).2.2 [_] _ [] rfl lowered before
    linked after first second ⟨3⟩ rfl
  exact ⟨_, List.mem_cons_self, _, _, rfl, rfl, rfl, built, reached, lowered, before, linked, after,
    first, second, (outputs.1 ⟨2⟩ rfl).2.2.2⟩

end Tilework
