import Tilework.Proofs.Artifact.RoundTrip
import Tilework.Proofs.Lowering.Attributes
import Tilework.Proofs.Lowering.Structure

/-!
# Tags of operations

A kind of operation has a tag.  The record that an operation of the kind is lowered to has the
same tag, in whatever context it is lowered, and so does the field that holds the record in
written entries.  Within the two families a number in the record tells the members apart.
-/

namespace Tilework

open Artifact Wire

/-! ## Codes of records -/

namespace Artifact.OperationRecord

variable {ρ : Type}

theorem exists_of_code_elementwise {record : OperationRecord ρ} {kind : ElementwiseKind}
    (same : record.code = (OperationKind.elementwise kind).code) :
    ∃ op, record = .elementwise op ∧ op.kind = .of kind := by
  obtain ⟨_, number⟩ := Prod.mk.inj same
  cases record with
  | elementwise op => exact ⟨op, rfl, congrArg Coded.mk (Option.some.inj number)⟩
  | _ => cases same

theorem exists_of_code_reduction {record : OperationRecord ρ} {kind : ReductionKind}
    (same : record.code = (OperationKind.reduction kind).code) :
    ∃ op, record = .reduction op ∧ op.kind = .of kind := by
  obtain ⟨_, number⟩ := Prod.mk.inj same
  cases record with
  | reduction op => exact ⟨op, rfl, congrArg Coded.mk (Option.some.inj number)⟩
  | _ => cases same

end Artifact.OperationRecord

/-! ## Lowered operations -/

/-- An operation is lowered to a record in some context. -/
def Operation.LowersTo (m : Module) (operation : Operation) (linked : OperationRecord Handle) :
    Prop :=
  ∃ before after, Runs (operation.lower m) before (.ok linked) after

section

variable {m n : Module} {operation : Operation} {record : OperationRecord Reference}
  {linked other : OperationRecord Handle}

/-- Whatever a run chooses for the references of a record is one of all choices. -/
theorem chosen_of_runs : OperationRecord.Relates (Reference.link m)
    (OperationRecord.choices fun _ _ => True) fun steps values _ =>
      ∀ before value after, Runs steps before (.ok value) after → value ∈ values.run where
  pure value := by
    intro before result after run
    exact OperationRecord.mem_run_pure.mpr (Except.ok.inj (runs_pure.mp run).1.symm)
  bind firstChosen nextChosen := by
    intro before result after run
    obtain ⟨value, middle, ran, rest⟩ := runs_bind_ok.mp run
    exact OperationRecord.mem_run_bind.mpr
      ⟨value, firstChosen _ _ _ ran, nextChosen value _ _ _ rest⟩
  step _ _ _ _ _ := trivial

/-- Lowering fills the slots of the record of an operation, and changes nothing else. -/
theorem Operation.LowersTo.erased (lowered : operation.LowersTo m linked) :
    ∃ record, operation.record m = .ok record ∧ linked.erased = record.erased := by
  obtain ⟨before, after, run⟩ := lowered
  obtain ⟨record, middle, encoded, replaced⟩ := runs_bind_ok.mp run
  have chosen := chosen_of_runs.mapM record _ _ _ replaced
  exact ⟨record, (runs_lift.mp encoded).1.symm, (OperationRecord.filled_of_mem chosen).erased⟩

/-- What an operation is lowered to has the code of its kind. -/
theorem Operation.LowersTo.code (lowered : operation.LowersTo m linked) :
    ∃ kind, operation.kind? = some kind ∧ linked.code = kind.code := by
  obtain ⟨record, encoded, erased⟩ := lowered.erased
  obtain ⟨kind, known, code⟩ := Operation.code_of_record encoded
  refine ⟨kind, known, ?_⟩
  rw [← linked.code_erased, erased, OperationRecord.code_erased, code]

theorem Operation.LowersTo.exists_elementwise {op : Operation.Elementwise}
    (lowered : (Operation.elementwise op).LowersTo m linked) :
    ∃ record, linked = .elementwise record ∧ record.kind = .of op.kind := by
  obtain ⟨_, ⟨⟩, code⟩ := lowered.code
  exact OperationRecord.exists_of_code_elementwise code

theorem Operation.LowersTo.exists_reduction {op : Operation.Reduction}
    (lowered : (Operation.reduction op).LowersTo m linked) :
    ∃ record, linked = .reduction record ∧ record.kind = .of op.kind := by
  obtain ⟨_, ⟨⟩, code⟩ := lowered.code
  exact OperationRecord.exists_of_code_reduction code

end

/-! ## Written entries -/

/-- A single member writes a record: the one whose number is the tag of the record. -/
theorem Artifact.OperationRecord.exists_memberTokens (record : OperationRecord Handle) :
    ∃ content, memberTokens members record = [⟨record.tag, .bytes content⟩] := by
  cases record <;> exact ⟨_, rfl⟩

/-- Reading a record back keeps its variant. -/
theorem Artifact.OperationRecord.ctorIdx_normalized (record : OperationRecord Handle) :
    record.normalized.ctorIdx = record.ctorIdx := by
  cases record <;> rfl

/-- The entry of a record, with the text and the location of its operation. -/
def Artifact.OperationRecord.entry (record : OperationRecord Handle)
    (debugText locationText : String) : OperationEntry :=
  { record := some record, debugText, locationText }

/-- What is written for an entry begins with the key of a message whose field number is the tag of
the record. -/
theorem Artifact.OperationRecord.key_prefix (record : OperationRecord Handle)
    (debugText locationText : String) :
    Varint.encode (UInt64.ofNat (8 * record.tag + 2)) <+:
      Message.encode (record.entry debugText locationText) := by
  obtain ⟨content, written⟩ := record.exists_memberTokens
  have tokens : ∃ later, Message.tokens (record.entry debugText locationText) =
      (memberTokens members record ++ []) ++ later := ⟨_, rfl⟩
  obtain ⟨later, tokens⟩ := tokens
  rw [Message.encode, tokens, written, List.append_nil, List.singleton_append, List.flatMap_cons]
  simp only [Token.bytes, keyBytes, List.append_assoc]
  exact List.prefix_append _ _

/-- An entry is read back with a record of the same variant.  The bound is one that every byte
string in memory keeps. -/
theorem Artifact.OperationRecord.decode?_encode_entry (record : OperationRecord Handle)
    (debugText locationText : String)
    (short : (Message.encode (record.entry debugText locationText)).length < UInt64.size) :
    ∃ read : OperationRecord Handle,
      Message.decode? (Message.encode (record.entry debugText locationText)) =
        some (read.entry debugText locationText) ∧ read.ctorIdx = record.ctorIdx := by
  refine ⟨record.normalized, ?_, record.ctorIdx_normalized⟩
  rw [decode?_encode _ (by decide +kernel) short, join_operationEntry]
  rfl

/-! ## Agreement -/

/-- What an operation is lowered to has the tag of its kind.  Its entry begins with the key for
this tag, whatever the texts in it, and is read back with a record of the same variant.  Records of
elementwise operations, or of reductions, have the same number only if the kinds are the same. -/
theorem tags_agree :
    (∀ (m : Module) (operation : Operation) (linked : OperationRecord Handle),
      operation.LowersTo m linked →
        ∃ kind, operation.kind? = some kind ∧ linked.tag = kind.tag ∧
          ∀ debugText locationText,
            Varint.encode (UInt64.ofNat (8 * linked.tag + 2)) <+:
              Message.encode (linked.entry debugText locationText) ∧
            ((Message.encode (linked.entry debugText locationText)).length < UInt64.size →
              ∃ read : OperationRecord Handle,
                Message.decode? (Message.encode (linked.entry debugText locationText)) =
                  some (read.entry debugText locationText) ∧ read.ctorIdx = linked.ctorIdx)) ∧
      (∀ (m n : Module) (first second : Operation.Elementwise)
        (linked other : OperationRecord Handle),
        (Operation.elementwise first).LowersTo m linked →
          (Operation.elementwise second).LowersTo n other →
            ∃ a b, linked = .elementwise a ∧ other = .elementwise b ∧
              (a.kind.number = b.kind.number ↔ first.kind = second.kind)) ∧
      ∀ (m n : Module) (first second : Operation.Reduction)
        (linked other : OperationRecord Handle),
        (Operation.reduction first).LowersTo m linked →
          (Operation.reduction second).LowersTo n other →
            ∃ a b, linked = .reduction a ∧ other = .reduction b ∧
              (a.kind.number = b.kind.number ↔ first.kind = second.kind) := by
  have numbers {ε : Type} (a b : Coded ε) : a.number = b.number ↔ a = b :=
    ⟨congrArg Coded.mk, congrArg Coded.number⟩
  refine ⟨?tags, ?elementwise, ?reduction⟩
  case tags =>
    intro m operation linked lowered
    obtain ⟨kind, known, code⟩ := lowered.code
    exact ⟨kind, known, congrArg Prod.fst code, fun debugText locationText =>
      ⟨linked.key_prefix debugText locationText,
        linked.decode?_encode_entry debugText locationText⟩⟩
  case elementwise =>
    intro m n first second linked other lowered otherLowered
    obtain ⟨a, shape, kind⟩ := lowered.exists_elementwise
    obtain ⟨b, otherShape, otherKind⟩ := otherLowered.exists_elementwise
    refine ⟨a, b, shape, otherShape, ?_⟩
    rw [numbers, kind, otherKind, Coded.of_inj]
  case reduction =>
    intro m n first second linked other lowered otherLowered
    obtain ⟨a, shape, kind⟩ := lowered.exists_reduction
    obtain ⟨b, otherShape, otherKind⟩ := otherLowered.exists_reduction
    refine ⟨a, b, shape, otherShape, ?_⟩
    rw [numbers, kind, otherKind, Coded.of_inj]

/-! ### A tensor in place -/

/-- The state of a context that has made the tensor `0` of a range. -/
def rangeMade : LoweringState :=
  (((Reference.allocated ⟨0⟩).link (rangeModule 1)).run {}).2

/-- An elementwise operation that replaces the tensor `0`. -/
def applyTo (kind : ElementwiseKind) : Operation.Elementwise :=
  .into kind [⟨0⟩] ⟨0⟩ ⟨0⟩

/-- A reduction over all dimensions of the tensor `0`. -/
def reduceWith (kind : ReductionKind) : Operation.Reduction :=
  { kind, input := ⟨0⟩, dims := none, keepDim := true, result := ⟨0⟩ }

/-- An upsampling of the tensor `0`, whose kind has the greatest tag. -/
def upsampleOnce : Operation.Upsample :=
  { input := ⟨0⟩, scaleFactor := .uniform 1, mode := "nearest", memoryConfig := none
    result := ⟨0⟩ }

theorem tags_agree_rangeModule :
    (∃ linked, (Operation.upsample upsampleOnce).LowersTo (rangeModule 1) linked ∧
      linked.tag = 39 ∧ Varint.encode 314 <+: Message.encode (linked.entry "%1" "-") ∧
      ∃ read : OperationRecord Handle, Message.decode? (Message.encode (linked.entry "%1" "-")) =
        some (read.entry "%1" "-") ∧ read.ctorIdx = linked.ctorIdx) ∧
      (∃ a b, (Operation.elementwise (applyTo .exp)).LowersTo (rangeModule 1) (.elementwise a) ∧
        (Operation.elementwise (applyTo .expm1)).LowersTo (rangeModule 1) (.elementwise b) ∧
          a.kind.number ≠ b.kind.number) ∧
      ∃ a b, (Operation.reduction (reduceWith .max)).LowersTo (rangeModule 1) (.reduction a) ∧
        (Operation.reduction (reduceWith .min)).LowersTo (rangeModule 1) (.reduction b) ∧
          a.kind.number ≠ b.kind.number := by
  refine ⟨?tags, ?elementwise, ?reduction⟩
  case tags =>
    have lowered : (Operation.upsample upsampleOnce).LowersTo (rangeModule 1)
        (.upsample
          { input := 0
            scaleFactor := some (.uniform ⟨1⟩)
            mode := "nearest"
            memoryConfig := none
            out := 0 }) := ⟨rangeMade, _, Prod.ext rfl rfl⟩
    obtain ⟨_, _, tag, wire⟩ := tags_agree.1 _ _ _ lowered
    obtain ⟨key, read⟩ := wire "%1" "-"
    exact ⟨_, lowered, rfl, key, read (by decide +kernel)⟩
  case elementwise =>
    have lowered : (Operation.elementwise (applyTo .exp)).LowersTo (rangeModule 1)
        (.elementwise { kind := .of .exp, inputs := [0], out := 0, parameters := none }) :=
      ⟨rangeMade, _, Prod.ext rfl rfl⟩
    have otherLowered : (Operation.elementwise (applyTo .expm1)).LowersTo (rangeModule 1)
        (.elementwise { kind := .of .expm1, inputs := [0], out := 0, parameters := none }) :=
      ⟨rangeMade, _, Prod.ext rfl rfl⟩
    obtain ⟨a, b, shape, otherShape, same⟩ := tags_agree.2.1 _ _ _ _ _ _ lowered otherLowered
    rw [shape] at lowered
    rw [otherShape] at otherLowered
    exact ⟨a, b, lowered, otherLowered, fun equal => nomatch same.mp equal⟩
  case reduction =>
    have lowered : (Operation.reduction (reduceWith .max)).LowersTo (rangeModule 1)
        (.reduction { kind := .of .max, input := 0, out := 0, dims := [], keepDim := true }) :=
      ⟨rangeMade, _, Prod.ext rfl rfl⟩
    have otherLowered : (Operation.reduction (reduceWith .min)).LowersTo (rangeModule 1)
        (.reduction { kind := .of .min, input := 0, out := 0, dims := [], keepDim := true }) :=
      ⟨rangeMade, _, Prod.ext rfl rfl⟩
    obtain ⟨a, b, shape, otherShape, same⟩ := tags_agree.2.2 _ _ _ _ _ _ lowered otherLowered
    rw [shape] at lowered
    rw [otherShape] at otherLowered
    exact ⟨a, b, lowered, otherLowered, fun equal => nomatch same.mp equal⟩

end Tilework
