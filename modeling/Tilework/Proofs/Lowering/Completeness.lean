import Tilework.Proofs.Artifact.WellFormed
import Tilework.Proofs.Lowering.Program

/-!
# Complete artifacts

A record that contains others may lack any of them once it has been read back.  An
artifact is complete when whatever lowering fills is there, wherever it occurs.

Verification looks for all of these parts except the cores at the ends of links between
chips, which are never examined.  An artifact that passes may therefore lack these cores,
and nothing else.  Lowering fills them too, so what it returns is complete.
-/

namespace Tilework

namespace Artifact

/-! ## Complete records -/

/-- Both ends of a link have a core. -/
@[mk_iff]
structure LinkRecord.Complete (link : LinkRecord) : Prop where
  firstCore : link.firstCore.isSome = true
  secondCore : link.secondCore.isSome = true

instance (link : LinkRecord) : Decidable link.Complete :=
  decidable_of_iff _ link.complete_iff.symm

/-- The chips of a system have grids, and its links are complete. -/
structure SystemRecord.Complete (system : SystemRecord) : Prop where
  grids : ∀ chip ∈ system.chips, chip.grid.isSome = true
  links : ∀ link ∈ system.links, link.Complete

/-- Debug information has a snapshot, and each entry for an expected tensor has one. -/
structure DebugRecord.Complete (debug : DebugRecord) : Prop where
  snapshot : debug.snapshot.isSome = true
  golden : ∀ golden ∈ debug.golden, ∀ entry ∈ golden.entries, entry.value.isSome = true

/-- Nothing is missing from the rows of the tables of shared records. -/
structure ObjectTables.Complete (objects : ObjectTables) : Prop where
  descriptions : ∀ tensor ∈ objects.tensors, tensor.description.isSome = true
  origins : ∀ layout ∈ objects.layouts, ∀ range ∈ layout.cores, range.origin.isSome = true
  sizes : ∀ layout ∈ objects.layouts, ∀ range ∈ layout.cores, range.size.isSome = true
  tileShapes : ∀ memory ∈ objects.memories, memory.tileShape.isSome = true
  debugInfos : ∀ debug ∈ objects.debugInfos, debug.Complete

/-- Nothing is missing from the record of an operation.  Records that are not listed have no
parts that could be missing. -/
def OperationRecord.Complete {ρ : Type} : OperationRecord ρ → Prop
  | getDevice op => op.mesh.isSome = true
  | empty op => ∃ strategy ∈ op.strategy, strategy.WellFormed
  | full op => ∃ strategy ∈ op.strategy, strategy.WellFormed
  | upsample op => op.scaleFactor.isSome = true
  | _ => True

/-- Nothing is missing from an artifact. -/
structure Binary.Complete (binary : Binary) : Prop where
  version : binary.version.isSome = true
  system : ∃ system ∈ binary.system, system.Complete
  objects : ∃ objects ∈ binary.objects, objects.Complete
  operations : ∀ program ∈ binary.programs, ∀ entry ∈ program.operations,
    ∃ record ∈ entry.record, record.Complete

/-! ## Verified artifacts -/

theorem DebugRecord.WellFormed.complete {debug : DebugRecord} (wellFormed : debug.WellFormed) :
    debug.Complete where
  snapshot := wellFormed.snapshot
  golden table given entry listed := by
    obtain ⟨golden, held, _⟩ := (wellFormed.golden table given entry listed).value
    exact Option.isSome_of_mem held

theorem ObjectTables.WellFormed.complete {objects : ObjectTables}
    (wellFormed : objects.WellFormed) : objects.Complete where
  descriptions tensor listed := by
    obtain ⟨description, held, _⟩ := (wellFormed.tensors tensor listed).description
    exact Option.isSome_of_mem held
  origins layout listed range member :=
    ((wellFormed.layouts layout listed).cores range member).origin
  sizes layout listed range member :=
    ((wellFormed.layouts layout listed).cores range member).size
  tileShapes memory listed := (wellFormed.memories memory listed).tileShape
  debugInfos debug listed := (wellFormed.debugInfos debug listed).complete

theorem OperationRecord.AttributesWellFormed.complete {ρ : Type} {record : OperationRecord ρ}
    (wellFormed : record.AttributesWellFormed) : record.Complete := by
  cases record with
  | empty op => exact wellFormed.2.2
  | getDevice op | full op | upsample op => exact wellFormed
  | _ => exact trivial

/-- An artifact that passes verification is complete as soon as the links of its system are. -/
theorem Binary.complete_of_verify {binary : Binary} (verified : binary.verify = .ok ())
    (links : ∀ system ∈ binary.system, ∀ link ∈ system.links, link.Complete) :
    binary.Complete := by
  have holds : Check.Hold binary.checks := forM_eq_ok_iff.mp verified
  simp only [Binary.checks, List.cons_append, Check.hold_cons, Check.hold_append,
    Check.hold_flatMap, Check.run_field_iff, Option.mem_toList, SystemRecord.hold_checks_iff,
    ObjectTables.hold_checks_iff, Program.hold_checks_iff] at holds
  obtain ⟨version, hasSystem, systems, hasObjects, tables⟩ := holds
  obtain ⟨system, systemGiven⟩ := Option.isSome_iff_exists.mp hasSystem
  obtain ⟨objects, objectsGiven⟩ := Option.isSome_iff_exists.mp hasObjects
  obtain ⟨rows, programs⟩ := tables objects objectsGiven
  have grids : ∀ chip ∈ system.chips, chip.grid.isSome = true :=
    fun chip listed => ((systems system systemGiven).chips chip listed).grid
  refine ⟨version, ⟨system, systemGiven, grids, links system systemGiven⟩,
    ⟨objects, objectsGiven, rows.complete⟩, ?_⟩
  intro program listed entry executed
  have inOrder := (programs program listed).operations entry executed
  obtain ⟨record, stored, wellFormed⟩ := inOrder.record
  exact ⟨record, stored, wellFormed.attributes.complete⟩

/-- The cores at the ends of links are all that an artifact may lack that passes
verification. -/
theorem Binary.complete_iff_of_verify {binary : Binary} (verified : binary.verify = .ok ()) :
    binary.Complete ↔ ∀ system ∈ binary.system, ∀ link ∈ system.links, link.Complete := by
  constructor
  · intro complete system given
    obtain ⟨other, found, complete⟩ := complete.system
    cases Option.mem_unique given found
    exact complete.links
  · exact complete_of_verify verified

/-- An artifact of a system that has one link. -/
def linked (link : LinkRecord) : Binary where
  version := some { minor := 3 }
  system := some { links := [link] }
  objects := some {}

theorem Binary.complete_iff_of_verify_linked :
    let binary := linked { firstCore := some { y := 1 }, secondCore := some { x := 1 } }
    binary.verify = .ok () ∧
      (binary.Complete ↔ ∀ system ∈ binary.system, ∀ link ∈ system.links, link.Complete) :=
  ⟨rfl, Binary.complete_iff_of_verify rfl⟩

/-- An artifact passes verification although neither end of its link has a core. -/
theorem verify_linked_and_not_complete :
    (linked {}).verify = .ok () ∧ ¬ (linked {}).Complete := by
  refine ⟨rfl, fun complete => ?_⟩
  obtain ⟨system, given, complete⟩ := complete.system
  cases given
  exact absurd (complete.links {} List.mem_cons_self) (by decide)

end Artifact

/-! ## Lowered artifacts -/

open Artifact

theorem ChipLink.complete_of_record {link : ChipLink} {record : LinkRecord}
    (described : link.record = .ok record) : record.Complete := by
  obtain ⟨firstCore, _, rest⟩ := bind_eq_ok_iff.mp described
  obtain ⟨secondCore, _, rest⟩ := bind_eq_ok_iff.mp rest
  cases rest
  exact ⟨rfl, rfl⟩

theorem System.complete_links_of_record {system : System} {record : SystemRecord}
    (described : system.record = .ok record) : ∀ link ∈ record.links, link.Complete := by
  obtain ⟨chips, _, rest⟩ := bind_eq_ok_iff.mp described
  obtain ⟨links, found, rest⟩ := bind_eq_ok_iff.mp rest
  cases rest
  intro link listed
  obtain ⟨source, _, described⟩ := exists_mem_zip_right (mapM_eq_ok_iff.mp found) listed
  exact ChipLink.complete_of_record described

/-- What is read back from the artifact of any module is complete. -/
theorem Module.complete_of_lower {m : Module} {options : LoweringOptions} {buffer : Bytes}
    (lowered : m.lower options = .ok buffer) :
    ∃ binary, Binary.ofFrame buffer = .ok binary ∧ binary.Complete := by
  obtain ⟨binary, assembled, framed, verified⟩ := Module.lower_eq_ok_iff.mp lowered
  obtain ⟨programs, system, _, described, built⟩ := Module.binary_eq_ok_iff.mp assembled
  refine ⟨binary.normalized, ofFrame_of_verified framed verified, ?_⟩
  refine Binary.complete_of_verify ((Binary.verify_normalized binary).trans verified) ?_
  intro other given
  have same : binary.normalized.system = some system := by rw [built]; rfl
  cases Option.some.inj (given.symm.trans same)
  exact System.complete_links_of_record described

end Tilework
