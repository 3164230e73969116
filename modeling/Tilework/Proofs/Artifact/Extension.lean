import Tilework.Proofs.Artifact.Framing
import Tilework.Proofs.Wire.Length

/-!
# Artifacts that extend others

An artifact extends another one when nothing in the other has to be renumbered: its programs
and the rows of its tables come first, in the same order, and only the text of the module in
its debug information may differ.  When that text is no longer either, whatever fits in a
frame still does.
-/

namespace Tilework.Artifact

open Wire

/-! ## Extensions -/

/-- Debug information without the text of the module. -/
def DebugRecord.withoutSource (debug : DebugRecord) : DebugRecord :=
  { debug with snapshot := debug.snapshot.map fun snapshot => { snapshot with source := "" } }

/-- Tables that start with the rows of other tables.  Rows of debug information may differ in
the text of the module. -/
structure ObjectTables.Extends (later tables : ObjectTables) : Prop where
  records : ∀ table, table ≠ .debugInfos → tables.records table <+: later.records table
  debugInfos : tables.debugInfos.map DebugRecord.withoutSource =
    later.debugInfos.map DebugRecord.withoutSource

/-- An artifact with the programs and the rows of another one, none of which is renumbered,
for the same system and of the same origin. -/
structure Binary.Extends (later binary : Binary) : Prop where
  programs : binary.programs <+: later.programs
  objects : ∃ tables laterTables, binary.objects = some tables ∧
    later.objects = some laterTables ∧ laterTables.Extends tables
  version : binary.version = later.version
  buildIdentity : binary.buildIdentity = later.buildIdentity
  system : binary.system = later.system

/-- Reading both artifacts back changes nothing. -/
theorem Binary.Extends.normalized {binary later : Binary} (extended : later.Extends binary) :
    later.normalized.Extends binary.normalized :=
  ⟨extended.programs.map _, extended.objects, extended.version, extended.buildIdentity,
    extended.system⟩

/-! ## Lengths -/

theorem noLonger_objects {tables later : ObjectTables} (extended : later.Extends tables)
    (debugInfos : Component.NoLonger tables.debugInfos later.debugInfos) :
    NoLonger (Message.encode tables) (Message.encode later) := by
  have records (table : Table) (different : table ≠ .debugInfos) :
      Component.NoLonger (tables.records table) (later.records table) :=
    Component.noLonger_of_prefix (extended.records table different)
  apply noLonger_encode
  simp only [Message.fields, List.forall_mem_cons]
  exact ⟨records .tensors nofun 1, records .devices nofun 2, records .layouts nofun 3,
    records .memories nofun 4, records .memoryConfigs nofun 5, records .shards nofun 6,
    debugInfos 7, nofun⟩

theorem noLonger_binary {binary later : Binary} (extended : later.Extends binary)
    (debugInfos : ∀ tables laterTables, binary.objects = some tables →
      later.objects = some laterTables →
        Component.NoLonger tables.debugInfos laterTables.debugInfos) :
    NoLonger (Message.encode binary) (Message.encode later) := by
  obtain ⟨tables, laterTables, stored, storedLater, extendedTables⟩ := extended.objects
  have objects : Component.NoLonger binary.objects later.objects := by
    rw [stored, storedLater]
    exact Component.noLonger_some
      (noLonger_objects extendedTables (debugInfos tables laterTables stored storedLater))
  apply noLonger_encode
  simp only [Message.fields, List.forall_mem_cons]
  exact ⟨Component.noLonger_of_eq extended.version 1,
    Component.noLonger_of_eq extended.buildIdentity 2,
    Component.noLonger_of_eq extended.system 3, objects 4,
    Component.noLonger_of_prefix extended.programs 5, nofun⟩

/-- An artifact can be framed when one that extends it can, and its own debug information is
no longer. -/
theorem Binary.Extends.exists_toFrame {binary later : Binary} {buffer : Bytes}
    (extended : later.Extends binary)
    (debugInfos : ∀ tables laterTables, binary.objects = some tables →
      later.objects = some laterTables →
        Component.NoLonger tables.debugInfos laterTables.debugInfos)
    (framed : later.toFrame = .ok buffer) : ∃ earlier, binary.toFrame = .ok earlier := by
  have fits := (toFrame_eq_ok_iff.mp framed).1
  have short : (Message.encode later).length < UInt64.size := by
    simp only [UInt32.size, UInt64.size] at fits ⊢
    omega
  have le := noLonger_binary extended debugInfos short
  exact ⟨_, toFrame_eq_ok_iff.mpr ⟨by omega, rfl⟩⟩

end Tilework.Artifact
