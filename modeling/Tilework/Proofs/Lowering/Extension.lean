import Tilework.Proofs.Artifact.Extension
import Tilework.Proofs.Lowering.Locality
import Tilework.Proofs.Lowering.Structure
import Tilework.Proofs.Lowering.Verification

/-!
# Artifacts of modules that grow

New values and functions never renumber the artifact of a module.  The functions that a module
has before it grows are lowered first and in the same way, and the later ones only add rows to
the tables.  So the artifact of a grown module extends the one of the module, which has to
succeed then: its frame is no longer, and it is verified against the same system.
-/

namespace Tilework

open Artifact Interner Wire

/-! ## Runs -/

section

variable {m grown : Module} {options : LoweringOptions}

/-- The state in which the first function is lowered: the debug information has the first
handle. -/
def LoweringState.begun (record : DebugRecord) : LoweringState :=
  { interner := { debugInfos := [(.debugInfo, record)] } }

theorem runs_lowerFunctions {outcome : Except LoweringError (List Program)}
    {after : LoweringState} :
    Runs (m.lowerFunctions options) {} outcome after ↔
      Runs (m.functions.mapM fun function => function.lower m 0)
        (.begun (options.debugRecord m.text)) outcome after :=
  Iff.rfl

/-- The functions of a module are lowered together with those of a module that extends it.
Their programs come first, and so do the rows that they need. -/
theorem Module.Extends.exists_runs (extended : grown.Extends m) (wellFormed : m.WellFormed)
    {programs : List Program} {last : LoweringState}
    (run : Runs (grown.lowerFunctions options) {} (.ok programs) last) :
    ∃ first state, Runs (m.lowerFunctions options) {} (.ok first) state ∧ first <+: programs ∧
      ∀ table, table ≠ .debugInfos → state.interner.rows table <:+ last.interner.rows table := by
  obtain ⟨added, split⟩ := extended.functions
  rw [runs_lowerFunctions, ← split, runs_mapM_append] at run
  obtain ⟨first, middle, rest, ran, continued, rfl⟩ := run
  have same : (m.functions.mapM fun function => function.lower grown 0) =
      m.functions.mapM fun function => function.lower m 0 :=
    mapM_congr_of_mem fun function member =>
      extended.function_lower_eq (wellFormed.function function member) 0
  have overlooked : Overlooks (LoweringState.withDebug (options.debugRecord m.text))
      (m.functions.mapM fun function => function.lower m 0) :=
    (closed_overlooks (m := m)).mapM (closed_overlooks.function · 0) m.functions
  rw [same] at ran
  refine ⟨first, _, runs_lowerFunctions.mpr (overlooked _ _ middle ran),
    List.prefix_append first rest, fun table different => ?_⟩
  rw [LoweringState.withDebug, rows_withDebug middle.interner different]
  exact grows_of_runs_functions continued table

/-! ## Artifacts -/

/-- The debug information of an artifact depends on its module through the text only. -/
theorem LoweringOptions.withoutSource_debugRecord (options : LoweringOptions) (text : String) :
    (options.debugRecord text).withoutSource = options.debugRecord "" :=
  rfl

/-- Debug information is no longer with a shorter text of the module. -/
theorem LoweringOptions.noLonger_debugRecord (options : LoweringOptions) {text longer : String}
    (le : text.utf8ByteSize ≤ longer.utf8ByteSize) :
    NoLonger (Message.encode (options.debugRecord text))
      (Message.encode (options.debugRecord longer)) := by
  have snapshot : NoLonger (Message.encode ({ name := "ttnn", source := text } : Snapshot))
      (Message.encode ({ name := "ttnn", source := longer } : Snapshot)) := by
    apply noLonger_encode
    simp only [Message.fields, List.forall_mem_cons]
    exact ⟨Component.noLonger_of_eq rfl 1, Component.noLonger_text le 2, nofun⟩
  apply noLonger_encode
  simp only [Message.fields, List.forall_mem_cons]
  exact ⟨Component.noLonger_some snapshot 1, Component.noLonger_of_eq rfl 2,
    Component.noLonger_of_eq rfl 3, Component.noLonger_of_eq rfl 4, nofun⟩

/-- The artifact of a module is extended by the one of a module that extends it, and its debug
information is no longer. -/
theorem Module.Extends.exists_binary (extended : grown.Extends m) (wellFormed : m.WellFormed)
    {later : Binary} (built : grown.binary options = .ok later) :
    ∃ binary, m.binary options = .ok binary ∧ later.Extends binary ∧
      ∀ tables laterTables, binary.objects = some tables → later.objects = some laterTables →
        Component.NoLonger tables.debugInfos laterTables.debugInfos := by
  obtain ⟨programs, system, ran, described, rfl⟩ := Module.binary_eq_ok_iff.mp built
  obtain ⟨first, state, run, start, rows⟩ := extended.exists_runs wellFormed (Prod.ext ran rfl)
  have ranFirst : ((m.lowerFunctions options).run {}).1 = .ok first := congrArg Prod.fst run
  have interner_eq : m.interner options = state.interner :=
    congrArg (fun result => result.2.interner) run
  rw [extended.system] at described
  refine ⟨_, Module.binary_eq_ok_iff.mpr ⟨first, system, ranFirst, described, rfl⟩,
    ⟨start, ⟨_, _, rfl, rfl, ?_, ?_⟩, rfl, rfl, rfl⟩, ?_⟩
  · intro table different
    rw [records_objects, records_objects, Rows.records, Rows.records, interner_eq]
    exact (List.reverse_prefix.mpr (rows table different)).map Prod.snd
  · simp only [objects, debugInfos_interner ranFirst, debugInfos_interner ran, Rows.records,
      List.reverse_singleton, List.map_singleton, LoweringOptions.withoutSource_debugRecord]
  · rintro _ _ ⟨⟩ ⟨⟩
    simp only [objects, debugInfos_interner ranFirst, debugInfos_interner ran]
    exact Component.noLonger_list
      (.cons (options.noLonger_debugRecord (extended.utf8ByteSize_text_le wellFormed)) .nil)

/-- The artifact of a module that has grown extends the artifact of the module, which is
lowered successfully whenever the grown module is. -/
theorem Module.Built.artifact_extended {buffer : Bytes} (built : m.Built)
    (grows : m.GrowsTo grown) (lowered : grown.lower options = .ok buffer) :
    ∃ earlier binary later, m.lower options = .ok earlier ∧
      Binary.ofFrame earlier = .ok binary ∧ Binary.ofFrame buffer = .ok later ∧
        later.Extends binary := by
  have extended := grows.extends
  obtain ⟨later, assembledLater, framedLater, verifiedLater⟩ := Module.lower_eq_ok_iff.mp lowered
  obtain ⟨binary, assembled, extends_binary, shorter⟩ :=
    extended.exists_binary built.wellFormed assembledLater
  obtain ⟨earlier, framed⟩ := extends_binary.exists_toFrame shorter framedLater
  have verified : binary.verify = .ok () := by
    rw [built.wellFormed.verify_eq assembled, ← extended.system,
      ← (built.growsTo grows).wellFormed.verify_eq assembledLater]
    exact verifiedLater
  exact ⟨earlier, binary.normalized, later.normalized,
    Module.lower_eq_ok_iff.mpr ⟨binary, assembled, framed, verified⟩,
    ofFrame_of_verified framed verified, ofFrame_of_verified framedLater verifiedLater,
    extends_binary.normalized⟩

theorem artifact_extended_copyAbsAndPass :
    (copyAbs .single).Built ∧ (copyAbs .single).GrowsTo (copyAbsAndPass .single) ∧
      ∃ buffer, (copyAbsAndPass .single).lower {} = .ok buffer ∧
        ∃ earlier binary later, (copyAbs .single).lower {} = .ok earlier ∧
          Binary.ofFrame earlier = .ok binary ∧ Binary.ofFrame buffer = .ok later ∧
            later.Extends binary := by
  have grows : (copyAbs .single).GrowsTo (copyAbsAndPass .single) :=
    .finish .refl (from_passDraft _) _
  obtain ⟨buffer, lowered⟩ := exists_lower_copyAbsAndPass
  exact ⟨built_copyAbs _, grows, buffer, lowered,
    Module.Built.artifact_extended (built_copyAbs _) grows lowered⟩

end

end Tilework
