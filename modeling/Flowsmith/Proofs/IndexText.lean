import Flowsmith.Proofs.JsonText
import Flowsmith.Proofs.Stages

/-!
The text of the index. There is one value that it can be read as; that value lists the compiled
processes in their order, each with the channels of its message triggers.
-/

namespace Flowsmith

/-- The index of a set can be read as one value only. -/
def ArtifactSet.IndexReads (set : ArtifactSet) (value : Json) : Prop :=
  ∃ text, set.get? Index.path =
      some { path := Index.path, content := .text text, category := .internalResource } ∧
    Json.Reads text value

/-- An entry of the index that tells the channel of a trigger. -/
structure Trigger.ListedBy (t : Trigger) (entry : Json) : Prop where
  trigger : entry.field? "trigger" = some (.string t.name)
  kind : entry.field? "kind" = some (.string (Keyword.text t.kind))
  channel : entry.field? "channel" = some (Json.stringOrNull t.channel)
  resolution : entry.field? "resolution" = some (.string (Keyword.text t.resolution))

/-- An entry of the index for a process with the given triggers. -/
structure Definition.ListedBy (d : Definition) (triggers : List Trigger) (entry : Json) : Prop where
  id : entry.field? "id" = some (.string d.id)
  /-- The channels are those of the triggers, in their order. -/
  channels : ∃ channels, entry.field? "channels" = some (.array channels) ∧
    List.Forall₂ Trigger.ListedBy triggers channels

section Numberless

/-! There are no numbers in the index. -/

open Json

theorem isNumberless_stringOrNull (s : Option String) : (stringOrNull s).isNumberless = true := by
  cases s <;> rfl

theorem ChannelEntry.isNumberless_toJson (e : ChannelEntry) : e.toJson.isNumberless = true := by
  simp [toJson, isNumberless, areNumberlessFields, isNumberless_stringOrNull]

theorem IndexEntry.isNumberless_toJson (e : IndexEntry) : e.toJson.isNumberless = true := by
  have channels : areNumberless (e.channels.map ChannelEntry.toJson) = true := by
    simp [areNumberless_iff, ChannelEntry.isNumberless_toJson]
  simp [toJson, isNumberless, areNumberlessFields, channels]

theorem Index.isNumberless_toJson (i : Index) : i.toJson.isNumberless = true := by
  have processes : areNumberless (i.processes.map IndexEntry.toJson) = true := by
    simp [areNumberless_iff, IndexEntry.isNumberless_toJson]
  have warnings : areNumberless (i.warnings.map Json.string) = true := by
    simp [areNumberless_iff, isNumberless]
  simp [toJson, strings, isNumberless, areNumberlessFields, processes, warnings]

end Numberless

theorem Trigger.listedBy_ofTrigger (t : Trigger) : t.ListedBy (ChannelEntry.ofTrigger t).toJson :=
  ⟨rfl, rfl, rfl, rfl⟩

theorem ProcessUnit.listedBy_indexEntry (u : ProcessUnit) :
    u.definition.ListedBy (u.triggers.filter fun t => t.kind.isMessage) u.indexEntry.toJson := by
  refine ⟨rfl, _, rfl, ?_⟩
  simp only [indexEntry, IndexEntry.ofTriggers, List.map_map, List.forall₂_map_right_iff,
    List.forall₂_same, Function.comp_apply]
  exact fun t _ => t.listedBy_ofTrigger

namespace Batch

variable {tools : Toolchain} {config : Config} {b : Batch}

/-- The index of a batch. -/
def index (tools : Toolchain) (config : Config) (b : Batch) : Index :=
  (Progress.ofLowered tools config (b.lowered tools config).1).index tools.injection
    (channelFindings config.messaging (b.lowered tools config).1) b.warnings

theorem indexReads_compile :
    (b.compile tools config).artifacts.IndexReads (b.index tools config).toJson :=
  ⟨_, Progress.get?_allArtifacts_index housed_lowered.held,
    Json.reads_pretty (b.index tools config).isNumberless_toJson⟩

/-- The entries of the index are those of the compiled processes. -/
theorem field?_processes_index :
    (b.index tools config).toJson.field? "processes" =
      some (.array ((Progress.ofLowered tools config (b.lowered tools config).1).compiled.map
        fun u => u.indexEntry.toJson)) := by
  change some (Json.array (List.map _ (List.map _ _))) = _
  rw [List.map_map]
  rfl

/-- The index lists the compiled processes in their order. -/
theorem index_lists :
    ∃ entries, (b.index tools config).toJson.field? "processes" = some (.array entries) ∧
      entries.map (Json.field? "id") =
        (b.compile tools config).compiled.map fun id => some (.string id) := by
  refine ⟨_, field?_processes_index, ?_⟩
  change _ = List.map _ (List.map _ _)
  rw [List.map_map, List.map_map]
  rfl

end Batch

end Flowsmith
