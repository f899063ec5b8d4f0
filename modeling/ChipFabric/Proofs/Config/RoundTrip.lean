/-
A configuration is read back from its text, whatever words it holds. Each
section is read back from its value by itself (`Region.ofJson?_toJson` and its
kind), the whole from its sections, and the values are of the kind that is read
back from every text that spells them.
-/
import ChipFabric.Config.Text
import ChipFabric.Proofs.Json.RoundTrip
import ChipFabric.Proofs.Json.Section

namespace ChipFabric

open Json (field? ofWord)

-- ============================================================ values

@[simp] theorem Json.word?_ofWord (w : UInt64) :
    Json.word? (ofWord w) = some w :=
  Json.word?_eq_some_iff.2 rfl

@[simp] theorem Json.words?_map_ofWord (ws : List UInt64) :
    Json.words? (.array (ws.map ofWord)) = some ws :=
  Json.words?_eq_some_iff.2 rfl

@[simp] theorem HbmModel.ofJson?_toJson (model : HbmModel) :
    ofJson? model.toJson = some model :=
  ofSpelling?_spelling model

@[simp] theorem Region.ofJson?_toJson (region : Region) :
    ofJson? region.toJson = some region := by
  have hfields : region.toJson.fields? ["base", "size"] =
      some [some (ofWord region.base), some (ofWord region.size)] :=
    Json.fields?_of_names rfl (by decide)
  rw [ofJson?, hfields]
  simp

@[simp] theorem MemoryMap.ofJson?_toJson (map : MemoryMap) :
    ofJson? map.toJson = some map := by
  have hfields : map.toJson.fields? ["bootrom", "hbm_base", "cluster"] =
      some [some map.bootrom.toJson, some (ofWord map.hbmBase),
        some map.cluster.toJson] :=
    Json.fields?_of_names rfl (by decide)
  rw [ofJson?, hfields]
  simp [field?]

@[simp] theorem ClusterSizes.ofJson?_toJson (sizes : ClusterSizes) :
    ofJson? sizes.toJson = some sizes := by
  have hfields : sizes.toJson.fields? ["tcdm_size", "periph_size",
      "zero_mem_size"] =
      some [some (ofWord sizes.tcdm), some (ofWord sizes.periph),
        some (ofWord sizes.zeroMem)] :=
    Json.fields?_of_names rfl (by decide)
  rw [ofJson?, hfields]
  simp [field?]

@[simp] theorem Interconnect.ofJson?_toJson (interconnect : Interconnect) :
    ofJson? interconnect.toJson = some interconnect := by
  have hfields : interconnect.toJson.fields?
        ["narrow_bandwidth", "wide_bandwidth", "hbm_latency",
          "loader_entry_offset"] =
      some [some (ofWord interconnect.narrowBandwidth),
        some (ofWord interconnect.wideBandwidth),
        some (ofWord interconnect.hbmLatency),
        some (ofWord interconnect.loaderEntryOffset)] :=
    Json.fields?_of_names rfl (by decide)
  rw [ofJson?, hfields]
  simp [field?]

namespace Config

/-- A configuration is read back from its value. -/
theorem ofJson?_toJson (config : Config) :
    ofJson? config.toJson = some config := by
  have hfields : config.toJson.fields?
        ["nb_cluster", "nb_core_per_cluster", "cluster_cores", "hbm_size",
          "hbm_type", "memory_map", "cluster", "interconnect"] =
      some [some (ofWord config.clusterCount),
        some (ofWord config.coresPerCluster),
        some (.array (config.clusterCores.map ofWord)),
        some (ofWord config.hbmSize),
        some config.hbmModel.toJson, some config.memoryMap.toJson,
          some config.cluster.toJson,
        some config.interconnect.toJson] :=
    Json.fields?_of_names rfl (by decide)
  rw [ofJson?, hfields]
  simp [field?]

-- ============================================================= texts

/-- Numbers need no escapes. -/
theorem plainItems_map_ofWord (ws : List UInt64) :
    Json.PlainItems (ws.map ofWord) := by
  induction ws with
  | nil => trivial
  | cons w ws ih => exact ⟨trivial, ih⟩

/-- A configuration is written in unsigned integers. -/
theorem plain_toJson (config : Config) : config.toJson.Plain := by
  simp [toJson, HbmModel.toJson, MemoryMap.toJson, Region.toJson,
    ClusterSizes.toJson, Interconnect.toJson, ofWord, Json.Plain,
    Json.PlainMembers, plainItems_map_ofWord]

/-- The configuration that a text spells is returned if it passes its check. -/
theorem parse_of_ofJson? {text : String} {v : Json} {config : Config}
    (htext : Json.parse? text = some v) (hvalue : ofJson? v = some config) :
    parse text = config.check.map fun _ => config := by
  have hread : read text = .ok config := by
    rw [read, htext, Option.bind_some, hvalue]
  rw [parse, hread]
  show (config.check.bind fun _ => .ok config) = _
  cases config.check <;> rfl

/-- A text whose value fits no configuration is malformed. -/
theorem parse_of_ofJson?_eq_none {text : String} {v : Json}
    (htext : Json.parse? text = some v) (hvalue : ofJson? v = none) :
    parse text = .error .malformedConfig := by
  rw [parse, read, htext, Option.bind_some, hvalue]
  rfl

/-- A configuration that passes its check is read back from its text, and so it
is from the indented one. -/
theorem parse_text {config : Config} (hcheck : config.check = .ok ()) :
    parse config.text = .ok config
      ∧ parse config.toJson.indented = .ok config := by
  have hcompact := parse_of_ofJson? (Json.parse?_compact config.plain_toJson)
    config.ofJson?_toJson
  have hindented := parse_of_ofJson? (Json.parse?_indented config.plain_toJson)
    config.ofJson?_toJson
  rw [hcheck] at hcompact hindented
  exact ⟨hcompact, hindented⟩

/-- Three clusters of their own sizes, and the greatest word wherever nothing
else is said. -/
def spreadConfig : Config where
  clusterCount := 3
  coresPerCluster := 0xffffffffffffffff
  clusterCores := [1, 0xffffffffffffffff, 8]
  hbmSize := 0xffffffffffffffff
  hbmModel := .dramsys
  memoryMap := {
    bootrom := ⟨0, 0xffffffffffffffff⟩
    hbmBase := 0xffffffffffffffff
    cluster := ⟨0xffffffffffffffff, 0⟩ }
  interconnect := { hbmLatency := 0, loaderEntryOffset := 0xffffffffffffffff }

/-- A configuration with cores of its own for each cluster, read from both of
its texts. -/
theorem spreadConfig_parse_text : spreadConfig.check = .ok ()
    ∧ parse spreadConfig.text = .ok spreadConfig
    ∧ parse spreadConfig.toJson.indented = .ok spreadConfig :=
  ⟨rfl, parse_text rfl⟩

end Config

end ChipFabric
