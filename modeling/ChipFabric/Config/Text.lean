/-
Configurations as JSON. Writing gives every field; reading takes the fields
that are there and the defaults for the rest, except that a region needs
both its numbers. A text that is not JSON, or does not fit, is malformed,
and one that fits is then checked.
-/
import ChipFabric.Config.Basic
import ChipFabric.Json.Reader
import ChipFabric.Json.Section
import ChipFabric.Json.Writer

namespace ChipFabric

open Json (field? ofWord)

-- ============================================================ writing

def HbmModel.toJson (model : HbmModel) : Json := .string model.spelling

def Region.toJson (region : Region) : Json :=
  .object [("base", ofWord region.base), ("size", ofWord region.size)]

def MemoryMap.toJson (map : MemoryMap) : Json :=
  .object [
    ("bootrom", map.bootrom.toJson),
    ("hbm_base", ofWord map.hbmBase),
    ("cluster", map.cluster.toJson)]

def ClusterSizes.toJson (sizes : ClusterSizes) : Json :=
  .object [
    ("tcdm_size", ofWord sizes.tcdm),
    ("periph_size", ofWord sizes.periph),
    ("zero_mem_size", ofWord sizes.zeroMem)]

def Interconnect.toJson (interconnect : Interconnect) : Json :=
  .object [
    ("narrow_bandwidth", ofWord interconnect.narrowBandwidth),
    ("wide_bandwidth", ofWord interconnect.wideBandwidth),
    ("hbm_latency", ofWord interconnect.hbmLatency),
    ("loader_entry_offset", ofWord interconnect.loaderEntryOffset)]

def Config.toJson (config : Config) : Json :=
  .object [
    ("nb_cluster", ofWord config.clusterCount),
    ("nb_core_per_cluster", ofWord config.coresPerCluster),
    ("cluster_cores", .array (config.clusterCores.map ofWord)),
    ("hbm_size", ofWord config.hbmSize),
    ("hbm_type", config.hbmModel.toJson),
    ("memory_map", config.memoryMap.toJson),
    ("cluster", config.cluster.toJson),
    ("interconnect", config.interconnect.toJson)]

def Config.text (config : Config) : String := config.toJson.compact

-- ============================================================ reading

/-- A model is named by a string, or by an object whose one member has that
name and the value `null`. -/
def HbmModel.ofJson? : Json → Option HbmModel
  | .string name => ofSpelling? name
  | .object [(name, .null)] => ofSpelling? name
  | _ => none

def Region.ofJson? (v : Json) : Option Region := do
  let [some base, some size] ← v.fields? ["base", "size"] | none
  return { base := ← base.word?, size := ← size.word? }

def MemoryMap.ofJson? (v : Json) : Option MemoryMap := do
  let [bootrom, hbmBase, cluster] ← v.fields? ["bootrom", "hbm_base",
    "cluster"] | none
  let absent : MemoryMap := {}
  return {
    bootrom := ← field? Region.ofJson? absent.bootrom bootrom
    hbmBase := ← field? Json.word? absent.hbmBase hbmBase
    cluster := ← field? Region.ofJson? absent.cluster cluster }

def ClusterSizes.ofJson? (v : Json) : Option ClusterSizes := do
  let [tcdm, periph, zeroMem] ← v.fields? ["tcdm_size", "periph_size",
    "zero_mem_size"] | none
  let absent : ClusterSizes := {}
  return {
    tcdm := ← field? Json.word? absent.tcdm tcdm
    periph := ← field? Json.word? absent.periph periph
    zeroMem := ← field? Json.word? absent.zeroMem zeroMem }

def Interconnect.ofJson? (v : Json) : Option Interconnect := do
  let [narrow, wide, latency, entry] ← v.fields?
    ["narrow_bandwidth", "wide_bandwidth", "hbm_latency",
      "loader_entry_offset"] | none
  let absent : Interconnect := {}
  return {
    narrowBandwidth := ← field? Json.word? absent.narrowBandwidth narrow
    wideBandwidth := ← field? Json.word? absent.wideBandwidth wide
    hbmLatency := ← field? Json.word? absent.hbmLatency latency
    loaderEntryOffset := ← field? Json.word? absent.loaderEntryOffset entry }

def Config.ofJson? (v : Json) : Option Config := do
  let [clusterCount, coresPerCluster, clusterCores, hbmSize, hbmModel,
      memoryMap, cluster, interconnect] ← v.fields?
    ["nb_cluster", "nb_core_per_cluster", "cluster_cores", "hbm_size",
      "hbm_type", "memory_map", "cluster", "interconnect"] | none
  let absent : Config := {}
  return {
    clusterCount := ← field? Json.word? absent.clusterCount clusterCount
    coresPerCluster :=
      ← field? Json.word? absent.coresPerCluster coresPerCluster
    clusterCores := ← field? Json.words? absent.clusterCores clusterCores
    hbmSize := ← field? Json.word? absent.hbmSize hbmSize
    hbmModel := ← field? HbmModel.ofJson? absent.hbmModel hbmModel
    memoryMap := ← field? MemoryMap.ofJson? absent.memoryMap memoryMap
    cluster := ← field? ClusterSizes.ofJson? absent.cluster cluster
    interconnect :=
      ← field? Interconnect.ofJson? absent.interconnect interconnect }

namespace Config

/-- The configuration that a text spells, not yet checked. -/
def read (text : String) : Except Fault Config :=
  match (Json.parse? text).bind ofJson? with
  | some config => .ok config
  | none => .error .malformedConfig

/-- The configuration that a text spells, checked. -/
def parse (text : String) : Except Fault Config := do
  let config ← read text
  config.check
  return config

/-- The configuration in a file of that content. A file that does not exist
has no content, and one that is not text in UTF-8 is as unreadable. -/
def ofFile (content : Option ByteArray) : Except Fault Config :=
  match content.bind String.fromUTF8? with
  | some text => parse text
  | none => .error .unreadableFile

end Config

end ChipFabric
