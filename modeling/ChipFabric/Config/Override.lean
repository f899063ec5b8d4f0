/-
The properties of the chip that users may override by name. Declaring them
takes the configuration's own values as defaults and gives back the
configuration with the values settled on, checked again.
-/
import ChipFabric.Config.Basic
import ChipFabric.Property.Registry

namespace ChipFabric

open Property (Registry)

/-- Declares the four named properties and merges their values in. -/
def Config.declare (config : Config) : Edit Registry Config := do
  let hbmSize ← Property.declareInteger "hbm_size" config.hbmSize
    "Size of the HBM external memory"
  let spelling ← Property.declareChoice "hbm_type" config.hbmModel.spelling
    HbmModel.spellings "Type of the HBM external memory"
  let hbmModel ← HbmModel.parse spelling
  let clusterCount ← Property.declareInteger "soc/nb_cluster"
    config.clusterCount "Number of clusters"
  let coresPerCluster ← Property.declareInteger "soc/cluster/nb_core"
    config.coresPerCluster "Number of cores per cluster"
  let merged :=
    { config with hbmSize, hbmModel, clusterCount, coresPerCluster }
  merged.check
  return merged

/-- Applies overrides given as `name=value` to a configuration, on a new
registry, and gives the registry back with it. -/
def Config.override (config : Config) (pairs : List String) :
    Except Fault (Config × Registry) := do
  let edit : Edit Registry Config := do
    pairs.forM Property.overridePair
    config.declare
  let (outcome, registry) := edit.on {}
  let merged ← outcome
  registry.finish
  return (merged, registry)

end ChipFabric
