/-
The configuration of a chip: how many clusters and cores it has, which
memory stands outside, where the fixed regions lie, how a cluster is
divided, and the constants of the interconnect. Every quantity is a word,
and the default of each field describes the reference board. `check` holds
what the types leave open: counts and sizes that have to be positive, and
the length of the list of core counts.
-/
import ChipFabric.Fault

namespace ChipFabric

/-- The memory behind the window of the external memory. -/
inductive HbmModel where
  | simple
  | dramsys
  deriving DecidableEq, Repr, Inhabited

namespace HbmModel

def spelling : HbmModel → String
  | simple => "simple"
  | dramsys => "dramsys"

def spellings : List String := [simple.spelling, dramsys.spelling]

def ofSpelling? (s : String) : Option HbmModel :=
  if s = simple.spelling then some simple
  else if s = dramsys.spelling then some dramsys
  else none

/-- The model of that name, or the fault that there is none. -/
def parse (s : String) : Except Fault HbmModel :=
  match ofSpelling? s with
  | some model => .ok model
  | none => .error (.notAllowed "hbm_type" s spellings)

/-- A model is read back from its name. -/
theorem ofSpelling?_spelling (model : HbmModel) :
    ofSpelling? model.spelling = some model := by
  cases model <;> rfl

end HbmModel

/-- A region as configured: not yet known to be a window. -/
structure Region where
  base : UInt64
  size : UInt64
  deriving DecidableEq, Repr

/-- The fixed regions of the address map. -/
structure MemoryMap where
  bootrom : Region := ⟨0x1000, 0x10000⟩
  hbmBase : UInt64 := 0x80000000
  /-- The region of the first cluster; its size is the distance from each
  cluster to the next. -/
  cluster : Region := ⟨0x10000000, 0x40000⟩
  deriving DecidableEq, Repr

structure ClusterSizes where
  tcdm : UInt64 := 0x20000
  periph : UInt64 := 0x10000
  zeroMem : UInt64 := 0x10000
  deriving DecidableEq, Repr

structure Interconnect where
  narrowBandwidth : UInt64 := 8
  wideBandwidth : UInt64 := 64
  /-- The latency noted on the mapping of the external memory, in cycles. -/
  hbmLatency : UInt64 := 100
  /-- How far into the boot ROM the cores start. -/
  loaderEntryOffset : UInt64 := 0x20
  deriving DecidableEq, Repr

structure Config where
  clusterCount : UInt64 := 1
  coresPerCluster : UInt64 := 9
  /-- The core count of each cluster; while empty, all have
  `coresPerCluster`. -/
  clusterCores : List UInt64 := []
  hbmSize : UInt64 := 0x80000000
  hbmModel : HbmModel := .simple
  memoryMap : MemoryMap := {}
  cluster : ClusterSizes := {}
  interconnect : Interconnect := {}
  deriving DecidableEq, Repr

/-- The setting, named as users know it, is greater than zero. -/
def requirePositive (setting : String) (value : UInt64) : Except Fault Unit :=
  if value = 0 then .error (.notPositive setting) else .ok ()

/-- Every memory of a cluster holds something. -/
def ClusterSizes.check (sizes : ClusterSizes) : Except Fault Unit := do
  requirePositive "cluster.tcdm_size" sizes.tcdm
  requirePositive "cluster.periph_size" sizes.periph
  requirePositive "cluster.zero_mem_size" sizes.zeroMem

/-- Both routers carry something; the latency and the entry may be zero. -/
def Interconnect.check (interconnect : Interconnect) : Except Fault Unit := do
  requirePositive "interconnect.narrow_bandwidth" interconnect.narrowBandwidth
  requirePositive "interconnect.wide_bandwidth" interconnect.wideBandwidth

namespace Config

/-- The list of core counts is empty, or names a positive count for each
cluster. -/
def checkClusterCores (config : Config) : Except Fault Unit := do
  if config.clusterCores = [] then
    return
  if config.clusterCores.length ≠ config.clusterCount.toNat then
    throw (.clusterCountMismatch config.clusterCount.toNat
      config.clusterCores.length)
  match config.clusterCores.findIdx? (· = 0) with
  | some cluster => throw (.noCores cluster)
  | none => return

/-- The configuration satisfies what its types leave open; the first
violation, in this order, is the fault. -/
def check (config : Config) : Except Fault Unit := do
  requirePositive "nb_cluster" config.clusterCount
  requirePositive "nb_core_per_cluster" config.coresPerCluster
  requirePositive "hbm_size" config.hbmSize
  config.checkClusterCores
  config.cluster.check
  config.interconnect.check

def coreCount (config : Config) (cluster : Nat) : Nat :=
  (config.clusterCores[cluster]?.getD config.coresPerCluster).toNat

end Config

end ChipFabric
