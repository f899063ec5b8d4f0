/-
The layout of one cluster: its window in the chip's address map, the hart
numbers of its cores, and its three memories one after the other from zero,
which is how the cluster itself sees them.
-/
import ChipFabric.Address.Carve
import ChipFabric.Config.Basic

namespace ChipFabric

/-- Where one cluster stands and what is inside. -/
structure ClusterLayout where
  id : Nat
  /-- The cluster's window in the address map of the chip. -/
  region : Window
  coreCount : Nat
  firstHart : Nat
  tcdm : Window
  periph : Window
  zeroMem : Window
  deriving DecidableEq

namespace ClusterLayout

/-- The hart number after the last of the cluster. -/
def endHart (cluster : ClusterLayout) : Nat :=
  cluster.firstHart + cluster.coreCount

def harts (cluster : ClusterLayout) : List Nat :=
  (List.range cluster.coreCount).map (cluster.firstHart + ·)

def hart? (cluster : ClusterLayout) (core : Nat) : Option Nat :=
  if core < cluster.coreCount then some (cluster.firstHart + core) else none

def toJson (cluster : ClusterLayout) : Json :=
  .object [
    ("id", .natural cluster.id),
    ("region", cluster.region.toJson),
    ("nb_core", .natural cluster.coreCount),
    ("hart_ids", .object [
      ("start", .natural cluster.firstHart),
      ("end", .natural cluster.endHart)]),
    ("tcdm", cluster.tcdm.toJson),
    ("periph", cluster.periph.toJson),
    ("zero_mem", cluster.zeroMem.toJson)]

end ClusterLayout

/-- The number of addresses that the memories of a cluster take. -/
def ClusterSizes.footprint (sizes : ClusterSizes) : Except Fault Nat :=
  let total := sizes.tcdm.toNat + sizes.periph.toNat + sizes.zeroMem.toNat
  if total ≤ maxWord then .ok total else .error (.invalidWindow 0 maxWord)

/-- The footprint, which has to fit into a window of `stride` addresses. -/
def ClusterSizes.fitInto (sizes : ClusterSizes) (stride : Nat) :
    Except Fault Unit := do
  let footprint ← sizes.footprint
  if stride < footprint then
    throw (.clusterFootprint footprint stride)

/-- The layout of cluster `id` in a window, its cores numbered from
`firstHart`. -/
def ClusterLayout.plan (config : Config) (id : Nat) (region : Window)
    (firstHart : Nat) :
    Except Fault ClusterLayout := do
  let coreCount := config.coreCount id
  if coreCount = 0 then
    throw (.noCores id)
  config.cluster.fitInto region.size
  if maxWord < firstHart + coreCount then
    throw (.hartOverflow id)
  let tcdm ← Window.make 0 config.cluster.tcdm.toNat
  let periph ← Window.make tcdm.stop config.cluster.periph.toNat
  let zeroMem ← Window.make periph.stop config.cluster.zeroMem.toNat
  return { id, region, coreCount, firstHart, tcdm, periph, zeroMem }

end ChipFabric
