/-
The layout of the chip: the boot ROM, the external memory and the row of
clusters, which have to be disjoint windows, and the address where the
cores start. Clusters follow each other at the size of the first one's
region, and a running counter hands each the next hart numbers. Room for
the layouts of all clusters is reserved before the first of them is made.
-/
import ChipFabric.Config.Text
import ChipFabric.Layout.Cluster

namespace ChipFabric

/-- Where everything on the chip lies. -/
structure ChipLayout where
  bootrom : Window
  hbm : Window
  /-- The window of the first cluster; its size is the distance from each
  cluster to the next. -/
  clusterRegion : Window
  clusters : List ClusterLayout
  hbmModel : HbmModel
  interconnect : Interconnect
  /-- The address where the cores start. -/
  loaderEntry : Nat
  deriving DecidableEq

/-- The regions of those names share no address. -/
def requireDisjoint (first : String) (firstWindow : Window) (second : String)
    (secondWindow : Window) : Except Fault Unit :=
  if firstWindow.Overlaps secondWindow then
    .error (.regionOverlap first firstWindow second secondWindow)
  else .ok ()

/-- The number of bytes that the layout of one cluster takes: two counts, the
two ends of its harts, and the base and size of four windows, in words of
eight bytes. -/
def ClusterLayout.bytes : Nat := (2 + 2 + 4 * 2) * 8

/-- The greatest number of bytes that can be reserved at once. -/
def maxAllocation : Nat := 0x7fffffffffffffff

namespace ChipLayout

/-- Room for the layouts of that many clusters. -/
def reserve (count : Nat) : Except Fault Unit :=
  if maxAllocation < count * ClusterLayout.bytes then .error .capacityOverflow
  else .ok ()

/-- The next `count` clusters from number `id` on, the cores of the first
one numbered from `firstHart`, each at a multiple of `stride` into `span`. -/
def planClusters (config : Config) (span : Window) (stride : Nat)
    (id firstHart : Nat) :
    (count : Nat) → Except Fault (List ClusterLayout)
  | 0 => .ok []
  | count + 1 => do
    let region ← span.carve (id * stride) stride
    let cluster ← ClusterLayout.plan config id region firstHart
    return cluster ::
      (← planClusters config span stride (id + 1) cluster.endHart count)

/-- The layout that a configuration describes; the first fault met, if
there is one. -/
def plan (config : Config) : Except Fault ChipLayout := do
  config.check
  let map := config.memoryMap
  let bootrom ← Window.make map.bootrom.base.toNat map.bootrom.size.toNat
  let hbm ← Window.make map.hbmBase.toNat config.hbmSize.toNat
  let clusterRegion ← Window.make map.cluster.base.toNat map.cluster.size.toNat
  config.cluster.fitInto clusterRegion.size
  let count := config.clusterCount.toNat
  if maxWord < count * clusterRegion.size then
    throw (.invalidWindow clusterRegion.base maxWord)
  let span ← Window.make clusterRegion.base (count * clusterRegion.size)
  requireDisjoint "bootrom" bootrom "hbm" hbm
  requireDisjoint "bootrom" bootrom "clusters" span
  requireDisjoint "hbm" hbm "clusters" span
  reserve count
  let clusters ← planClusters config span clusterRegion.size 0 0 count
  let entryOffset := config.interconnect.loaderEntryOffset.toNat
  if maxWord < bootrom.base + entryOffset then
    throw (.invalidWindow bootrom.base entryOffset)
  return {
    bootrom, hbm, clusterRegion, clusters
    hbmModel := config.hbmModel
    interconnect := config.interconnect
    loaderEntry := bootrom.base + entryOffset }

def hartCount (chip : ChipLayout) : Nat :=
  chip.clusters.getLast?.elim 0 (·.endHart)

def clusterBase? (chip : ChipLayout) (id : Nat) : Option Nat :=
  chip.clusters[id]?.map (·.region.base)

/-- The window of all clusters together. -/
def clusterSpan (chip : ChipLayout) : Window :=
  match chip.clusters.head?, chip.clusters.getLast? with
  | some first, some last =>
    (Window.make first.region.base
      (last.region.stop - first.region.base)).toOption.getD chip.clusterRegion
  | _, _ => chip.clusterRegion

def toJson (chip : ChipLayout) : Json :=
  .object [
    ("bootrom", chip.bootrom.toJson),
    ("hbm", chip.hbm.toJson),
    ("cluster_region", chip.clusterRegion.toJson),
    ("clusters", .array (chip.clusters.map ClusterLayout.toJson)),
    ("hbm_type", chip.hbmModel.toJson),
    ("interconnect", chip.interconnect.toJson),
    ("loader_entry", .natural chip.loaderEntry)]

end ChipLayout

end ChipFabric
