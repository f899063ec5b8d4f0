/-
The topology of a chip, built from its layout. The board holds the chip and
the external memory, the chip holds the SoC, and the SoC holds two routers:
the narrow one for control traffic, with the boot ROM and the clusters, and
the wide one for bulk traffic, in front of the external memory. The narrow
router passes accesses to the external memory on to the wide one as they
are, so only the last router before the memory counts from the base of its
window. The loader writes through the narrow router and starts all cores.
-/
import ChipFabric.Fabric.Route
import ChipFabric.Topology.Cluster

namespace ChipFabric

structure Topology where
  layout : ChipLayout
  graph : Graph
  narrow : ComponentId
  wide : ComponentId
  clusters : List ClusterPorts
  /-- Where the loader issues its writes. -/
  loaderOut : OutputPort .io
  /-- The signal that starts the cores. -/
  loaderStart : OutputPort .wire
  deriving DecidableEq

namespace Topology

/-- What the chip and the SoC hold before the clusters are added. -/
structure Planes where
  chip : ComponentId
  soc : ComponentId
  narrow : ComponentId
  wide : ComponentId
  /-- Where accesses to the external memory leave the chip. -/
  chipHbm : ForwardPort .io
  /-- Where they leave the SoC. -/
  socHbm : ForwardPort .io
  narrowIn : InputPort .io
  wideIn : InputPort .io

/-- Adds the chip and the SoC with the two routers, and maps the boot ROM
and the external memory. -/
def addPlanes (layout : ChipLayout) : Build Planes := do
  let chip ← Build.addGroup Graph.root "chip"
  let soc ← Build.addGroup chip "soc"
  let chipHbm ← Build.declare chip "hbm" .forward .io
  let socHbm ← Build.declare soc "hbm" .forward .io
  let narrow ← Build.addRouter soc
    (Router.new "narrow_axi" layout.interconnect.narrowBandwidth.toNat)
  let wide ← Build.addRouter soc
    (Router.new "wide_axi" layout.interconnect.wideBandwidth.toNat)
  let narrowIn ← Build.routerInput narrow Router.defaultInput
  let wideIn ← Build.routerInput wide Router.defaultInput
  let (_, romIn) ← Build.addTerminal soc "rom" (.bootRom layout.bootrom.size)
  let _ ← Build.mapWindow narrow "rom" romIn layout.bootrom true {}
  let _ ← Build.mapWindow wide "hbm" socHbm layout.hbm true
    { latency := some layout.interconnect.hbmLatency.toNat }
  let _ ← Build.mapWindow narrow "hbm" wideIn layout.hbm false {}
  return { chip, soc, narrow, wide, chipHbm, socHbm, narrowIn, wideIn }

/-- Builds one cluster, which has to have the cores it was laid out with,
binds its two masters to the routers and maps its window on the narrow
one. -/
def addCluster (cluster : ClusterBuilder) (planes : Planes)
    (layout : ClusterLayout) :
    Build ClusterPorts := do
  let ports ← cluster planes.soc layout
  if ports.coreCount ≠ layout.coreCount then
    throw (.coreCountMismatch layout.id layout.coreCount ports.coreCount)
  Build.bind ports.narrowSoc planes.narrowIn
  Build.bind ports.wideSoc planes.wideIn
  let _ ← Build.mapWindow planes.narrow (clusterName layout.id)
    ports.narrowInput layout.region true {}
  return ports

/-- Adds the loader, which writes through the narrow router and starts the
cores of all clusters. -/
def addLoader (planes : Planes) (clusters : List ClusterPorts)
    (device : Device) :
    Build (OutputPort .io × OutputPort .wire) := do
  let loader ← Build.addDevice planes.soc "loader" device
  let out ← Build.declare loader "out" .output .io
  let start ← Build.declare loader "start" .output .wire
  Build.bind out planes.narrowIn
  clusters.forM fun ports => Build.bind start ports.fetchEnable
  return (out, start)

/-- Adds the external memory to the board and binds it to the chip. -/
def addExternalMemory (planes : Planes) (layout : ChipLayout) :
    Build Unit := do
  let (memory, _) ← Build.addTerminal Graph.root layout.hbmModel.instanceName
    (.hbm layout.hbmModel layout.hbm.size)
  Build.bind planes.socHbm planes.chipHbm
  Build.bindByName planes.chip "hbm" memory Router.defaultInput

/-- The steps that build the chip on a graph that holds only the board. -/
def steps (layout : ChipLayout) (cluster : ClusterBuilder)
    (binary : Option String) :
    Build Topology := do
  let planes ← addPlanes layout
  let clusters ← layout.clusters.mapM (addCluster cluster planes)
  let (loaderOut, loaderStart) ← addLoader planes clusters
    (.loader binary layout.loaderEntry)
  addExternalMemory planes layout
  let graph ← get
  graph.validate
  return {
    layout, graph, clusters, loaderOut, loaderStart
    narrow := planes.narrow
    wide := planes.wide }

/-- The chip of that layout, its clusters built by `cluster`. -/
def build (layout : ChipLayout) (cluster : ClusterBuilder)
    (binary : Option String) : Except Fault Topology :=
  ((steps layout cluster binary).on (Graph.new "board")).1

end Topology

end ChipFabric
