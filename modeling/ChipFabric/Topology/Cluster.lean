/-
Clusters of a topology. What a cluster contains is for its builder to say;
the chip only needs the ports at its boundary and the number of cores it
was given. The standard cluster has a crossbar in front of three memories,
its cores, and a DMA engine:

    narrow_input ---.                .--> tcdm
                    |--> xbar -------|--> periph
    wide_input -----'      ^         '--> zero_mem
                           | data
    fetch_enable ------> pe0 ... peN --- soc --> narrow_soc
                         idma ---------- out --> wide_soc

Accesses from the chip arrive counted from the start of the cluster, so the
crossbar forwards addresses as they are.
-/
import ChipFabric.Fabric.Build
import ChipFabric.Layout.Chip

namespace ChipFabric

/-- The boundary of a cluster that was built. -/
structure ClusterPorts where
  component : ComponentId
  /-- The number of cores it was built with. -/
  coreCount : Nat
  /-- Takes narrow accesses, counted from the start of the cluster. -/
  narrowInput : ForwardPort .io
  wideInput : ForwardPort .io
  fetchEnable : ForwardPort .wire
  /-- Issues accesses to the narrow plane. -/
  narrowSoc : ForwardPort .io
  /-- Issues accesses to the wide plane. -/
  wideSoc : ForwardPort .io
  deriving DecidableEq

/-- Builds a cluster with a given layout under a component. -/
abbrev ClusterBuilder := ComponentId → ClusterLayout → Build ClusterPorts

def clusterName (id : Nat) : String := "cluster_" ++ Numeral.decimal id

namespace StandardCluster

/-- The bandwidth of the crossbar, in bytes per cycle. -/
def crossbarBandwidth : Nat := 64

/-- Adds the group of a cluster with the ports at its boundary. -/
def addBoundary (parent : ComponentId) (layout : ClusterLayout) :
    Build ClusterPorts := do
  let component ← Build.addGroup parent (clusterName layout.id)
  let narrowInput ← Build.declare component "narrow_input" .forward .io
  let wideInput ← Build.declare component "wide_input" .forward .io
  let fetchEnable ← Build.declare component "fetch_enable" .forward .wire
  let narrowSoc ← Build.declare component "narrow_soc" .forward .io
  let wideSoc ← Build.declare component "wide_soc" .forward .io
  return {
    component
    coreCount := layout.coreCount
    narrowInput, wideInput, fetchEnable, narrowSoc, wideSoc }

/-- Adds the crossbar with an input for each plane; the cores share that of
the narrow one. -/
def addCrossbar (ports : ClusterPorts) :
    Build (ComponentId × InputPort .io) := do
  let crossbar ← Build.addRouter ports.component
    (Router.new "xbar" crossbarBandwidth)
  let narrow ← Build.routerInput crossbar Router.defaultInput
  let wide ← Build.addRouterInput crossbar "wide"
  Build.bind ports.narrowInput narrow
  Build.bind ports.wideInput wide
  return (crossbar, narrow)

/-- Adds a memory of the cluster and maps its window on the crossbar. -/
def addMemory (cluster crossbar : ComponentId) (name : String)
    (window : Window) (device : Device) : Build Unit := do
  let (_, input) ← Build.addTerminal cluster name device
  let _ ← Build.mapWindow crossbar name input window false {}

def addMemories (cluster crossbar : ComponentId) (layout : ClusterLayout) :
    Build Unit := do
  addMemory cluster crossbar "tcdm" layout.tcdm
    (.memory layout.tcdm.size false)
  addMemory cluster crossbar "periph" layout.periph
    (.peripherals layout.periph.size)
  addMemory cluster crossbar "zero_mem" layout.zeroMem
    (.memory layout.zeroMem.size true)

/-- Adds a core and binds its ports: data to the crossbar, accesses outside
the cluster to the narrow plane, and its start to the cluster's. -/
def addCore (cluster : ComponentId) (crossbar : InputPort .io)
    (narrowSoc : ForwardPort .io) (fetchEnable : ForwardPort .wire)
    (firstHart localId : Nat) : Build Unit := do
  let core ← Build.addDevice cluster ("pe" ++ Numeral.decimal localId)
    (.core (firstHart + localId) localId)
  let data ← Build.declare core "data" .output .io
  let soc ← Build.declare core "soc" .output .io
  let fetch ← Build.declare core "fetch_enable" .input .wire
  Build.bind data crossbar
  Build.bind soc narrowSoc
  Build.bind fetchEnable fetch

/-- Adds the DMA engine, which issues accesses to the wide plane. -/
def addEngine (cluster : ComponentId) (wideSoc : ForwardPort .io) (id : Nat) :
    Build Unit := do
  let idma ← Build.addDevice cluster "idma" (.dma id)
  let out ← Build.declare idma "out" .output .io
  Build.bind out wideSoc

def build : ClusterBuilder := fun parent layout => do
  let ports ← addBoundary parent layout
  let (crossbar, narrow) ← addCrossbar ports
  addMemories ports.component crossbar layout
  (List.range layout.coreCount).forM
    (addCore ports.component narrow ports.narrowSoc ports.fetchEnable
      layout.firstHart)
  addEngine ports.component ports.wideSoc layout.id
  return ports

end StandardCluster

end ChipFabric
