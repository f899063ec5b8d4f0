/-
The whole chip. After the clusters come the loader, which is bound to the
narrow plane and to every cluster, and the external memory, which stands on
the board. `Topology.inventory` is all of it, and `build_eq` says that
building comes down to validating a graph with this inventory: no step
before that can fail.
-/
import ChipFabric.Proofs.Topology.Chip

namespace ChipFabric.Topology

open Edit

-- ============================================================= parts

/-- The loader, which starts whatever the bindings lead to. -/
def loader (n p : Nat) (device : Device) (starts : List PortId) :
    Inventory where
  parts := [⟨"board/chip/soc" ++ "/" ++ "loader", .device device⟩]
  ports := [
    ⟨⟨n⟩, "out", .output, Signal.io.signature⟩,
    ⟨⟨n⟩, "start", .output, Signal.wire.signature⟩]
  bindings := ⟨⟨p⟩, ⟨2⟩⟩ :: starts.map fun target => ⟨⟨p + 1⟩, target⟩

/-- The loader starts one cluster more by one binding more. -/
theorem loader_concat (n p : Nat) (device : Device) (starts : List PortId)
    (target : PortId) :
    loader n p device (starts ++ [target]) =
      loader n p device starts ++ ⟨[], [], [⟨⟨p + 1⟩, target⟩]⟩ := by
  ext1 <;> simp [loader]

/-- All that the loader binds starts at its own ports. -/
theorem source_of_mem_loader {n p : Nat} {device : Device}
    {starts : List PortId} :
    ∀ b ∈ (loader n p device starts).bindings, p ≤ b.source.index := by
  simp [loader]

def externalPath (layout : ChipLayout) : String :=
  "board" ++ "/" ++ layout.hbmModel.instanceName

/-- The external memory, bound to the SoC through the chip. -/
def external (n p : Nat) (layout : ChipLayout) : Inventory where
  parts :=
    [⟨externalPath layout, .device (.hbm layout.hbmModel layout.hbm.size)⟩]
  ports := [⟨⟨n⟩, Router.defaultInput, .input, Signal.io.signature⟩]
  bindings := [⟨⟨1⟩, ⟨0⟩⟩, ⟨⟨0⟩, ⟨p⟩⟩]

variable {s : Inventory}

/-- The loader is added with its outputs and all their bindings. -/
theorem addLoader_makes {clusters : List ClusterPorts} {device : Device}
    {n p : Nat}
    (hsoc : s.parts[planeHandles.soc.index]? = some ⟨"board/chip/soc", .group⟩)
    (hpath : s.LacksPath ("board/chip/soc" ++ "/" ++ "loader"))
    (hnarrow : 2 < p)
    (hclusters : ∀ ports ∈ clusters, ports.fetchEnable.port.index < p)
    (hn : s.parts.length = n) (hp : s.ports.length = p) :
    (addLoader planeHandles clusters device).Makes s (⟨⟨p⟩⟩, ⟨⟨p + 1⟩⟩)
      (s ++ loader n p device (clusters.map (·.fetchEnable.port))) := by
  apply Build.Makes.of_sound
  intro hs
  refine (Build.addDevice_makes hsoc hpath hn).bind ?_
  refine (Build.declare_last_makes (q := p) hs hn hp (by simp)
    (by simp [Inventory.LacksPort]) (by simp)).bind ?_
  refine (Build.declare_last_makes (q := p + 1) hs hn hp (by simp)
    (by simp [Inventory.LacksPort]) (by simp)).bind ?_
  refine (Build.bind_makes ?_ ?_).append.bind ?_
  · simp [hp]
  · simp [hp, planeHandles]
    omega
  -- the loop adds to the bindings only
  refine (Build.Makes.forM (fun done =>
    s ++ loader n p device (done.map (·.fetchEnable.port))) ?_).bind
      (.pure _ _)
  intro before ports after hsplit
  have hports := hclusters ports (by simp [hsplit])
  rw [List.map_append, List.map_singleton, loader_concat]
  refine (Build.bind_makes ?_ ?_).append
  · simp [hp, loader]
  · simp [hp, loader]
    omega

/-- The external memory is added and reached through the chip. -/
theorem addExternalMemory_makes {layout : ChipLayout} {n p : Nat}
    (hboard : s.parts[Graph.root.index]? = some ⟨"board", .group⟩)
    (hpath : s.LacksPath (externalPath layout))
    (hchip : s.ports[0]? = some ⟨⟨1⟩, "hbm", .forward, Signal.io.signature⟩)
    (hsoc : 1 < p) (hn : s.parts.length = n) (hp : s.ports.length = p) :
    (addExternalMemory planeHandles layout).Makes s ⟨⟩
      (s ++ external n p layout) := by
  refine (Build.addTerminal_makes hboard hpath hn hp).bind ?_
  refine (Build.bind_makes ?_ ?_).append.bind ?_
  · simp [hp, planeHandles]
    omega
  · simp [hp, planeHandles]
    omega
  have hbound : (s ++ (.terminal n (externalPath layout)
      (.hbm layout.hbmModel layout.hbm.size)
        ++ ⟨[], [], [⟨⟨1⟩, ⟨0⟩⟩]⟩)).ports[0]? =
      some ⟨⟨1⟩, "hbm", .forward, Signal.io.signature⟩ :=
    (List.getElem?_append_left (List.getElem?_eq_some_iff.1 hchip).1).trans
      hchip
  have hinput : (s ++ (.terminal n (externalPath layout)
      (.hbm layout.hbmModel layout.hbm.size)
        ++ ⟨[], [], [⟨⟨1⟩, ⟨0⟩⟩]⟩)).ports[p]? =
      some ⟨⟨n⟩, Router.defaultInput, .input, Signal.io.signature⟩ := by
    simp [hp, Inventory.terminal]
  exact (Build.bindByName_makes hbound hinput rfl rfl rfl).append

-- ============================================================= whole

/-- The chip without the external memory. -/
def withLoader (layout : ChipLayout) (binary : Option String) : Inventory :=
  withClusters layout layout.clusters
    ++ loader (partCount layout.clusters) (portCount layout.clusters)
      (.loader binary layout.loaderEntry)
      (((sites 6 8 layout.clusters).map Site.handles).map (·.fetchEnable.port))

@[simp] theorem length_parts_withLoader (layout : ChipLayout)
    (binary : Option String) :
    (withLoader layout binary).parts.length =
      partCount layout.clusters + 1 := by
  simp [withLoader, loader]

@[simp] theorem length_ports_withLoader (layout : ChipLayout)
    (binary : Option String) :
    (withLoader layout binary).ports.length =
      portCount layout.clusters + 2 := by
  simp [withLoader, loader]

/-- All of the chip, with the board around it. -/
def inventory (layout : ChipLayout) (binary : Option String) : Inventory :=
  withLoader layout binary
    ++ external (partCount layout.clusters + 1) (portCount layout.clusters + 2)
      layout

def onGraph (layout : ChipLayout) (graph : Graph) : Topology where
  layout
  graph
  narrow := ⟨3⟩
  wide := ⟨4⟩
  clusters := (sites 6 8 layout.clusters).map Site.handles
  loaderOut := ⟨⟨portCount layout.clusters⟩⟩
  loaderStart := ⟨⟨portCount layout.clusters + 1⟩⟩

/-- All clusters are added, each after the ones before it. -/
theorem withClusters_makes {layout : ChipLayout} (hlayout : layout.Sound) :
    (layout.clusters.mapM
      (addCluster StandardCluster.build planeHandles)).Makes
      (withClusters layout []) ((sites 6 8 layout.clusters).map Site.handles)
      (withClusters layout layout.clusters) := by
  refine Build.Makes.mapM (withClusters layout)
    (fun clusters => (sites 6 8 clusters).map Site.handles) rfl ?_
  intro before cluster after hsplit
  refine ⟨(nextSite before cluster).handles, ?_,
    addCluster_makes hlayout hsplit⟩
  rw [sites_concat, List.map_append, List.map_singleton]

/-- A path is free that neither the planes have nor any cluster could. -/
theorem lacksPath_withClusters {layout : ChipLayout}
    {clusters : List ClusterLayout} {path : String}
    (hplanes : path ∉ planePaths)
    (hcluster : (nameAfter "board/chip/soc" path).head? ≠ some 'c') :
    (withClusters layout clusters).LacksPath path := by
  rintro part hpart rfl
  rcases List.mem_append.1 hpart with hpart | hpart
  · exact hplanes (List.mem_map_of_mem (f := Part.path) hpart)
  · obtain ⟨site, -, hpart⟩ := mem_parts_joined.1 hpart
    exact not_below_cluster hcluster _ (Site.below hpart)

/-- The loader comes after the clusters, and starts each of them. -/
theorem withLoader_makes (layout : ChipLayout) (binary : Option String) :
    (addLoader planeHandles ((sites 6 8 layout.clusters).map Site.handles)
      (.loader binary layout.loaderEntry)).Makes
        (withClusters layout layout.clusters)
      (⟨⟨portCount layout.clusters⟩⟩, ⟨⟨portCount layout.clusters + 1⟩⟩)
      (withLoader layout binary) := by
  refine addLoader_makes rfl ?_ ?_ ?_ (length_parts_withClusters ..)
    (length_ports_withClusters ..)
  · exact lacksPath_withClusters (by decide) (by decide)
  · rw [portCount]
    omega
  · rintro ports hports
    obtain ⟨site, hsite, rfl⟩ := List.mem_map.1 hports
    have hexit := Site.exit_lt hsite
    simp only [Site.exit] at hexit
    simp only [Site.handles, StandardCluster.handles]
    omega

/-- The external memory is the last thing that is built. -/
theorem inventory_makes (layout : ChipLayout) (binary : Option String) :
    (addExternalMemory planeHandles layout).Makes (withLoader layout binary) ⟨⟩
      (inventory layout binary) := by
  refine addExternalMemory_makes rfl ?_ rfl ?_ (length_parts_withLoader ..)
    (length_ports_withLoader ..)
  · refine Inventory.lacksPath_append.2 ⟨lacksPath_withClusters ?_ ?_, ?_⟩
    · rw [externalPath]
      cases layout.hbmModel <;> decide
    · rw [externalPath]
      cases layout.hbmModel <;> decide
    · simp only [Inventory.LacksPath, loader, externalPath, List.mem_singleton,
        forall_eq]
      cases layout.hbmModel <;> decide
  · rw [portCount]
    omega

/-- Building comes down to validating a graph with the whole inventory. -/
theorem build_eq {layout : ChipLayout} (hlayout : layout.Sound)
    (binary : Option String) :
    ∃ graph : Graph, graph.inventory = inventory layout binary
      ∧ graph.inventory.Sound
      ∧ build layout StandardCluster.build binary =
        graph.validate.map fun _ => onGraph layout graph := by
  have hboard : (Graph.new "board").inventory.Sound := by
    constructor <;> simp [Graph.new, Graph.inventory]
  obtain ⟨hplanes, hrun⟩ := addPlanes_makes hlayout.bootrom_hbm hboard
  obtain ⟨bare, honPlanes, hbare⟩ := hrun (Graph.new "board") rfl
  obtain ⟨hclusters, hrun⟩ := withClusters_makes hlayout hplanes
  obtain ⟨peopled, honClusters, hpeopled⟩ := hrun bare hbare
  obtain ⟨hloader, hrun⟩ := withLoader_makes layout binary hclusters
  obtain ⟨loaded, honLoader, hloaded⟩ := hrun peopled hpeopled
  obtain ⟨hwhole, hrun⟩ := inventory_makes layout binary hloader
  obtain ⟨graph, honExternal, hgraph⟩ := hrun loaded hloaded
  refine ⟨graph, hgraph, hgraph ▸ hwhole, ?_⟩
  simp only [build, steps, on_bind, honPlanes, honClusters, honLoader,
    honExternal, on_get, on_liftExcept]
  cases graph.validate <;> rfl

end ChipFabric.Topology
