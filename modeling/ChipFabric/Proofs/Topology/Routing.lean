/-
The address map that the finished chip routes by. Every address that enters
the narrow plane goes to the boot ROM, to the external memory, to a memory
of the cluster whose region holds it, or nowhere; one that enters the wide
plane goes to the external memory or nowhere. `NarrowMap` and `WideMap` say
for one address which it is, through which hops, and what the device sees;
`routes_of_plan` says it of all addresses.

# Rebasing

Each access is counted from the base of a window at exactly one of its hops:
the wide router does it for the external memory, which the narrow router
passes on as it is, and the narrow router does it for a cluster, whose
crossbar has windows that count from the start of the cluster.
-/
import ChipFabric.Proofs.Topology.Success
import ChipFabric.Topology.Query

namespace ChipFabric.Topology

-- ======================================================== statements

/-- The result is a route through those hops to the device that stands at
that path. -/
def Answers (t : Topology) (result : Except Fault Route) (device : Device)
    (path : String) (localAddr : Nat) (attrs : MappingAttrs)
    (hops : List Hop) : Prop :=
  ∃ target, t.graph.lookup? path = some target
    ∧ (t.graph.component target).kind = .device device
    ∧ result = .ok { target, targetPath := path, localAddr, hops, attrs }

/-- Where an address goes that enters the narrow plane. -/
structure NarrowMap (chip : ChipLayout) (t : Topology) (addr : Nat) :
    Prop where
  bootrom : addr ∈ chip.bootrom →
    t.Answers (t.resolveNarrow addr) (.bootRom chip.bootrom.size)
      "board/chip/soc/rom" (addr - chip.bootrom.base) {}
      [⟨"board/chip/soc/narrow_axi", ⟨chip.bootrom, ⟨0⟩, true, {}⟩, addr,
        addr - chip.bootrom.base⟩]
  hbm : addr ∈ chip.hbm →
    t.Answers (t.resolveNarrow addr) (.hbm chip.hbmModel chip.hbm.size)
      (externalPath chip) (addr - chip.hbm.base)
      { latency := some chip.interconnect.hbmLatency.toNat }
      [⟨"board/chip/soc/narrow_axi", ⟨chip.hbm, ⟨1⟩, false, {}⟩, addr, addr⟩,
        ⟨"board/chip/soc/wide_axi", hbmMapping chip, addr,
          addr - chip.hbm.base⟩]
  /-- The memory of the cluster whose window holds the offset. -/
  memory : ∀ i cluster, chip.clusters[i]? = some cluster →
    addr ∈ cluster.region →
    ∀ k place, (StandardCluster.places cluster)[k]? = some place →
      addr - cluster.region.base ∈ place.window →
      t.Answers (t.resolveNarrow addr) place.device
        (clusterPath i ++ "/" ++ place.name) (addr - cluster.region.base) {}
        [⟨"board/chip/soc/narrow_axi",
          ⟨cluster.region, ⟨2 + i⟩, true, {}⟩, addr,
            addr - cluster.region.base⟩,
          ⟨clusterPath i ++ "/" ++ "xbar", ⟨place.window, ⟨k⟩, false, {}⟩,
            addr - cluster.region.base, addr - cluster.region.base⟩]
  /-- No memory of the cluster has the offset. -/
  gap : ∀ cluster ∈ chip.clusters, addr ∈ cluster.region →
    (∀ place ∈ StandardCluster.places cluster,
      addr - cluster.region.base ∉ place.window) →
    t.resolveNarrow addr = .error
      (.unmappedAddress "xbar" (addr - cluster.region.base))
  unmapped : addr ∉ chip.bootrom → addr ∉ chip.hbm →
    (∀ cluster ∈ chip.clusters, addr ∉ cluster.region) →
    t.resolveNarrow addr = .error (.unmappedAddress "narrow_axi" addr)

/-- Where an address goes that enters the wide plane. -/
structure WideMap (chip : ChipLayout) (t : Topology) (addr : Nat) : Prop where
  hbm : addr ∈ chip.hbm →
    t.Answers (t.resolveWide addr) (.hbm chip.hbmModel chip.hbm.size)
      (externalPath chip) (addr - chip.hbm.base)
      { latency := some chip.interconnect.hbmLatency.toNat }
      [⟨"board/chip/soc/wide_axi", hbmMapping chip, addr,
        addr - chip.hbm.base⟩]
  unmapped : addr ∉ chip.hbm → t.resolveWide addr = .error
    (.unmappedAddress "wide_axi" addr)

/-- A route to a device of the inventory answers there. -/
theorem answers_of_route {layout : ChipLayout} {graph : Graph}
    (hs : graph.inventory.Sound) {id : ComponentId} {path : String}
    {device : Device} {result : Except Fault Route} {localAddr : Nat}
    {attrs : MappingAttrs} {hops : List Hop}
    (hpart : graph.inventory.parts[id.index]? = some ⟨path, .device device⟩)
    (hresult : result = .ok
      { target := id, targetPath := path, localAddr, hops, attrs }) :
    (onGraph layout graph).Answers result device path localAddr attrs hops :=
  ⟨id, graph.lookup?_of_sound hs id hpart,
    (graph.component_of_inventory id hpart).2, hresult⟩

-- ============================================================ tables

section

variable {layout : ChipLayout} {binary : Option String} {graph : Graph}
  {addr issued hops : Nat} (hg : graph.inventory = inventory layout binary)
  (hs : graph.inventory.Sound)
include hg hs

theorem sound_narrowTable : (narrowTable layout layout.clusters).Sound :=
  hs.tables _ (List.mem_of_getElem? (congrArg (·.parts[3]?) hg)) _ _ rfl

theorem sound_wideTable : (wideTable layout).Sound :=
  hs.tables _ (List.mem_of_getElem? (congrArg (·.parts[4]?) hg)) _ _ rfl

-- ============================================================== hops

theorem routeWithin_wide (haddr : addr ∈ layout.hbm) :
    graph.routeWithin issued (hops + 1) ⟨4⟩ addr = .ok {
      target := ⟨partCount layout.clusters + 1⟩
      targetPath := externalPath layout
      localAddr := addr - layout.hbm.base
      hops :=
        [⟨"board/chip/soc/wide_axi", hbmMapping layout, addr,
          addr - layout.hbm.base⟩]
      attrs := { latency := some layout.interconnect.hbmLatency.toNat } } := by
  obtain ⟨hwide, hkind⟩ := component_wide hg
  obtain ⟨hexternal, hdevice⟩ := component_external hg
  have hat : (wideTable layout).mappingAt? addr = some (hbmMapping layout) :=
    (sound_wideTable hg hs).mappingAt?_eq_some_iff.2
      ⟨List.mem_singleton_self _, haddr⟩
  rw [Graph.routeWithin_device (Component.table?_of_kind hkind) hat
    (beyond_external hg) (Component.isTerminal_of_kind hdevice rfl), hexternal,
    Graph.hopOf, hwide]
  rfl

/-- The hop out of the narrow router to the boot ROM. -/
theorem routeWithin_rom (haddr : addr ∈ layout.bootrom) :
    graph.routeWithin issued (hops + 1) ⟨3⟩ addr = .ok {
      target := ⟨5⟩
      targetPath := "board/chip/soc/rom"
      localAddr := addr - layout.bootrom.base
      hops :=
        [⟨"board/chip/soc/narrow_axi", romMapping layout, addr,
          addr - layout.bootrom.base⟩]
      attrs := {} } := by
  obtain ⟨hnarrow, hkind⟩ := component_narrow hg
  obtain ⟨hrom, hdevice⟩ := component_rom hg
  have hat : (narrowTable layout layout.clusters).mappingAt? addr =
      some (romMapping layout) :=
    (sound_narrowTable hg hs).mappingAt?_eq_some_iff.2
      ⟨mem_narrowTable.2 (.inl rfl), haddr⟩
  rw [Graph.routeWithin_device (Component.table?_of_kind hkind) hat
    (beyond_rom hg) (Component.isTerminal_of_kind hdevice rfl), hrom,
    Graph.hopOf, hnarrow]
  rfl

/-- The hop from the narrow router to the wide one. -/
theorem routeWithin_pass (haddr : addr ∈ layout.hbm) :
    graph.routeWithin issued (hops + 1) ⟨3⟩ addr =
      (graph.routeWithin issued hops ⟨4⟩ addr).map fun onward => { onward with
        hops := ⟨"board/chip/soc/narrow_axi", passMapping layout, addr, addr⟩
          :: onward.hops } := by
  obtain ⟨hnarrow, hkind⟩ := component_narrow hg
  have hat : (narrowTable layout layout.clusters).mappingAt? addr =
      some (passMapping layout) :=
    (sound_narrowTable hg hs).mappingAt?_eq_some_iff.2
      ⟨mem_narrowTable.2 (.inr (.inl rfl)), haddr⟩
  rw [Graph.routeWithin_router (Component.table?_of_kind hkind) hat
    (beyond_pass hg) (Component.isRouter_of_kind (component_wide hg).2),
    Graph.hopOf, hnarrow]
  rfl

/-- The hop out of the narrow router to a cluster. -/
theorem routeWithin_cluster (hlayout : layout.Sound) {i : Nat} {site : Site}
    (hsite : (sites 6 8 layout.clusters)[i]? = some site)
    (haddr : addr ∈ site.cluster.region) :
    graph.routeWithin issued (hops + 1) ⟨3⟩ addr =
      (graph.routeWithin issued hops ⟨site.part + 1⟩
        (addr - site.cluster.region.base)).map fun onward => { onward with
        hops := ⟨"board/chip/soc/narrow_axi",
          ⟨site.cluster.region, ⟨2 + i⟩, true, {}⟩, addr,
          addr - site.cluster.region.base⟩ :: onward.hops } := by
  obtain ⟨hnarrow, hkind⟩ := component_narrow hg
  have hmem := List.mem_of_getElem? hsite
  have hcluster : layout.clusters[i]? = some site.cluster := by
    rw [← map_cluster_sites 6 8 layout.clusters, List.getElem?_map, hsite,
      Option.map_some]
  have hat : (narrowTable layout layout.clusters).mappingAt? addr =
      some (clusterMapping site.cluster) :=
    (sound_narrowTable hg hs).mappingAt?_eq_some_iff.2
      ⟨mem_narrowTable.2 (.inr (.inr ⟨_, List.mem_of_getElem? hcluster, rfl⟩)),
        haddr⟩
  rw [clusterMapping, hlayout.id_eq i site.cluster hcluster] at hat
  rw [Graph.routeWithin_router (Component.table?_of_kind hkind) hat
    (beyond_cluster hg hsite)
    (Component.isRouter_of_kind (component_crossbar hg hmem).2),
    Graph.hopOf, hnarrow]
  rfl

theorem routeWithin_crossbar {site : Site}
    (h : site ∈ sites 6 8 layout.clusters) {k : Nat}
    {place : StandardCluster.Place}
    (hplace : (StandardCluster.places site.cluster)[k]? = some place)
    (haddr : addr ∈ place.window) :
    graph.routeWithin issued (hops + 1) ⟨site.part + 1⟩ addr = .ok {
      target := ⟨site.part + (2 + k)⟩
      targetPath := site.top ++ "/" ++ place.name
      localAddr := addr
      hops :=
        [⟨site.top ++ "/" ++ "xbar", ⟨place.window, ⟨k⟩, false, {}⟩,
          addr, addr⟩]
      attrs := {} } :=
  (holds_site hg h).routeWithin_crossbar hs hplace haddr

/-- There is none where no memory has the address. -/
theorem routeWithin_gap {site : Site} (h : site ∈ sites 6 8 layout.clusters)
    (hout : ∀ place ∈ StandardCluster.places site.cluster,
      addr ∉ place.window) :
    graph.routeWithin issued (hops + 1) ⟨site.part + 1⟩ addr =
      .error (.unmappedAddress "xbar" addr) :=
  (holds_site hg h).routeWithin_gap hs hout

-- ============================================================== maps

/-- The narrow plane routes by its map. -/
theorem narrowMap_of_sound (hlayout : layout.Sound) (addr : Nat) :
    NarrowMap layout (onGraph layout graph) addr := by
  have hroute : (onGraph layout graph).resolveNarrow addr =
      graph.routeWithin addr (15 + 1) ⟨3⟩ addr := rfl
  constructor
  case bootrom =>
    intro haddr
    exact answers_of_route hs (congrArg (·.parts[5]?) hg)
      (hroute.trans (routeWithin_rom hg hs haddr))
  case hbm =>
    intro haddr
    refine answers_of_route hs (hg ▸ part_external) (hroute.trans ?_)
    rw [routeWithin_pass hg hs haddr, routeWithin_wide hg hs haddr]
    rfl
  case memory =>
    intro i cluster hcluster haddr k place hplace hin
    obtain ⟨site, hsite, rfl⟩ := getElem?_sites (n := 6) (p := 8) hcluster
    have hmem := List.mem_of_getElem? hsite
    have htop : site.top = clusterPath i := by
      rw [Site.top, hlayout.id_eq i _ hcluster]
    rw [← htop]
    refine answers_of_route hs
      (part_site hg hmem (StandardCluster.part_place hplace)) (hroute.trans ?_)
    rw [routeWithin_cluster hg hs hlayout hsite haddr,
      routeWithin_crossbar hg hs hmem hplace hin]
    rfl
  case gap =>
    intro cluster hcluster haddr hout
    obtain ⟨i, hi⟩ := List.mem_iff_getElem?.1 hcluster
    obtain ⟨site, hsite, rfl⟩ := getElem?_sites (n := 6) (p := 8) hi
    have hmem := List.mem_of_getElem? hsite
    rw [hroute, routeWithin_cluster hg hs hlayout hsite haddr,
      routeWithin_gap hg hs hmem hout]
    rfl
  case unmapped =>
    intro hrom hhbm hclusters
    obtain ⟨-, hkind⟩ := component_narrow hg
    have hat : (narrowTable layout layout.clusters).mappingAt?
        addr = none := by
      refine (sound_narrowTable hg hs).mappingAt?_eq_none_iff.2 fun m hm => ?_
      obtain rfl | rfl | ⟨cluster, hcluster, rfl⟩ := mem_narrowTable.1 hm
      · exact hrom
      · exact hhbm
      · exact hclusters cluster hcluster
    exact hroute.trans
      (Graph.routeWithin_unmapped (Component.table?_of_kind hkind) hat)

theorem wideMap_of_sound (addr : Nat) : WideMap layout (onGraph layout graph)
    addr := by
  have hroute : (onGraph layout graph).resolveWide addr =
      graph.routeWithin addr (15 + 1) ⟨4⟩ addr := rfl
  constructor
  case hbm =>
    intro haddr
    exact answers_of_route hs (hg ▸ part_external)
      (hroute.trans (routeWithin_wide hg hs haddr))
  case unmapped =>
    intro haddr
    obtain ⟨-, hkind⟩ := component_wide hg
    have hat : (wideTable layout).mappingAt? addr = none := by
      refine (sound_wideTable hg hs).mappingAt?_eq_none_iff.2 fun m hm => ?_
      obtain rfl := List.mem_singleton.1 hm
      exact haddr
    exact hroute.trans
      (Graph.routeWithin_unmapped (Component.table?_of_kind hkind) hat)

end

/-- Whatever configuration the layout is of and whatever the loader loads,
the chip is built and routes every address by these maps. -/
theorem routes_of_plan {config : Config} {chip : ChipLayout}
    (h : ChipLayout.plan config = .ok chip) (binary : Option String) :
    ∃ t, build chip StandardCluster.build binary = .ok t ∧ t.layout = chip
      ∧ ∀ addr, NarrowMap chip t addr ∧ WideMap chip t addr := by
  have hlayout := ChipLayout.plan_sound h
  obtain ⟨graph, hg, hs, -, hbuild⟩ := build_of_sound hlayout binary
  exact ⟨_, hbuild, rfl, fun addr =>
    ⟨narrowMap_of_sound hg hs hlayout addr, wideMap_of_sound hg hs addr⟩⟩

/-- With two clusters: an address in the second one, one in the external
memory, and the first one after the clusters. -/
theorem pairConfig_routes : ∃ chip, ChipLayout.plan pairConfig = .ok chip ∧
    ∃ t, build chip StandardCluster.build none = .ok t
      ∧ (∀ addr, NarrowMap chip t addr ∧ WideMap chip t addr)
      ∧ (∃ route, t.resolveNarrow 0x10040010 = .ok route
        ∧ route.targetPath = "board/chip/soc/cluster_1/tcdm"
        ∧ route.localAddr = 0x10)
      ∧ (∃ route, t.resolveWide 0x80000100 = .ok route
        ∧ route.targetPath = "board/ddr"
        ∧ route.localAddr = 0x100)
      ∧ t.resolveNarrow 0x10080000 = .error
        (.unmappedAddress "narrow_axi" 0x10080000) := by
  obtain ⟨chip, cluster, hplan, hcluster, hregion, htcdm, hhbm, hnone⟩ :
      ∃ chip cluster, ChipLayout.plan pairConfig = .ok chip
      ∧ chip.clusters[1]? = some cluster
        ∧ (0x10040010 ∈ cluster.region ∧ cluster.region.base = 0x10040000)
        ∧ 0x10 ∈ cluster.tcdm
        ∧ (0x80000100 ∈ chip.hbm ∧ chip.hbm.base = 0x80000000
          ∧ externalPath chip = "board/ddr")
        ∧ (0x10080000 ∉ chip.bootrom ∧ 0x10080000 ∉ chip.hbm
          ∧ ∀ cluster ∈ chip.clusters, 0x10080000 ∉ cluster.region) :=
    ⟨_, _, rfl, rfl, by decide, by decide, by decide, by decide⟩
  obtain ⟨t, hbuild, -, hmaps⟩ := routes_of_plan hplan none
  refine ⟨chip, hplan, t, hbuild, hmaps, ?_, ?_, ?_⟩
  · obtain ⟨target, -, -, hroute⟩ :=
      (hmaps 0x10040010).1.memory 1 cluster hcluster hregion.1 0 _
      rfl (by rw [hregion.2]; exact htcdm)
    have hpath : clusterPath 1 ++ "/" ++ "tcdm" =
      "board/chip/soc/cluster_1/tcdm" := by decide
    exact ⟨_, hroute, hpath, by rw [hregion.2]⟩
  · obtain ⟨target, -, -, hroute⟩ := (hmaps 0x80000100).2.hbm hhbm.1
    exact ⟨_, hroute, hhbm.2.2, by rw [hhbm.2.1]⟩
  · exact (hmaps 0x10080000).1.unmapped hnone.1 hnone.2.1 hnone.2.2

end ChipFabric.Topology
