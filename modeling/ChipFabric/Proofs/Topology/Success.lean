/-
Every layout that was accepted can be built. The steps that add to the graph
cannot fail (`build_eq`), and neither can its validation: the routers are the
two of the planes and the crossbars of the clusters, and behind each of their
windows is a router or a device that answers.
-/
import ChipFabric.Proofs.Fabric.Validation
import ChipFabric.Proofs.Topology.Wiring

namespace ChipFabric

namespace Topology

variable {layout : ChipLayout} {binary : Option String} {graph : Graph}

-- =========================================================== routers

/-- The narrow router has windows for the boot ROM, the external memory and
the clusters. -/
theorem mem_narrowTable {clusters : List ClusterLayout} {m : Mapping} :
    m ∈ (narrowTable layout clusters).mappings ↔
      m = romMapping layout ∨ m = passMapping layout
        ∨ ∃ cluster ∈ clusters, m = clusterMapping cluster := by
  simp [narrowTable, eq_comm]

theorem router_of_mem {path : String} {table : Router} {exits : List PortId}
    (h : ⟨path, .router table exits⟩ ∈ (inventory layout binary).parts) :
    (path = "board/chip/soc/narrow_axi"
      ∧ table = narrowTable layout layout.clusters
        ∧ exits = narrowExits layout.clusters)
    ∨ (path = "board/chip/soc/wide_axi" ∧ table = wideTable layout
      ∧ exits = [⟨6⟩])
    ∨ ∃ site ∈ sites 6 8 layout.clusters, path = site.top ++ "/" ++ "xbar"
        ∧ table = StandardCluster.crossbarTable site.cluster
        ∧ exits = [⟨site.port + 8⟩, ⟨site.port + 10⟩, ⟨site.port + 12⟩] := by
  simp only [inventory, withLoader, withClusters, Inventory.parts_append,
    List.mem_append] at h
  rcases h with ((h | h) | h) | h
  · simp [planes] at h
    exact h.imp_right .inl
  · obtain ⟨site, hsite, h⟩ := mem_parts_joined.1 h
    rw [Site.inventory, Inventory.parts_append, List.append_nil] at h
    exact .inr (.inr ⟨site, hsite, StandardCluster.router_of_mem h⟩)
  · simp [loader] at h
  · simp [external] at h

/-- Behind every window of the whole chip there is something. -/
theorem validate_eq_ok (hlayout : layout.Sound)
    (hg : graph.inventory = inventory layout binary) :
    graph.validate = .ok () := by
  rw [Graph.validate_eq_ok_iff]
  intro component hcomponent table htable m hm
  obtain ⟨exits, hkind⟩ := Component.exists_kind_of_table? htable
  have hpart : (⟨component.path, .router table exits⟩ : Part) ∈
      (inventory layout binary).parts := by
    rw [← hg, ← hkind]
    exact List.mem_map_of_mem (Array.mem_toList_iff.2 hcomponent)
  obtain ⟨hpath, rfl, rfl⟩ | ⟨hpath, rfl, rfl⟩ | ⟨site, hsite, hpath,
      rfl, rfl⟩ :=
    router_of_mem hpart
  · obtain ⟨hpath', hkind'⟩ := component_narrow hg
    rw [Graph.beyond_congr (hpath.trans hpath'.symm) (hkind.trans hkind'.symm)]
    obtain rfl | rfl | ⟨cluster, hcluster, rfl⟩ := mem_narrowTable.1 hm
    · exact ⟨_, beyond_rom hg⟩
    · exact ⟨_, beyond_pass hg⟩
    · obtain ⟨i, hi⟩ := List.mem_iff_getElem?.1 hcluster
      obtain ⟨site, hsite, -⟩ := getElem?_sites (n := 6) (p := 8) hi
      rw [clusterMapping, hlayout.id_eq i cluster hi]
      exact ⟨_, beyond_cluster hg hsite⟩
  · obtain ⟨hpath', hkind'⟩ := component_wide hg
    rw [Graph.beyond_congr (hpath.trans hpath'.symm) (hkind.trans hkind'.symm)]
    obtain rfl := List.mem_singleton.1 hm
    exact ⟨_, beyond_external hg⟩
  · exact (holds_site hg hsite).exists_beyond_mapping hpath hkind hm

-- ========================================================= statements

theorem build_of_sound (hlayout : layout.Sound) (binary : Option String) :
    ∃ graph : Graph, graph.inventory = inventory layout binary
      ∧ graph.inventory.Sound
      ∧ graph.validate = .ok ()
      ∧ build layout StandardCluster.build binary = .ok
        (onGraph layout graph) := by
  obtain ⟨graph, hg, hs, hbuild⟩ := build_eq hlayout binary
  have hvalid := validate_eq_ok hlayout hg
  rw [hvalid] at hbuild
  exact ⟨graph, hg, hs, hvalid, hbuild⟩

/-- Whatever configuration the layout is of and whatever the loader loads,
the chip is built, with the cores it was laid out with. -/
theorem build_of_plan {config : Config} {chip : ChipLayout}
    (h : ChipLayout.plan config = .ok chip) (binary : Option String) :
    ∃ t, build chip StandardCluster.build binary = .ok t ∧ t.layout = chip
      ∧ t.graph.validate = .ok ()
      ∧ t.clusters.map (·.coreCount) = chip.clusters.map (·.coreCount) := by
  obtain ⟨graph, -, -, hvalid, hbuild⟩ :=
    build_of_sound (ChipLayout.plan_sound h) binary
  refine ⟨_, hbuild, rfl, hvalid, ?_⟩
  conv_rhs => rw [← map_cluster_sites 6 8 chip.clusters]
  rw [List.map_map]
  exact List.map_map

end Topology

/-- Two clusters with one and two cores, and a detailed memory. -/
def pairConfig : Config where
  clusterCount := 2
  clusterCores := [1, 2]
  hbmModel := .dramsys

namespace Topology

theorem pairConfig_builds : ∃ chip, ChipLayout.plan pairConfig = .ok chip ∧
    ∃ t, build chip StandardCluster.build (some "kernel.elf") = .ok t
      ∧ t.layout = chip
      ∧ t.graph.validate = .ok () ∧ t.clusters.map (·.coreCount) = [1, 2] := by
  obtain ⟨chip, hplan, hcores⟩ : ∃ chip, ChipLayout.plan pairConfig = .ok chip
      ∧ chip.clusters.map (·.coreCount) = [1, 2] := ⟨_, rfl, rfl⟩
  obtain ⟨t, hbuild, hlayout, hvalid, hcounts⟩ :=
    build_of_plan hplan (some "kernel.elf")
  exact ⟨chip, hplan, t, hbuild, hlayout, hvalid, hcounts.trans hcores⟩

end Topology

end ChipFabric
