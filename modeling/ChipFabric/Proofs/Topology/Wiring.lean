/-
Where the outputs of the routers lead, in a graph of the whole inventory.
Every port that an output is bound to is bound once, so each window leads
along one chain: the narrow router's to the boot ROM, to the wide router and
to the crossbars, the wide router's out to the board, and a crossbar's to
its memories.

# Reading the inventory

What the planes have stands at its own numbers, and what a site has at the
numbers of the site. A binding is looked for by its source, and the sources
of the planes, of each site, and of the rest are apart
(`targets_of_lt`, `targets_site`).
-/
import ChipFabric.Proofs.Topology.Crossbar
import ChipFabric.Proofs.Topology.Whole

namespace ChipFabric

namespace Topology

-- ============================================================= sites

/-- The output to a cluster leads to its boundary. -/
theorem Site.targets_exit (site : Site) :
    site.inventory.targets site.exit = [⟨site.port⟩] := by
  rw [Site.inventory, Inventory.targets_append, Inventory.targets_eq_nil]
  · have hnarrow : site.port + 3 ≠ site.exit.index := by
      simp only [Site.exit]
      omega
    have hwide : site.port + 4 ≠ site.exit.index := by
      simp only [Site.exit]
      omega
    simp [Inventory.targets, PortId.ext_iff, hnarrow, hwide]
  · intro b hb
    obtain ⟨-, hlt⟩ := StandardCluster.source_of_mem_inventory _ _ _ _ b hb
    simp only [Site.exit]
    omega

/-- Nor do the bindings to the planes start in front of the memories. -/
theorem Site.targets_fixed (site : Site) {k : Nat} (hk : k < 13)
    (hne : k ∉ [2, 3, 4]) :
    site.inventory.targets ⟨site.port + k⟩ =
      (StandardCluster.fixed site.part site.port site.top site.cluster).targets
        ⟨site.port + k⟩ := by
  simp only [List.mem_cons, List.not_mem_nil, or_false, not_or] at hne
  rw [Site.inventory, Inventory.targets_append,
    StandardCluster.targets_inventory hk hne.1, Inventory.targets_eq_nil
    (s := ⟨[], _, _⟩), List.append_nil]
  simp only [Site.exit, List.mem_cons, List.not_mem_nil, or_false,
    forall_eq_or_imp, forall_eq]
  omega

-- ============================================================= whole

variable {layout : ChipLayout} {binary : Option String}

/-- Below the first site there are the bindings of the planes and of the
external memory. -/
theorem targets_of_lt {source : PortId} (h : source.index < 8)
    (narrow wide : ComponentKind) :
    (inventory layout binary).targets source =
      (planes layout narrow wide).targets source
        ++ (external (partCount layout.clusters + 1)
          (portCount layout.clusters + 2)
          layout).targets source := by
  have hplanes : ∀ narrow' wide',
      (planes layout narrow' wide').targets source =
      (planes layout narrow wide).targets source := fun _ _ => rfl
  rw [inventory, withLoader, withClusters]
  simp only [Inventory.targets_append]
  rw [hplanes, Inventory.targets_eq_nil (s := joined _),
    Inventory.targets_eq_nil (s := loader ..), List.append_nil,
    List.append_nil]
  · intro b hb
    have hsource := source_of_mem_loader b hb
    rw [portCount] at hsource
    omega
  · intro b hb
    obtain ⟨site, hsite, hb⟩ := mem_bindings_joined.1 hb
    have hsource := (Site.source hb).1
    have hport := (mem_sites hsite).2.2
    omega

/-- The whole chip around a site. -/
theorem inventory_of_mem (binary : Option String) {site : Site}
    (h : site ∈ sites 6 8 layout.clusters) :
    ∃ front back : Inventory, inventory layout binary =
      front ++ site.inventory ++ back
      ∧ front.parts.length = site.part ∧ front.ports.length = site.port
      ∧ (∀ b ∈ front.bindings, b.source.index < site.port)
      ∧ ∀ b ∈ back.bindings, b.source.index < site.port
        ∨ site.exit.index < b.source.index := by
  obtain ⟨before, after, heq, hpart, hport, hbefore, hafter⟩ := joined_of_mem h
  obtain ⟨-, -, hle⟩ := mem_sites h
  have hlt := Site.exit_lt h
  have hsplit : ∀ first loader last : Inventory,
      first ++ (before ++ site.inventory ++ after) ++ loader ++ last =
        first ++ before ++ site.inventory ++ (after ++ loader ++ last) := by
    simp [Inventory.append_assoc]
  rw [inventory, withLoader, withClusters, heq]
  refine ⟨_, _, hsplit _ _ _, ?_, ?_, ?_, ?_⟩
  · rw [Inventory.parts_append, List.length_append]
    exact hpart
  · rw [Inventory.ports_append, List.length_append]
    exact hport
  · refine List.forall_mem_append.2 ⟨?_, hbefore⟩
    simp only [planes, List.mem_cons, List.not_mem_nil, or_false,
      forall_eq_or_imp, forall_eq]
    omega
  · refine List.forall_mem_append.2 ⟨List.forall_mem_append.2 ⟨?_, ?_⟩, ?_⟩
    · exact fun b hb => .inr (hafter b hb)
    · exact fun b hb =>
        .inr (Nat.lt_of_lt_of_le hlt (source_of_mem_loader b hb))
    · simp only [external, List.mem_cons, List.not_mem_nil, or_false,
        forall_eq_or_imp, forall_eq]
      omega

/-- The external memory is the last component. -/
theorem part_external :
    (inventory layout binary).parts[partCount layout.clusters + 1]? =
    some ⟨externalPath layout,
      .device (.hbm layout.hbmModel layout.hbm.size)⟩ := by
  rw [← length_parts_withLoader layout binary]
  exact List.getElem?_concat_length

theorem port_external :
    (inventory layout binary).ports[portCount layout.clusters + 2]? =
    some ⟨⟨partCount layout.clusters + 1⟩, Router.defaultInput, .input,
      Signal.io.signature⟩ := by
  rw [← length_ports_withLoader layout binary]
  exact List.getElem?_concat_length

theorem getElem?_sites {n p : Nat} {clusters : List ClusterLayout} {i : Nat}
    {cluster : ClusterLayout} (h : clusters[i]? = some cluster) :
    ∃ site, (sites n p clusters)[i]? = some site ∧ site.cluster = cluster := by
  have hmap : ((sites n p clusters).map (·.cluster))[i]? = some cluster := by
    rw [map_cluster_sites, h]
  rw [List.getElem?_map, Option.map_eq_some_iff] at hmap
  exact hmap

-- ============================================================ graphs

section

variable {graph : Graph} (hg : graph.inventory = inventory layout binary)
include hg

/-- A component of a site has the number of the site and its own. -/
theorem part_site {site : Site} (h : site ∈ sites 6 8 layout.clusters)
    {k : Nat} {part : Part}
    (hpart : (StandardCluster.inventory site.part site.port site.top
      site.cluster).parts[k]? = some part) :
    graph.inventory.parts[site.part + k]? = some part := by
  obtain ⟨front, back, heq, hlength, -⟩ := inventory_of_mem binary h
  obtain ⟨hlt, -⟩ := List.getElem?_eq_some_iff.1 hpart
  rw [hg, heq, Inventory.append_assoc]
  refine Inventory.getElem?_parts_append hlength ?_
  simpa [Site.inventory, List.getElem?_append_left hlt] using hpart

theorem port_site {site : Site} (h : site ∈ sites 6 8 layout.clusters)
    {k : Nat} {port : Port}
    (hport : (StandardCluster.inventory site.part site.port site.top
      site.cluster).ports[k]? = some port) :
    graph.inventory.ports[site.port + k]? = some port := by
  obtain ⟨front, back, heq, -, hlength, -⟩ := inventory_of_mem binary h
  obtain ⟨hlt, -⟩ := List.getElem?_eq_some_iff.1 hport
  rw [hg, heq, Inventory.append_assoc]
  refine Inventory.getElem?_ports_append hlength ?_
  simpa [Site.inventory, List.getElem?_append_left hlt] using hport

/-- What starts at a port of a site is bound by the site. -/
theorem targets_site {site : Site} (h : site ∈ sites 6 8 layout.clusters)
    {source : PortId} (hle : site.port ≤ source.index)
    (hge : source.index ≤ site.exit.index) :
    graph.inventory.targets source = site.inventory.targets source := by
  obtain ⟨front, back, heq, -, -, hfront, hback⟩ := inventory_of_mem binary h
  rw [hg, heq, Inventory.targets_append, Inventory.targets_append,
    Inventory.targets_eq_nil (s := front), Inventory.targets_eq_nil
      (s := back), List.nil_append,
    List.append_nil]
  · intro b hb
    have hsource := hback b hb
    omega
  · intro b hb
    have hsource := hfront b hb
    omega

/-- There are more ports than any chain of bindings here is long. -/
theorem two_le_size : 2 ≤ graph.ports.size := by
  have hplanes : 8 ≤ (inventory layout binary).ports.length :=
    Nat.le_add_left _ _
  rw [graph.size_ports_eq, hg]
  omega

theorem component_narrow : graph.path ⟨3⟩ = "board/chip/soc/narrow_axi" ∧
    (graph.component ⟨3⟩).kind =
      .router (narrowTable layout layout.clusters)
        (narrowExits layout.clusters) :=
  graph.component_of_inventory ⟨3⟩ (congrArg (·.parts[3]?) hg)

theorem component_wide : graph.path ⟨4⟩ = "board/chip/soc/wide_axi" ∧
    (graph.component ⟨4⟩).kind = .router (wideTable layout) [⟨6⟩] :=
  graph.component_of_inventory ⟨4⟩ (congrArg (·.parts[4]?) hg)

theorem component_rom : graph.path ⟨5⟩ = "board/chip/soc/rom" ∧
    (graph.component ⟨5⟩).kind = .device (.bootRom layout.bootrom.size) :=
  graph.component_of_inventory ⟨5⟩ (congrArg (·.parts[5]?) hg)

theorem component_external : graph.path ⟨partCount layout.clusters + 1⟩ =
    externalPath layout ∧
    (graph.component ⟨partCount layout.clusters + 1⟩).kind =
      .device (.hbm layout.hbmModel layout.hbm.size) :=
  graph.component_of_inventory ⟨partCount layout.clusters + 1⟩
    (by rw [hg]; exact part_external)

/-- The graph holds the cluster of each site. -/
theorem holds_site {site : Site} (h : site ∈ sites 6 8 layout.clusters) :
    StandardCluster.Holds graph site.part site.port site.top site.cluster where
  part := part_site hg h
  port := port_site hg h
  targets hk hne := by
    rw [targets_site hg h (Nat.le_add_right _ _)
      (by simp only [Site.exit]; omega), site.targets_fixed hk hne]

theorem component_crossbar {site : Site}
    (h : site ∈ sites 6 8 layout.clusters) :
    graph.path ⟨site.part + 1⟩ = site.top ++ "/" ++ "xbar" ∧
      (graph.component ⟨site.part + 1⟩).kind =
        .router (StandardCluster.crossbarTable site.cluster)
          [⟨site.port + 8⟩, ⟨site.port + 10⟩, ⟨site.port + 12⟩] :=
  (holds_site hg h).component_crossbar

/-- The boot ROM is behind the first output of the narrow router. -/
theorem beyond_rom : graph.beyond (graph.component ⟨3⟩) ⟨0⟩ = .ok ⟨5⟩ := by
  have hsingle : graph.Single 0 ⟨5⟩ ⟨4⟩ := by
    refine .of_input ?_ (congrArg (·.ports[4]?) hg)
    rw [hg, targets_of_lt (by decide) .group .group]
    rfl
  have hexit : (narrowExits layout.clusters)[0]? = some ⟨5⟩ := rfl
  refine hsingle.beyond_of_inventory (Nat.zero_le _)
    (congrArg (·.parts[3]?) hg) hexit (congrArg (·.ports[4]?) hg) (.inr ?_)
  exact Component.isTerminal_of_kind (component_rom hg).2 rfl

/-- The wide router is behind the second. -/
theorem beyond_pass : graph.beyond (graph.component ⟨3⟩) ⟨1⟩ = .ok ⟨4⟩ := by
  have hsingle : graph.Single 0 ⟨7⟩ ⟨3⟩ := by
    refine .of_input ?_ (congrArg (·.ports[3]?) hg)
    rw [hg, targets_of_lt (by decide) .group .group]
    rfl
  have hexit : (narrowExits layout.clusters)[1]? = some ⟨7⟩ := rfl
  refine hsingle.beyond_of_inventory (Nat.zero_le _)
    (congrArg (·.parts[3]?) hg) hexit (congrArg (·.ports[3]?) hg) (.inl ?_)
  exact Component.isRouter_of_kind (component_wide hg).2

/-- The crossbars are behind the others, in the order of the clusters. -/
theorem beyond_cluster {i : Nat} {site : Site}
    (h : (sites 6 8 layout.clusters)[i]? = some site) :
    graph.beyond (graph.component ⟨3⟩) ⟨2 + i⟩ = .ok ⟨site.part + 1⟩ := by
  have hmem := List.mem_of_getElem? h
  have hsingle : graph.Single 1 site.exit ⟨site.port + 5⟩ := by
    refine .of_forward ?_ (port_site hg hmem StandardCluster.port_narrowInput)
      (.of_input ?_ (port_site hg hmem StandardCluster.port_crossbarInput))
    · rw [targets_site hg hmem (by simp only [Site.exit]; omega)
        (Nat.le_refl _), Site.targets_exit]
      rfl
    · exact ((holds_site hg hmem).targets (k := 0) (by decide)
        (by decide)).trans StandardCluster.targets_narrowInput
  have hexit : (narrowExits layout.clusters)[2 + i]? = some site.exit := by
    rw [narrowExits, List.getElem?_append_right (Nat.le_add_right 2 i)]
    simp [h]
  have hsize := two_le_size hg
  refine hsingle.beyond_of_inventory (by omega)
    (congrArg (·.parts[3]?) hg) hexit
    (port_site hg hmem StandardCluster.port_crossbarInput) (.inl ?_)
  exact Component.isRouter_of_kind (component_crossbar hg hmem).2

/-- The external memory is behind the output of the wide router. -/
theorem beyond_external :
    graph.beyond (graph.component ⟨4⟩) ⟨0⟩ = .ok
      ⟨partCount layout.clusters + 1⟩ := by
  have hsingle : graph.Single 2 ⟨6⟩ ⟨portCount layout.clusters + 2⟩ := by
    refine .of_forward (q := 1) ?_ (congrArg (·.ports[1]?) hg)
      (.of_forward (q := 0) ?_ (congrArg (·.ports[0]?) hg)
        (.of_input ?_ (hg ▸ port_external)))
    all_goals
      rw [hg, targets_of_lt (by decide) .group .group]
      rfl
  have hexit : [(⟨6⟩ : PortId)][0]? = some ⟨6⟩ := rfl
  refine hsingle.beyond_of_inventory (two_le_size hg)
    (congrArg (·.parts[4]?) hg) hexit (hg ▸ port_external) (.inr ?_)
  exact Component.isTerminal_of_kind (component_external hg).2 rfl

/-- The memories are behind the outputs of the crossbar. -/
theorem beyond_place {site : Site} (h : site ∈ sites 6 8 layout.clusters)
    {k : Nat} {place : StandardCluster.Place}
    (hplace : (StandardCluster.places site.cluster)[k]? = some place) :
    graph.beyond (graph.component ⟨site.part + 1⟩) ⟨k⟩ = .ok
      ⟨site.part + (2 + k)⟩ :=
  (holds_site hg h).beyond_place hplace

end

end Topology

end ChipFabric
