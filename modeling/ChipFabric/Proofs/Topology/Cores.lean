/-
The cores of the finished chip. They are created cluster by cluster, and the
running counter of the layout is their number in the order of creation: the
cores carry the harts from zero on. `CoreMap` says where the core of a hart
stands and what the loader's start signal leads to; `cores_of_plan` says
that this holds of every chip that is laid out.

# The start signal

The signal branches twice, to the clusters and in each to its cores. Of the
clusters the last one comes first (`Graph.inputsWithin_of_forwards`), so the
inputs are found in another order than that of the harts.
-/
import ChipFabric.Proofs.Fabric.Reaches
import ChipFabric.Proofs.Layout.Harts
import ChipFabric.Proofs.Topology.Success
import ChipFabric.Topology.Query
import Mathlib.Data.List.Nodup

namespace ChipFabric

open ChipFabric.Topology (Site sites joined)

-- ============================================================= cores

/-- A core as it was created: its component, its hart, and its number in its
cluster. -/
@[ext] structure Core where
  id : ComponentId
  hart : Nat
  localId : Nat

/-- The core that a component of this kind is, under the number `n`. -/
def ComponentKind.core? (n : Nat) : ComponentKind → Option Core
  | .device (.core hart localId) => some ⟨⟨n⟩, hart, localId⟩
  | _ => none

/-- The cores of a graph, in the order they were created. -/
def Graph.cores (g : Graph) : List Core :=
  g.components.toList.zipIdx.filterMap fun (component, n) =>
    component.kind.core? n

/-- The cores of an inventory whose first component has the number `first`. -/
def Inventory.cores (first : Nat) (s : Inventory) : List Core :=
  (s.parts.zipIdx first).filterMap fun (part, n) => part.kind.core? n

theorem Graph.cores_eq (g : Graph) : g.cores = g.inventory.cores 0 := by
  rw [cores, Inventory.cores, inventory, List.zipIdx_map, List.filterMap_map]
  rfl

/-- A core is a component of that kind. -/
theorem Graph.kind_of_mem_cores {g : Graph} {core : Core}
    (h : core ∈ g.cores) :
    (g.component core.id).kind = .device (.core core.hart core.localId) := by
  obtain ⟨⟨c, n⟩, hmem, hcore⟩ := List.mem_filterMap.1 h
  have hc : g.components[n]? = some c := by
    simpa using List.mem_zipIdx_iff_getElem?.1 hmem
  have hat : g.component ⟨n⟩ = c := by simp [component, hc]
  simp only [ComponentKind.core?] at hcore
  split at hcore
  case h_1 hart localId hkind =>
    obtain rfl := Option.some.inj hcore
    rw [hat, hkind]
  case h_2 => cases hcore

theorem Inventory.cores_append (first : Nat) (s t : Inventory) :
    (s ++ t).cores first =
      s.cores first ++ t.cores (first + s.parts.length) := by
  rw [cores, parts_append, List.zipIdx_append, List.filterMap_append]
  rfl

namespace StandardCluster

section

variable {n p : Nat} {top : String} {crossbar narrowSoc fetchEnable : PortId}
  {firstHart : Nat}

/-- The cores of the cluster carry its harts. -/
theorem cores_cores (first count : Nat) :
    (cores n p top crossbar narrowSoc fetchEnable firstHart
      count).cores first =
      (List.range count).map fun j => ⟨⟨first + j⟩, firstHart + j, j⟩ := by
  induction count with
  | zero => rfl
  | succ count ih =>
    rw [cores_succ, Inventory.cores_append, ih, length_parts_cores,
      List.range_succ, List.map_append]
    rfl

theorem part_cores {count j : Nat} (h : j < count) :
    (cores n p top crossbar narrowSoc fetchEnable firstHart count).parts[j]? =
      some ⟨top ++ "/" ++ ("pe" ++ Numeral.decimal j),
        .device (.core (firstHart + j) j)⟩ := by
  induction count with
  | zero => exact absurd h (Nat.not_lt_zero _)
  | succ count ih =>
    rw [cores_succ, Inventory.parts_append]
    by_cases hj : j < count
    · rw [List.getElem?_append_left (by simpa using hj), ih hj]
    · obtain rfl : j = count := by omega
      rw [List.getElem?_append_right (by simp), length_parts_cores,
        Nat.sub_self]
      rfl

/-- Each core has three ports, after those of the cores before it. -/
theorem port_cores {count j k : Nat} {port : Port} (h : j < count)
    (hport : (core (n + j) (p + 3 * j) top crossbar narrowSoc fetchEnable
      firstHart j).ports[k]? = some port) :
    (cores n p top crossbar narrowSoc fetchEnable firstHart
      count).ports[3 * j + k]? = some port := by
  have hk : k < 3 := (List.getElem?_eq_some_iff.1 hport).1
  induction count with
  | zero => exact absurd h (Nat.not_lt_zero _)
  | succ count ih =>
    rw [cores_succ, Inventory.ports_append]
    by_cases hj : j < count
    · rw [List.getElem?_append_left (by simp; omega), ih hj]
    · obtain rfl : j = count := by omega
      rw [List.getElem?_append_right (by simp), length_ports_cores,
        Nat.add_sub_cancel_left, hport]

/-- The start signal of the cluster leads to its cores. -/
theorem targets_fetchEnable {count : Nat} (hfetch : fetchEnable.index < p) :
    (cores n p top crossbar narrowSoc fetchEnable firstHart count).targets
      fetchEnable =
      (List.range count).map fun j => ⟨p + 3 * j + 2⟩ := by
  induction count with
  | zero => rfl
  | succ count ih =>
    rw [cores_succ, Inventory.targets_append, ih, List.range_succ,
      List.map_append]
    have hdata : (⟨p + 3 * count⟩ : PortId) ≠ fetchEnable := by
      rintro rfl
      simp only at hfetch
      omega
    have hsoc : (⟨p + 3 * count + 1⟩ : PortId) ≠ fetchEnable := by
      rintro rfl
      simp only at hfetch
      omega
    simp [Inventory.targets, core, hdata, hsoc]

end

section

variable {n p : Nat} {top : String} {layout : ClusterLayout}

theorem cores_inventory (first : Nat) :
    (inventory n p top layout).cores first =
      (List.range layout.coreCount).map fun j =>
        ⟨⟨first + 5 + j⟩, layout.firstHart + j, j⟩ := by
  rw [inventory, Inventory.cores_append, Inventory.cores_append, cores_cores,
    length_parts_fixed]
  exact List.append_nil _

theorem part_core {j : Nat} (h : j < layout.coreCount) :
    (inventory n p top layout).parts[5 + j]? =
      some ⟨top ++ "/" ++ ("pe" ++ Numeral.decimal j),
        .device (.core (layout.firstHart + j) j)⟩ := by
  rw [inventory, Inventory.append_assoc]
  refine Inventory.getElem?_parts_append (length_parts_fixed ..) ?_
  rw [Inventory.parts_append, List.getElem?_append_left (by simpa using h),
    part_cores h]

theorem port_core {j k : Nat} {port : Port} (h : j < layout.coreCount)
    (hport : (core (n + 5 + j) (p + 13 + 3 * j) top ⟨p + 5⟩ ⟨p + 3⟩ ⟨p + 2⟩
      layout.firstHart j).ports[k]? = some port) :
    (inventory n p top layout).ports[13 + (3 * j + k)]? = some port := by
  have hk : k < 3 := (List.getElem?_eq_some_iff.1 hport).1
  rw [inventory, Inventory.append_assoc]
  refine Inventory.getElem?_ports_append (length_ports_fixed ..) ?_
  rw [Inventory.ports_append, List.getElem?_append_left (by simp; omega),
    port_cores h hport]

theorem port_fetchEnable : (inventory n p top layout).ports[2]? =
    some ⟨⟨n⟩, "fetch_enable", .forward, Signal.wire.signature⟩ := rfl

end

end StandardCluster

-- ============================================================= sites

namespace Topology

namespace Site

/-- The cores of the cluster. -/
def cores (site : Site) : List Core :=
  (List.range site.cluster.coreCount).map fun j =>
    ⟨⟨site.part + (5 + j)⟩, site.cluster.firstHart + j, j⟩

/-- The inputs where its cores are started. -/
def starts (site : Site) : List PortId :=
  (List.range site.cluster.coreCount).map fun j =>
    ⟨site.port + (13 + (3 * j + 2))⟩

theorem harts_cores (site : Site) :
    site.cores.map (·.hart) = site.cluster.harts := by
  rw [cores, List.map_map]
  rfl

theorem cores_inventory (site : Site) :
    site.inventory.cores site.part = site.cores := by
  rw [inventory, Inventory.cores_append, StandardCluster.cores_inventory]
  simp only [cores, Nat.add_assoc]
  exact List.append_nil _

theorem targets_fetchEnable (site : Site) :
    site.inventory.targets ⟨site.port + 2⟩ = site.starts := by
  have hfixed :
      (StandardCluster.fixed site.part site.port site.top site.cluster).targets
      ⟨site.port + 2⟩ = [] := by
    simp [Inventory.targets, StandardCluster.bindings_fixed]
  rw [inventory, StandardCluster.inventory]
  simp only [Inventory.targets_append]
  rw [hfixed, StandardCluster.targets_fetchEnable (by simp only; omega),
    Inventory.targets_eq_nil (s := StandardCluster.engine ..),
    Inventory.targets_eq_nil (s := ⟨[], _, _⟩)]
  · simp [starts, Nat.add_assoc]
  · simp only [exit, List.mem_cons, List.not_mem_nil, or_false,
      forall_eq_or_imp, forall_eq]
    omega
  · simp [StandardCluster.engine]
    omega

end Site

/-- The cores of a row of clusters are created in the order of the row. -/
theorem cores_joined (n p : Nat) (clusters : List ClusterLayout) :
    (joined (sites n p clusters)).cores n = (sites n p clusters).flatMap
      Site.cores := by
  induction clusters generalizing n p with
  | nil => rfl
  | cons cluster rest ih =>
    rw [joined_sites_cons, Inventory.cores_append, Site.length_parts_inventory,
      ih, sites, List.flatMap_cons]
    exact congrArg (· ++ _) (Site.cores_inventory ⟨cluster, n, p⟩)

theorem harts_sites (n p : Nat) (clusters : List ClusterLayout) :
    ((sites n p clusters).flatMap Site.cores).map (·.hart) =
      clusters.flatMap ClusterLayout.harts := by
  conv_rhs => rw [← map_cluster_sites n p clusters]
  rw [List.map_flatMap, List.flatMap_map]
  exact List.flatMap_congr fun site _ => site.harts_cores

/-- Only clusters have cores. -/
theorem cores_inventory (layout : ChipLayout) (binary : Option String) :
    (inventory layout binary).cores 0 = (sites 6 8 layout.clusters).flatMap
      Site.cores := by
  rw [inventory, withLoader, withClusters]
  simp only [Inventory.cores_append]
  refine (List.append_nil _).trans ((List.append_nil _).trans ?_)
  exact cores_joined 6 8 layout.clusters

theorem targets_loader (n p : Nat) (device : Device) (starts : List PortId) :
    (loader n p device starts).targets ⟨p + 1⟩ = starts := by
  have hall : (starts.map fun target => (⟨⟨p + 1⟩, target⟩ : Binding)).filter
      (·.source = ⟨p + 1⟩) = starts.map fun target => ⟨⟨p + 1⟩, target⟩ :=
    List.filter_eq_self.2 (by simp)
  simp only [Inventory.targets, loader, List.filter_cons, hall,
    PortId.mk.injEq, Nat.ne_of_lt (Nat.lt_succ_self p), decide_false,
    Bool.false_eq_true, ↓reduceIte, List.map_map]
  exact List.map_id' starts

/-- After the last site there are the bindings of the loader. -/
theorem targets_of_le {layout : ChipLayout} {binary : Option String}
    {source : PortId} (h : portCount layout.clusters ≤ source.index) :
    (inventory layout binary).targets source =
      (loader (partCount layout.clusters) (portCount layout.clusters)
        (.loader binary layout.loaderEntry)
        (((sites 6 8 layout.clusters).map Site.handles).map
          (·.fetchEnable.port))).targets
        source := by
  have hlate : 8 ≤ portCount layout.clusters := Nat.le_add_right _ _
  rw [inventory, withLoader, withClusters]
  simp only [Inventory.targets_append]
  rw [Inventory.targets_eq_nil (s := planes ..),
    Inventory.targets_eq_nil (s := joined _), Inventory.targets_eq_nil
    (s := external ..), List.append_nil]
  · rfl
  · simp only [external, List.mem_cons, List.not_mem_nil, or_false,
      forall_eq_or_imp, forall_eq]
    omega
  · intro b hb
    obtain ⟨site, hsite, hb⟩ := mem_bindings_joined.1 hb
    have hsource := (Site.source hb).2
    have hexit := Site.exit_lt hsite
    omega
  · simp only [planes, List.mem_cons, List.not_mem_nil, or_false,
      forall_eq_or_imp, forall_eq]
    omega

/-- The loader's start signal leads to the clusters, in their order. -/
theorem targets_loaderStart (layout : ChipLayout) (binary : Option String) :
    (inventory layout binary).targets ⟨portCount layout.clusters + 1⟩ =
      (sites 6 8 layout.clusters).map fun site => ⟨site.port + 2⟩ := by
  rw [targets_of_le (Nat.le_succ _), targets_loader]
  exact List.map_map

section

variable {layout : ChipLayout} {binary : Option String} {graph : Graph}
  (hg : graph.inventory = inventory layout binary)
include hg

/-- A cluster's start signal leads to its cores. -/
theorem targets_clusterStart {site : Site}
    (h : site ∈ sites 6 8 layout.clusters) :
    graph.targets ⟨site.port + 2⟩ = site.starts := by
  rw [← site.targets_fetchEnable]
  exact targets_site hg h (Nat.le_add_right _ _)
    (by simp only [Site.exit]; omega)

theorem part_coreOf {site : Site} (h : site ∈ sites 6 8 layout.clusters)
    {j : Nat} (hj : j < site.cluster.coreCount) :
    graph.inventory.parts[site.part + (5 + j)]? =
      some ⟨site.top ++ "/" ++ ("pe" ++ Numeral.decimal j),
        .device (.core (site.cluster.firstHart + j) j)⟩ :=
  part_site hg h (StandardCluster.part_core hj)

/-- The three ports of a core, with the core as their owner. -/
theorem ports_coreOf {site : Site} (h : site ∈ sites 6 8 layout.clusters)
    {j : Nat} (hj : j < site.cluster.coreCount) :
    graph.inventory.ports[site.port + (13 + 3 * j)]? =
        some ⟨⟨site.part + (5 + j)⟩, "data", .output, Signal.io.signature⟩
      ∧ graph.inventory.ports[site.port + (13 + (3 * j + 1))]? =
        some ⟨⟨site.part + (5 + j)⟩, "soc", .output, Signal.io.signature⟩
      ∧ graph.inventory.ports[site.port + (13 + (3 * j + 2))]? =
        some ⟨⟨site.part + (5 + j)⟩, "fetch_enable", .input,
          Signal.wire.signature⟩ := by
  rw [← Nat.add_assoc site.part]
  exact ⟨port_site hg h (StandardCluster.port_core (k := 0) hj rfl),
    port_site hg h (StandardCluster.port_core hj rfl),
    port_site hg h (StandardCluster.port_core hj rfl)⟩

/-- The loader's start signal leads to all cores, those of the last cluster
first. -/
theorem startTargets_eq : (onGraph layout graph).startTargets =
    .ok ((sites 6 8 layout.clusters).reverse.flatMap Site.starts) := by
  have htargets : graph.targets ⟨portCount layout.clusters + 1⟩ =
      (sites 6 8 layout.clusters).map fun site => ⟨site.port + 2⟩ :=
    (congrArg (·.targets ⟨portCount layout.clusters + 1⟩) hg).trans
      (targets_loaderStart layout binary)
  obtain ⟨depth, hdepth⟩ : ∃ depth, graph.ports.size = depth + 1 :=
    Nat.exists_eq_succ_of_ne_zero
      (Nat.ne_of_gt (Nat.lt_of_lt_of_le Nat.two_pos (two_le_size hg)))
  have hinputs : graph.inputsWithin (depth + 1 + 1)
      ⟨portCount layout.clusters + 1⟩ =
      some ((graph.targets ⟨portCount layout.clusters + 1⟩).reverse.flatMap
        graph.targets) := by
    refine Graph.inputsWithin_of_forwards fun target htarget => ?_
    rw [htargets, List.mem_map] at htarget
    obtain ⟨site, hsite, rfl⟩ := htarget
    refine ⟨?_, Graph.inputsWithin_of_inputs (fun input hinput => ?_) depth⟩
    · rw [Graph.isForward_eq_true_iff,
        graph.port_of_inventory ⟨_⟩
          (port_site hg hsite StandardCluster.port_fetchEnable)]
    · rw [targets_clusterStart hg hsite, Site.starts, List.mem_map] at hinput
      obtain ⟨j, hj, rfl⟩ := hinput
      rw [Graph.isForward,
        graph.port_of_inventory ⟨_⟩
          (ports_coreOf hg hsite (List.mem_range.1 hj)).2.2]
      rfl
  rw [htargets, ← List.map_reverse, List.flatMap_map] at hinputs
  have hstarts : (onGraph layout graph).startTargets =
      graph.reachableInputs ⟨portCount layout.clusters + 1⟩ := rfl
  rw [hstarts, Graph.reachableInputs, hdepth, hinputs]
  refine congrArg Except.ok (List.flatMap_congr fun site hsite => ?_)
  exact targets_clusterStart hg (List.mem_reverse.1 hsite)

-- ======================================================== statements

/-- The cores of a topology against the layout it was built from. -/
structure CoreMap (chip : ChipLayout) (t : Topology) : Prop where
  /-- In the order of their creation the cores carry all harts of the chip. -/
  harts : t.graph.cores.map (·.hart) = List.range chip.hartCount
  /-- A core stands in the one cluster that has its hart, under its number
  there. -/
  place : ∀ core ∈ t.graph.cores, ∃ i cluster, chip.clusters[i]? = some cluster
    ∧ core.hart ∈ cluster.harts
    ∧ (∀ i' cluster', chip.clusters[i']? = some cluster' →
      core.hart ∈ cluster'.harts → i' = i)
    ∧ core.localId = core.hart - cluster.firstHart
    ∧ t.graph.lookup?
      (clusterPath i ++ "/" ++ ("pe" ++ Numeral.decimal core.localId)) =
      some core.id
  /-- The start signal leads to one input of each core. -/
  starts : ∃ starts, t.startTargets = .ok starts ∧ starts.Nodup
    ∧ starts.length = chip.hartCount
    ∧ (starts.map some).Perm (t.graph.cores.map fun core =>
      t.graph.findPort? core.id "fetch_enable")
    ∧ ∀ start ∈ starts, (t.graph.port start).direction = .input

theorem cores_onGraph :
    graph.cores = (sites 6 8 layout.clusters).flatMap Site.cores := by
  rw [graph.cores_eq, hg, cores_inventory]

theorem mem_cores {core : Core} (h : core ∈ graph.cores) :
    ∃ (i : Nat) (site : Site) (j : Nat),
      (sites 6 8 layout.clusters)[i]? = some site
      ∧ j < site.cluster.coreCount
      ∧ core = ⟨⟨site.part + (5 + j)⟩, site.cluster.firstHart + j, j⟩ := by
  rw [cores_onGraph hg, List.mem_flatMap] at h
  obtain ⟨site, hsite, hcore⟩ := h
  obtain ⟨i, hi⟩ := List.mem_iff_getElem?.1 hsite
  obtain ⟨j, hj, rfl⟩ := List.mem_map.1 hcore
  exact ⟨i, site, j, hi, List.mem_range.1 hj, rfl⟩

/-- In the order of their creation the cores carry the harts from zero on. -/
theorem harts_onGraph (hnumbered : ClusterLayout.Numbered 0 layout.clusters) :
    graph.cores.map (·.hart) = List.range layout.hartCount := by
  rw [cores_onGraph hg, harts_sites, hnumbered.flatMap_harts,
    ChipLayout.hartCount_eq hnumbered, List.range_eq_range']

variable (hs : graph.inventory.Sound)
include hs

/-- The start inputs of a cluster are those of its cores. -/
theorem map_starts {site : Site} (h : site ∈ sites 6 8 layout.clusters) :
    site.starts.map some = site.cores.map fun core =>
      graph.findPort? core.id "fetch_enable" := by
  rw [Site.starts, Site.cores, List.map_map, List.map_map]
  refine List.map_congr_left fun j hj => ?_
  exact (graph.findPort?_of_sound hs ⟨_⟩
    (ports_coreOf hg h (List.mem_range.1 hj)).2.2).symm

/-- Two cores are not started at one input. -/
theorem eq_of_findPort?_eq {a b : Core} (ha : a ∈ graph.cores)
    (hb : b ∈ graph.cores)
    (heq : graph.findPort? a.id "fetch_enable" = graph.findPort? b.id
      "fetch_enable") : a = b := by
  obtain ⟨i, site, j, hi, hj, hcore⟩ := mem_cores hg ha
  have hfound := graph.findPort?_of_sound hs ⟨_⟩
    (ports_coreOf hg (List.mem_of_getElem? hi) hj).2.2
  have hid : a.id = ⟨site.part + (5 + j)⟩ := congrArg Core.id hcore
  rw [← hid] at hfound
  obtain ⟨-, hown, -⟩ := graph.port_of_findPort? hfound
  obtain ⟨-, hown', -⟩ := graph.port_of_findPort? (heq.symm.trans hfound)
  have hsame : a.id = b.id := hown.symm.trans hown'
  have hkind := Graph.kind_of_mem_cores ha
  rw [hsame, Graph.kind_of_mem_cores hb] at hkind
  obtain ⟨hhart, hlocal⟩ := Device.core.inj (ComponentKind.device.inj hkind)
  exact Core.ext hsame hhart.symm hlocal.symm

/-- What is started are the cores, in another order. -/
theorem perm_starts :
    (((sites 6 8 layout.clusters).reverse.flatMap Site.starts).map some).Perm
    (graph.cores.map fun core => graph.findPort? core.id "fetch_enable") := by
  rw [cores_onGraph hg, List.map_flatMap, List.map_flatMap]
  refine ((List.reverse_perm _).flatMap_right _).trans (.of_eq ?_)
  exact List.flatMap_congr fun site hsite => map_starts hg hs hsite

theorem coreMap_of_sound (hlayout : layout.Sound)
    (hnumbered : ClusterLayout.Numbered 0 layout.clusters) :
    CoreMap layout (onGraph layout graph) := by
  have hharts := harts_onGraph hg hnumbered
  constructor
  case harts => exact hharts
  case place =>
    intro core hcore
    obtain ⟨i, site, j, hi, hj, rfl⟩ := mem_cores hg hcore
    have hcluster : layout.clusters[i]? = some site.cluster := by
      rw [← map_cluster_sites 6 8 layout.clusters, List.getElem?_map, hi,
        Option.map_some]
    have hmem : site.cluster.firstHart + j ∈ site.cluster.harts :=
      List.mem_map_of_mem (List.mem_range.2 hj)
    refine ⟨i, site.cluster, hcluster, hmem, fun i' cluster' hi' hmem' => ?_,
      (Nat.add_sub_cancel_left _ _).symm, ?_⟩
    · exact hnumbered.eq_of_mem_harts hi' hcluster hmem' hmem
    · have htop : site.top = clusterPath i := by
        rw [Site.top, hlayout.id_eq i _ hcluster]
      rw [← htop]
      exact graph.lookup?_of_sound hs ⟨_⟩
        (part_coreOf hg (List.mem_of_getElem? hi) hj)
  case starts =>
    have hperm := perm_starts hg hs
    refine ⟨_, startTargets_eq hg, ?_, ?_, hperm, ?_⟩
    · have hcores : graph.cores.Nodup := .of_map _ (hharts ▸ List.nodup_range)
      have hfound := hcores.map_on fun a ha b hb =>
        eq_of_findPort?_eq hg hs ha hb
      exact .of_map _ (hperm.nodup_iff.2 hfound)
    · have hlength := hperm.length_eq
      have hcount := congrArg List.length hharts
      simp only [List.length_map, List.length_range] at hlength hcount
      exact hlength.trans hcount
    · intro start hstart
      obtain ⟨site, hsite, hstart⟩ := List.mem_flatMap.1 hstart
      obtain ⟨j, hj, rfl⟩ := List.mem_map.1 hstart
      show (graph.port _).direction = _
      rw [graph.port_of_inventory ⟨_⟩
        (ports_coreOf hg (List.mem_reverse.1 hsite) (List.mem_range.1 hj)).2.2]

end

/-- Whatever configuration the layout is of and whatever the loader loads,
the chip is built with a core for every hart, and the loader starts them
all. -/
theorem cores_of_plan {config : Config} {chip : ChipLayout}
    (h : ChipLayout.plan config = .ok chip) (binary : Option String) :
    ∃ t, build chip StandardCluster.build binary = .ok t ∧ t.layout = chip
      ∧ CoreMap chip t := by
  have hlayout := ChipLayout.plan_sound h
  obtain ⟨graph, hg, hs, -, hbuild⟩ := build_of_sound hlayout binary
  exact ⟨_, hbuild, rfl,
    coreMap_of_sound hg hs hlayout (ChipLayout.numbered_of_plan h)⟩

/-- The clusters with one and two cores have three harts, and three inputs
where they are started. -/
theorem pairConfig_cores : ∃ chip, ChipLayout.plan pairConfig = .ok chip ∧
    ∃ t, build chip StandardCluster.build none = .ok t ∧ CoreMap chip t
      ∧ t.graph.cores.map (·.hart) = [0, 1, 2]
      ∧ ∃ starts, t.startTargets = .ok starts ∧ starts.length = 3 := by
  obtain ⟨chip, hplan, hcount⟩ : ∃ chip, ChipLayout.plan pairConfig = .ok chip
      ∧ chip.hartCount = 3 := ⟨_, rfl, rfl⟩
  obtain ⟨t, hbuild, -, hcores⟩ := cores_of_plan hplan none
  obtain ⟨starts, hstarts, -, hlength, -⟩ := hcores.starts
  refine ⟨chip, hplan, t, hbuild, hcores, ?_, starts, hstarts,
    hlength.trans hcount⟩
  rw [hcores.harts, hcount]
  rfl

end Topology

end ChipFabric
