/-
What the masters of the chip see. A core issues accesses to its cluster and
to the narrow plane, the DMA engine of a cluster to the wide plane, and the
loader to the narrow plane. Each leaves by one chain of bindings to a router
(`Graph.Single.routeFrom`), so it is routed as if it had entered there
(`MasterMap`). Inside its cluster a core does without the narrow router: it
counts from the start of the cluster, as the narrow router would.
-/
import ChipFabric.Proofs.Topology.Cores
import ChipFabric.Proofs.Topology.Routing

namespace ChipFabric

-- ============================================================ chains

/-- What leaves by a chain to a router is routed from there. -/
theorem Graph.Single.routeFrom {g : Graph} {k q : Nat}
    {source : OutputPort .io} {target : Port} (h : g.Single k source.port ⟨q⟩)
    (hk : k ≤ g.ports.size) (htarget : g.inventory.ports[q]? = some target)
    (hrouter : (g.component target.owner).isRouter) (addr : Nat) :
    g.routeFrom source addr = g.route target.owner addr := by
  have hport := g.port_of_inventory ⟨q⟩ htarget
  simp [Graph.routeFrom, h.follow hk, hport, hrouter]

namespace StandardCluster

variable {n p : Nat} {top : String} {layout : ClusterLayout}

/-- What starts at the ports of a core is bound by the core. -/
theorem targets_cores {crossbar narrowSoc fetchEnable : PortId}
    {firstHart count j k : Nat} (hfetch : fetchEnable.index < p)
    (h : j < count) (hk : k < 3) :
    (cores n p top crossbar narrowSoc fetchEnable firstHart
      count).targets ⟨p + 3 * j + k⟩ =
      (core (n + j) (p + 3 * j) top crossbar narrowSoc fetchEnable firstHart
        j).targets ⟨p + 3 * j + k⟩ := by
  induction count with
  | zero => exact absurd h (Nat.not_lt_zero _)
  | succ count ih =>
    rw [cores_succ, Inventory.targets_append]
    by_cases hj : j < count
    · rw [ih hj, Inventory.targets_eq_nil (s := core (n + count) ..),
        List.append_nil]
      simp only [core, List.mem_cons, List.not_mem_nil, or_false,
        forall_eq_or_imp, forall_eq]
      omega
    · obtain rfl : j = count := by omega
      rw [targets_cores_eq_nil (by simp only; omega)
        (.inr (Nat.le_add_right _ _)), List.nil_append]

/-- The ports of the cores are bound apart from the rest of the cluster. -/
theorem targets_core {j k : Nat} (h : j < layout.coreCount) (hk : k < 3) :
    (inventory n p top layout).targets ⟨p + 13 + 3 * j + k⟩ =
      (core (n + 5 + j) (p + 13 + 3 * j) top ⟨p + 5⟩ ⟨p + 3⟩ ⟨p + 2⟩
        layout.firstHart j).targets
        ⟨p + 13 + 3 * j + k⟩ := by
  rw [inventory, Inventory.targets_append, Inventory.targets_append,
    targets_cores (by simp only; omega) h hk,
    Inventory.targets_eq_nil (s := fixed ..), Inventory.targets_eq_nil
      (s := engine ..),
    List.nil_append, List.append_nil]
  · simp only [engine, List.mem_singleton, forall_eq]
    omega
  · simp [bindings_fixed]
    omega

/-- A core issues accesses to its cluster. -/
theorem targets_coreData {j : Nat} (h : j < layout.coreCount) :
    (inventory n p top layout).targets ⟨p + 13 + 3 * j⟩ = [⟨p + 5⟩] := by
  have hfetch : (⟨p + 2⟩ : PortId) ≠ ⟨p + 13 + 3 * j⟩ := by
    simp only [ne_eq, PortId.ext_iff]
    omega
  have hcore : (inventory n p top layout).targets ⟨p + 13 + 3 * j + 0⟩ = _ :=
    targets_core h (by decide)
  rw [Nat.add_zero] at hcore
  rw [hcore]
  simp [Inventory.targets, core, hfetch]

/-- It also issues accesses to the narrow plane. -/
theorem targets_coreSoc {j : Nat} (h : j < layout.coreCount) :
    (inventory n p top layout).targets ⟨p + 13 + 3 * j + 1⟩ = [⟨p + 3⟩] := by
  have hfetch : (⟨p + 2⟩ : PortId) ≠ ⟨p + 13 + 3 * j + 1⟩ := by
    simp only [ne_eq, PortId.ext_iff]
    omega
  rw [targets_core h (by decide)]
  simp [Inventory.targets, core, hfetch]

theorem targets_engine :
    (inventory n p top layout).targets ⟨p + 13 + 3 * layout.coreCount⟩ =
      [⟨p + 4⟩] := by
  rw [inventory, Inventory.targets_append, Inventory.targets_append,
    Inventory.targets_eq_nil (s := fixed ..),
    targets_cores_eq_nil (by simp only; omega) (.inr (Nat.le_refl _))]
  · simp [Inventory.targets, engine]
  · simp [bindings_fixed]
    omega

theorem part_engine : (inventory n p top layout).parts[5 + layout.coreCount]? =
    some ⟨top ++ "/" ++ "idma", .device (.dma layout.id)⟩ := by
  refine Inventory.getElem?_parts_append (k := 0) ?_ rfl
  simp

theorem port_engine :
    (inventory n p top layout).ports[13 + 3 * layout.coreCount]? =
    some ⟨⟨n + (5 + layout.coreCount)⟩, "out", .output,
      Signal.io.signature⟩ := by
  rw [← Nat.add_assoc]
  refine Inventory.getElem?_ports_append (k := 0) ?_ rfl
  simp

theorem port_narrowSoc : (inventory n p top layout).ports[3]? =
    some ⟨⟨n⟩, "narrow_soc", .forward, Signal.io.signature⟩ := rfl

theorem port_wideSoc : (inventory n p top layout).ports[4]? =
    some ⟨⟨n⟩, "wide_soc", .forward, Signal.io.signature⟩ := rfl

end StandardCluster

namespace Topology

namespace Site

/-- What starts at the boundary or at the masters of the cluster is bound
by the cluster, apart from the two ports to the planes. -/
theorem targets_of_ne (site : Site) {source : PortId}
    (hnarrow : site.port + 3 ≠ source.index)
    (hwide : site.port + 4 ≠ source.index)
    (hexit : source.index < site.exit.index) :
    site.inventory.targets source =
      (StandardCluster.inventory site.part site.port site.top
        site.cluster).targets source := by
  rw [inventory, Inventory.targets_append,
    Inventory.targets_eq_nil (s := ⟨[], _, _⟩), List.append_nil]
  simp only [List.mem_cons, List.not_mem_nil, or_false, forall_eq_or_imp,
    forall_eq]
  exact ⟨hnarrow, hwide, Nat.ne_of_gt hexit⟩

/-- The accesses of a cluster to the narrow plane enter there. -/
theorem targets_narrowSoc (site : Site) :
    site.inventory.targets ⟨site.port + 3⟩ = [⟨2⟩] := by
  have hexit : site.exit ≠ ⟨site.port + 3⟩ := by
    simp only [ne_eq, PortId.ext_iff, exit]
    omega
  rw [inventory, Inventory.targets_append,
    StandardCluster.targets_inventory (by decide) (by decide)]
  simp [Inventory.targets, StandardCluster.bindings_fixed, hexit]

theorem targets_wideSoc (site : Site) :
    site.inventory.targets ⟨site.port + 4⟩ = [⟨3⟩] := by
  have hexit : site.exit ≠ ⟨site.port + 4⟩ := by
    simp only [ne_eq, PortId.ext_iff, exit]
    omega
  rw [inventory, Inventory.targets_append,
    StandardCluster.targets_inventory (by decide) (by decide)]
  simp [Inventory.targets, StandardCluster.bindings_fixed, hexit]

end Site

theorem targets_loaderOut (layout : ChipLayout) (binary : Option String) :
    (inventory layout binary).targets ⟨portCount layout.clusters⟩ = [⟨2⟩] := by
  have hle : portCount layout.clusters ≤
      (⟨portCount layout.clusters⟩ : PortId).index :=
    Nat.le_refl _
  rw [targets_of_le hle]
  simp [Inventory.targets, loader]

section

variable {layout : ChipLayout} {binary : Option String} {graph : Graph}
  (hg : graph.inventory = inventory layout binary)
include hg

-- ====================================================== to the routers

theorem single_narrowSoc {site : Site} (h : site ∈ sites 6 8 layout.clusters) :
    graph.Single 0 ⟨site.port + 3⟩ ⟨2⟩ := by
  refine .of_input ?_ (congrArg (·.ports[2]?) hg)
  rw [targets_site hg h (Nat.le_add_right _ _)
    (by simp only [Site.exit]; omega), site.targets_narrowSoc]

theorem single_wideSoc {site : Site} (h : site ∈ sites 6 8 layout.clusters) :
    graph.Single 0 ⟨site.port + 4⟩ ⟨3⟩ := by
  refine .of_input ?_ (congrArg (·.ports[3]?) hg)
  rw [targets_site hg h (Nat.le_add_right _ _)
    (by simp only [Site.exit]; omega), site.targets_wideSoc]

/-- What the cluster binds at the ports of its masters is all that starts
there. -/
theorem targets_master {site : Site} (h : site ∈ sites 6 8 layout.clusters)
    {k : Nat} (hk : k ≤ 3 * site.cluster.coreCount) :
    graph.inventory.targets ⟨site.port + (13 + k)⟩ =
      (StandardCluster.inventory site.part site.port site.top
        site.cluster).targets
        ⟨site.port + 13 + k⟩ := by
  have hexit : site.port + 13 + k < site.exit.index := by
    simp only [Site.exit]
    omega
  rw [← Nat.add_assoc,
    targets_site hg h (by simp only; omega) (Nat.le_of_lt hexit)]
  exact site.targets_of_ne (by simp only; omega) (by simp only; omega) hexit

/-- The accesses of a core to the narrow plane come to its router. -/
theorem single_coreSoc {site : Site} (h : site ∈ sites 6 8 layout.clusters)
    {j : Nat} (hj : j < site.cluster.coreCount) :
    graph.Single 1 ⟨site.port + (13 + (3 * j + 1))⟩ ⟨2⟩ := by
  refine .of_forward ?_ (port_site hg h StandardCluster.port_narrowSoc)
    (single_narrowSoc hg h)
  rw [targets_master hg h (by omega)]
  exact StandardCluster.targets_coreSoc hj

/-- Its accesses to its cluster come to the crossbar. -/
theorem single_coreData {site : Site} (h : site ∈ sites 6 8 layout.clusters)
    {j : Nat} (hj : j < site.cluster.coreCount) :
    graph.Single 0 ⟨site.port + (13 + 3 * j)⟩ ⟨site.port + 5⟩ := by
  refine .of_input ?_ (port_site hg h StandardCluster.port_crossbarInput)
  rw [targets_master hg h (by omega)]
  exact StandardCluster.targets_coreData hj

/-- The accesses of a DMA engine come to the wide router. -/
theorem single_engine {site : Site} (h : site ∈ sites 6 8 layout.clusters) :
    graph.Single 1 ⟨site.port + (13 + 3 * site.cluster.coreCount)⟩ ⟨3⟩ := by
  refine .of_forward ?_ (port_site hg h StandardCluster.port_wideSoc)
    (single_wideSoc hg h)
  rw [targets_master hg h (Nat.le_refl _)]
  exact StandardCluster.targets_engine

/-- The accesses of the loader come to the narrow router. -/
theorem single_loaderOut : graph.Single 0 ⟨portCount layout.clusters⟩ ⟨2⟩ := by
  refine .of_input ?_ (congrArg (·.ports[2]?) hg)
  rw [hg, targets_loaderOut]

/-- A chain to the narrow router's input enters the narrow plane. -/
theorem resolveNarrow_of_single {k : Nat} {source : PortId}
    (h : graph.Single k source ⟨2⟩) (hk : k ≤ 2) (addr : Nat) :
    graph.routeFrom ⟨source⟩ addr = (onGraph layout graph).resolveNarrow
      addr := by
  have hport : graph.inventory.ports[2]? =
      some ⟨⟨3⟩, Router.defaultInput, .input, Signal.io.signature⟩ :=
        congrArg (·.ports[2]?) hg
  exact Graph.Single.routeFrom h (Nat.le_trans hk (two_le_size hg)) hport
    (Component.isRouter_of_kind (component_narrow hg).2) addr

/-- One to the wide router's enters the wide plane. -/
theorem resolveWide_of_single {k : Nat} {source : PortId}
    (h : graph.Single k source ⟨3⟩) (hk : k ≤ 2) (addr : Nat) :
    graph.routeFrom ⟨source⟩ addr = (onGraph layout graph).resolveWide
      addr := by
  have hport : graph.inventory.ports[3]? =
      some ⟨⟨4⟩, Router.defaultInput, .input, Signal.io.signature⟩ :=
        congrArg (·.ports[3]?) hg
  exact Graph.Single.routeFrom h (Nat.le_trans hk (two_le_size hg)) hport
    (Component.isRouter_of_kind (component_wide hg).2) addr

/-- One to the input that the cores of a cluster share enters its crossbar. -/
theorem route_of_single {site : Site} (h : site ∈ sites 6 8 layout.clusters)
    {source : PortId} (hsingle : graph.Single 0 source ⟨site.port + 5⟩)
    (addr : Nat) :
    graph.routeFrom ⟨source⟩ addr = graph.route ⟨site.part + 1⟩ addr :=
  Graph.Single.routeFrom hsingle (Nat.zero_le _)
    (port_site hg h StandardCluster.port_crossbarInput)
    (Component.isRouter_of_kind (component_crossbar hg h).2) addr

end

-- ======================================================== statements

/-- The port of that name on the component at that path issues accesses. -/
def Issues (t : Topology) (path name : String) (out : OutputPort .io) : Prop :=
  ∃ owner, t.graph.lookup? path = some owner
    ∧ t.graph.findPort? owner name = some out.port
    ∧ t.graph.port out.port = ⟨owner, name, .output, Signal.io.signature⟩

/-- Both accesses are answered by the same device at the same address, or
both are refused by a crossbar. -/
def SameAnswer (inner outer : Except Fault Route) (localAddr : Nat) : Prop :=
  (∃ near far, inner = .ok near ∧ outer = .ok far ∧ near.target = far.target
    ∧ near.localAddr = far.localAddr)
  ∨ (inner = .error (.unmappedAddress "xbar" localAddr)
    ∧ outer = .error (.unmappedAddress "xbar" localAddr))

/-- The masters of a topology against its planes. -/
structure MasterMap (chip : ChipLayout) (t : Topology) : Prop where
  loader : ∀ addr, t.resolveLoad addr = t.resolveNarrow addr
  /-- Outside its cluster a core sees the narrow plane. -/
  soc : ∀ i cluster, chip.clusters[i]? = some cluster →
    ∀ j < cluster.coreCount, ∃ out,
    t.Issues (clusterPath i ++ "/" ++ ("pe" ++ Numeral.decimal j)) "soc" out
      ∧ ∀ addr, t.graph.routeFrom out addr = t.resolveNarrow addr
  /-- Inside, it sees what the narrow plane sees there. -/
  data : ∀ i cluster, chip.clusters[i]? = some cluster →
    ∀ j < cluster.coreCount, ∃ out,
    t.Issues (clusterPath i ++ "/" ++ ("pe" ++ Numeral.decimal j)) "data" out
      ∧ ∀ offset < cluster.region.size,
        SameAnswer (t.graph.routeFrom out offset)
        (t.resolveNarrow (cluster.region.base + offset)) offset
  /-- The DMA engine of a cluster sees the wide plane. -/
  dma : ∀ i cluster, chip.clusters[i]? = some cluster →
    ∃ out, t.Issues (clusterPath i ++ "/" ++ "idma") "out" out
      ∧ ∀ addr, t.graph.routeFrom out addr = t.resolveWide addr

section

variable {layout : ChipLayout} {binary : Option String} {graph : Graph}
  (hs : graph.inventory.Sound)
include hs

/-- A port of the inventory issues accesses under its owner's path and its
own name. -/
theorem issues_of_inventory {q : Nat} {owner : ComponentId} {name : String}
    {part : Part} (hpart : graph.inventory.parts[owner.index]? = some part)
    (hport : graph.inventory.ports[q]? = some ⟨owner, name, .output,
      Signal.io.signature⟩) :
    (onGraph layout graph).Issues part.path name ⟨⟨q⟩⟩ :=
  ⟨owner, graph.lookup?_of_sound hs owner hpart,
    graph.findPort?_of_sound hs ⟨q⟩ hport, graph.port_of_inventory ⟨q⟩ hport⟩

variable (hg : graph.inventory = inventory layout binary)
include hg

/-- An offset into a cluster ends where the address of the narrow plane
does. -/
theorem sameAnswer_crossbar (hlayout : layout.Sound) {i : Nat} {site : Site}
    (hsite : (sites 6 8 layout.clusters)[i]? = some site) {offset : Nat}
    (hoffset : offset < site.cluster.region.size) :
    SameAnswer (graph.route ⟨site.part + 1⟩ offset)
      ((onGraph layout graph).resolveNarrow
        (site.cluster.region.base + offset)) offset := by
  have hmem := List.mem_of_getElem? hsite
  have haddr : site.cluster.region.base + offset ∈ site.cluster.region :=
    Window.mem_def.2 ⟨Nat.le_add_right _ _, Nat.add_lt_add_left hoffset _⟩
  have hinner : graph.route ⟨site.part + 1⟩ offset =
      graph.routeWithin offset (15 + 1) ⟨site.part + 1⟩ offset := rfl
  have houter : (onGraph layout graph).resolveNarrow
      (site.cluster.region.base + offset) =
        graph.routeWithin (site.cluster.region.base + offset) (14 + 1 + 1) ⟨3⟩
          (site.cluster.region.base + offset) := rfl
  rw [hinner, houter, routeWithin_cluster hg hs hlayout hsite haddr,
    Nat.add_sub_cancel_left]
  by_cases hin : ∃ place ∈ StandardCluster.places site.cluster,
    offset ∈ place.window
  · obtain ⟨place, hplace, hin⟩ := hin
    obtain ⟨k, hk⟩ := List.mem_iff_getElem?.1 hplace
    rw [routeWithin_crossbar hg hs hmem hk hin,
      routeWithin_crossbar hg hs hmem hk hin]
    exact .inl ⟨_, _, rfl, rfl, rfl, rfl⟩
  · have hout : ∀ place ∈ StandardCluster.places site.cluster,
        offset ∉ place.window :=
      fun place hplace hmem => hin ⟨place, hplace, hmem⟩
    rw [routeWithin_gap hg hs hmem hout, routeWithin_gap hg hs hmem hout]
    exact .inr ⟨rfl, rfl⟩

theorem masterMap_of_sound (hlayout : layout.Sound) :
    MasterMap layout (onGraph layout graph) := by
  have hsites : ∀ i cluster, layout.clusters[i]? = some cluster →
      ∃ site, (sites 6 8 layout.clusters)[i]? = some site
        ∧ site.cluster = cluster
        ∧ site.top = clusterPath i := by
    intro i cluster hi
    obtain ⟨site, hsite, rfl⟩ := getElem?_sites (n := 6) (p := 8) hi
    exact ⟨site, hsite, rfl, by rw [Site.top, hlayout.id_eq i _ hi]⟩
  constructor
  case loader =>
    exact resolveNarrow_of_single hg (single_loaderOut hg) (Nat.zero_le _)
  case soc =>
    intro i cluster hi j hj
    obtain ⟨site, hsite, rfl, htop⟩ := hsites i cluster hi
    have hmem := List.mem_of_getElem? hsite
    obtain ⟨-, hport, -⟩ := ports_coreOf hg hmem hj
    rw [← htop]
    exact ⟨_, issues_of_inventory hs (part_coreOf hg hmem hj) hport,
      resolveNarrow_of_single hg (single_coreSoc hg hmem hj) (by decide)⟩
  case data =>
    intro i cluster hi j hj
    obtain ⟨site, hsite, rfl, htop⟩ := hsites i cluster hi
    have hmem := List.mem_of_getElem? hsite
    obtain ⟨hport, -, -⟩ := ports_coreOf hg hmem hj
    rw [← htop]
    refine ⟨_, issues_of_inventory hs (part_coreOf hg hmem hj) hport,
      fun offset hoffset => ?_⟩
    have hroute := route_of_single hg hmem (single_coreData hg hmem hj) offset
    exact hroute ▸ sameAnswer_crossbar hs hg hlayout hsite hoffset
  case dma =>
    intro i cluster hi
    obtain ⟨site, hsite, rfl, htop⟩ := hsites i cluster hi
    have hmem := List.mem_of_getElem? hsite
    rw [← htop]
    exact ⟨_,
      issues_of_inventory hs (part_site hg hmem StandardCluster.part_engine)
      (port_site hg hmem StandardCluster.port_engine),
      resolveWide_of_single hg (single_engine hg hmem) (by decide)⟩

end

/-- Whatever configuration the layout is of and whatever the loader loads,
the chip is built and its masters agree with its planes. -/
theorem masters_of_plan {config : Config} {chip : ChipLayout}
    (h : ChipLayout.plan config = .ok chip) (binary : Option String) :
    ∃ t, build chip StandardCluster.build binary = .ok t ∧ t.layout = chip
      ∧ MasterMap chip t := by
  have hlayout := ChipLayout.plan_sound h
  obtain ⟨graph, hg, hs, -, hbuild⟩ := build_of_sound hlayout binary
  exact ⟨_, hbuild, rfl, masterMap_of_sound hs hg hlayout⟩

/-- The second core of the second cluster writes to the boot ROM, and the
cluster's DMA engine to the external memory. -/
theorem pairConfig_masters : ∃ chip, ChipLayout.plan pairConfig = .ok chip ∧
    ∃ t, build chip StandardCluster.build none = .ok t ∧ MasterMap chip t
      ∧ (∃ out, t.Issues "board/chip/soc/cluster_1/pe1" "soc" out
        ∧ t.graph.routeFrom out 0x1000 = t.resolveNarrow 0x1000)
      ∧ ∃ out, t.Issues "board/chip/soc/cluster_1/idma" "out" out
        ∧ t.graph.routeFrom out 0x80000000 = t.resolveWide 0x80000000 := by
  obtain ⟨chip, cluster, hplan, hcluster, hcores⟩ : ∃ chip cluster,
      ChipLayout.plan pairConfig = .ok chip ∧ chip.clusters[1]? = some cluster
        ∧ 1 < cluster.coreCount := ⟨_, _, rfl, rfl, by decide⟩
  obtain ⟨t, hbuild, -, hmasters⟩ := masters_of_plan hplan none
  obtain ⟨soc, hsoc, hnarrow⟩ := hmasters.soc 1 cluster hcluster 1 hcores
  obtain ⟨out, hout, hwide⟩ := hmasters.dma 1 cluster hcluster
  have hcore : clusterPath 1 ++ "/" ++ ("pe" ++ Numeral.decimal 1) =
      "board/chip/soc/cluster_1/pe1" := by decide
  have hengine : clusterPath 1 ++ "/" ++ "idma" =
    "board/chip/soc/cluster_1/idma" := by decide
  rw [hcore] at hsoc
  rw [hengine] at hout
  exact ⟨chip, hplan, t, hbuild, hmasters, ⟨soc, hsoc, hnarrow _⟩, out,
    hout, hwide _⟩

end Topology

end ChipFabric
