/-
The chip, written out. Its inventory is that of the two planes, of one
cluster after the other, of the loader and of the external memory. Only the
narrow router changes after it was made: it gets an output and a window with
every cluster.

# Sites

A cluster takes six components and fifteen ports, and one component and
three ports more for each core, the narrow router's output to it included.
`sites` walks down the row of clusters and says at which numbers each one
starts; what is said of a cluster is then said of its site.
-/
import ChipFabric.Proofs.Topology.Cluster
import ChipFabric.Topology.Build

namespace ChipFabric.Topology

-- ============================================================ tables

def romMapping (layout : ChipLayout) : Mapping :=
  ⟨layout.bootrom, ⟨0⟩, true, {}⟩

/-- The window of the external memory on the narrow router, which leads to the
wide one. -/
def passMapping (layout : ChipLayout) : Mapping := ⟨layout.hbm, ⟨1⟩, false, {}⟩

def clusterMapping (cluster : ClusterLayout) : Mapping :=
  ⟨cluster.region, ⟨2 + cluster.id⟩, true, {}⟩

def hbmMapping (layout : ChipLayout) : Mapping :=
  ⟨layout.hbm, ⟨0⟩, true,
    { latency := some layout.interconnect.hbmLatency.toNat }⟩

/-- The table of the narrow router when those clusters are there. -/
def narrowTable (layout : ChipLayout) (clusters : List ClusterLayout) :
    Router where
  name := "narrow_axi"
  bandwidth := layout.interconnect.narrowBandwidth.toNat
  inputs := [Router.defaultInput]
  outputs := ["rom", "hbm"] ++ clusters.map fun cluster =>
    clusterName cluster.id
  mappings := [romMapping layout, passMapping layout] ++ clusters.map
    clusterMapping

def wideTable (layout : ChipLayout) : Router where
  name := "wide_axi"
  bandwidth := layout.interconnect.wideBandwidth.toNat
  inputs := [Router.defaultInput]
  outputs := ["hbm"]
  mappings := [hbmMapping layout]

-- ============================================================ planes

/-- The paths that are taken before there are clusters. -/
def planePaths : List String :=
  ["board", "board/chip", "board/chip/soc", "board/chip/soc/narrow_axi",
    "board/chip/soc/wide_axi", "board/chip/soc/rom"]

/-- Chip and SoC with their routers and the boot ROM. -/
def planes (layout : ChipLayout) (narrow wide : ComponentKind) :
    Inventory where
  parts := [
    ⟨"board", .group⟩,
    ⟨"board/chip", .group⟩,
    ⟨"board/chip/soc", .group⟩,
    ⟨"board/chip/soc/narrow_axi", narrow⟩,
    ⟨"board/chip/soc/wide_axi", wide⟩,
    ⟨"board/chip/soc/rom", .device (.bootRom layout.bootrom.size)⟩]
  ports := [
    ⟨⟨1⟩, "hbm", .forward, Signal.io.signature⟩,
    ⟨⟨2⟩, "hbm", .forward, Signal.io.signature⟩,
    ⟨⟨3⟩, Router.defaultInput, .input, Signal.io.signature⟩,
    ⟨⟨4⟩, Router.defaultInput, .input, Signal.io.signature⟩,
    ⟨⟨5⟩, Router.defaultInput, .input, Signal.io.signature⟩,
    ⟨⟨3⟩, "rom", .output, Signal.io.signature⟩,
    ⟨⟨4⟩, "hbm", .output, Signal.io.signature⟩,
    ⟨⟨3⟩, "hbm", .output, Signal.io.signature⟩]
  bindings := [⟨⟨5⟩, ⟨4⟩⟩, ⟨⟨6⟩, ⟨1⟩⟩, ⟨⟨7⟩, ⟨3⟩⟩]

def planeHandles : Planes where
  chip := ⟨1⟩
  soc := ⟨2⟩
  narrow := ⟨3⟩
  wide := ⟨4⟩
  chipHbm := ⟨⟨0⟩⟩
  socHbm := ⟨⟨1⟩⟩
  narrowIn := ⟨⟨2⟩⟩
  wideIn := ⟨⟨3⟩⟩

/-- The planes are built on a bare board if the boot ROM and the external
memory are disjoint. -/
theorem addPlanes_makes {layout : ChipLayout}
    (h : ¬ layout.bootrom.Overlaps layout.hbm) :
    (addPlanes layout).Makes ⟨[⟨"board", .group⟩], [], []⟩ planeHandles
      (planes layout (.router (narrowTable layout []) [⟨5⟩, ⟨7⟩])
        (.router (wideTable layout) [⟨6⟩])) := by
  refine (Build.addGroup_makes (n := 1) rfl ?_ rfl).bind ?_
  · simp [Inventory.LacksPath]
  refine (Build.addGroup_makes (n := 2) rfl ?_ rfl).bind ?_
  · simp [Inventory.LacksPath]
  refine (Build.declare_makes (p := 0) (by decide) ?_ rfl).bind ?_
  · simp [Inventory.LacksPort]
  refine (Build.declare_makes (p := 1) (by decide) ?_ rfl).bind ?_
  · simp [Inventory.LacksPort]
  refine (Build.addRouter_makes (n := 3) (p := 2) rfl ?_ rfl rfl).bind ?_
  · simp [Inventory.LacksPath]
  refine (Build.addRouter_makes (n := 4) (p := 3) rfl ?_ rfl rfl).bind ?_
  · simp [Inventory.LacksPath, Inventory.newRouter]
  refine (Build.routerInput_makes (p := 2) rfl rfl).bind ?_
  refine (Build.routerInput_makes (p := 3) rfl rfl).bind ?_
  refine (Build.addTerminal_makes (n := 5) (p := 4) rfl ?_ rfl rfl).bind ?_
  · simp [Inventory.LacksPath, Inventory.newRouter]
  refine (Build.mapWindow_makes (p := 5) rfl ?_ ?_ ?_ rfl rfl rfl).bind ?_
  · simp
  · simp
  · simp [Inventory.LacksPort, Inventory.newRouter, Inventory.terminal,
      Router.defaultInput]
  refine (Build.mapWindow_makes (p := 6) rfl ?_ ?_ ?_ rfl rfl rfl).bind ?_
  · simp
  · simp
  · simp [Inventory.LacksPort, Inventory.newRouter, Inventory.terminal,
      Router.defaultInput, Inventory.withKind]
  refine (Build.mapWindow_makes (p := 7) rfl ?_ ?_ ?_ rfl rfl rfl).bind ?_
  · simpa using h
  · simp
  · simp [Inventory.LacksPort, Inventory.newRouter, Inventory.terminal,
      Router.defaultInput, Inventory.withKind]
  exact .pure _ _

-- ============================================================= sites

def clusterPath (id : Nat) : String :=
  "board/chip/soc" ++ "/" ++ clusterName id

/-- A cluster and the numbers it starts at. -/
structure Site where
  cluster : ClusterLayout
  part : Nat
  port : Nat

namespace Site

def top (site : Site) : String := clusterPath site.cluster.id

def exit (site : Site) : PortId :=
  ⟨site.port + 14 + 3 * site.cluster.coreCount⟩

/-- The cluster with what binds it to the planes. -/
def inventory (site : Site) : Inventory :=
  StandardCluster.inventory site.part site.port site.top site.cluster
    ++ { parts := []
         ports :=
           [⟨⟨3⟩, clusterName site.cluster.id, .output, Signal.io.signature⟩]
         bindings :=
           [⟨⟨site.port + 3⟩, ⟨2⟩⟩, ⟨⟨site.port + 4⟩, ⟨3⟩⟩,
             ⟨site.exit, ⟨site.port⟩⟩] }

/-- What the cluster's builder hands out. -/
def handles (site : Site) : ClusterPorts :=
  StandardCluster.handles site.part site.port site.cluster

@[simp] theorem length_parts_inventory (site : Site) :
    site.inventory.parts.length = 6 + site.cluster.coreCount := by
  simp [inventory]

@[simp] theorem length_ports_inventory (site : Site) :
    site.inventory.ports.length = 15 + 3 * site.cluster.coreCount := by
  simp [inventory]
  omega

end Site

/-- The sites of clusters that follow each other from those numbers on. -/
def sites (n p : Nat) : List ClusterLayout → List Site
  | [] => []
  | cluster :: rest =>
    ⟨cluster, n, p⟩ :: sites (n + (6 + cluster.coreCount))
      (p + (15 + 3 * cluster.coreCount)) rest

def joined (sites : List Site) : Inventory := .join (sites.map Site.inventory)

/-- The next cluster stands after all that the first one takes. -/
theorem joined_sites_cons (n p : Nat) (cluster : ClusterLayout)
    (rest : List ClusterLayout) :
    joined (sites n p (cluster :: rest)) =
      Site.inventory ⟨cluster, n, p⟩
        ++ joined (sites (n + (6 + cluster.coreCount))
          (p + (15 + 3 * cluster.coreCount)) rest) := by
  ext1 <;> rfl

/-- What comes later starts where the earlier clusters end. -/
theorem sites_append (n p : Nat) (clusters more : List ClusterLayout) :
    sites n p (clusters ++ more) =
      sites n p clusters
        ++ sites (n + (joined (sites n p clusters)).parts.length)
          (p + (joined (sites n p clusters)).ports.length) more := by
  induction clusters generalizing n p with
  | nil => rfl
  | cons cluster rest ih =>
    rw [List.cons_append, sites, ih]
    simp [sites, joined, Inventory.join, Nat.add_assoc]

@[simp] theorem map_cluster_sites (n p : Nat) (clusters : List ClusterLayout) :
    (sites n p clusters).map (·.cluster) = clusters := by
  induction clusters generalizing n p with
  | nil => rfl
  | cons cluster rest ih => rw [sites, List.map_cons, ih]

/-- A site is that of a cluster of the row, and starts no earlier than the
row. -/
theorem mem_sites {n p : Nat} {clusters : List ClusterLayout} {site : Site}
    (h : site ∈ sites n p clusters) :
    site.cluster ∈ clusters ∧ n ≤ site.part ∧ p ≤ site.port := by
  induction clusters generalizing n p with
  | nil => cases h
  | cons cluster rest ih =>
    rcases List.mem_cons.1 h with rfl | h
    · exact ⟨List.mem_cons_self .., Nat.le_refl _, Nat.le_refl _⟩
    · obtain ⟨hcluster, hpart, hport⟩ := ih h
      exact ⟨List.mem_cons_of_mem _ hcluster, by omega, by omega⟩

/-- What stands in the row stands at one of its sites. -/
theorem mem_parts_joined {row : List Site} {part : Part} :
    part ∈ (joined row).parts ↔ ∃ site ∈ row, part ∈ site.inventory.parts := by
  simp [joined, Inventory.join, List.mem_flatMap]

theorem mem_ports_joined {row : List Site} {port : Port} :
    port ∈ (joined row).ports ↔ ∃ site ∈ row, port ∈ site.inventory.ports := by
  simp [joined, Inventory.join, List.mem_flatMap]

theorem mem_bindings_joined {row : List Site} {b : Binding} :
    b ∈ (joined row).bindings ↔ ∃ site ∈ row, b ∈ site.inventory.bindings := by
  simp [joined, Inventory.join, List.mem_flatMap]

/-- All parts of a site are below the cluster. -/
theorem Site.below {site : Site} {part : Part}
    (h : part ∈ site.inventory.parts) : Below site.top part.path := by
  rw [Site.inventory, Inventory.parts_append, List.append_nil] at h
  exact StandardCluster.below_of_mem_inventory _ _ _ _ h

/-- Of the ports of a site, only the output to it is not on its own
components. -/
theorem Site.owner {site : Site} {port : Port}
    (h : port ∈ site.inventory.ports) :
    site.part ≤ port.owner.index
      ∨ port.name = clusterName site.cluster.id := by
  rcases List.mem_append.1 h with h | h
  · exact .inl (StandardCluster.le_owner_of_mem_inventory _ _ _ _ port h)
  · rw [List.mem_singleton] at h
    exact .inr (h ▸ rfl)

/-- The bindings of a site start at its own ports. -/
theorem Site.source {site : Site} {b : Binding}
    (h : b ∈ site.inventory.bindings) :
    site.port ≤ b.source.index ∧ b.source.index ≤ site.exit.index := by
  rcases List.mem_append.1 h with h | h
  · obtain ⟨hle, hlt⟩ := StandardCluster.source_of_mem_inventory _ _ _ _ b h
    exact ⟨hle, Nat.le_of_lt hlt⟩
  · simp only [List.mem_cons, List.not_mem_nil, or_false] at h
    rcases h with rfl | rfl | rfl <;> simp only [Site.exit] <;> omega

/-- A site is where its numbers say, and no binding of another site starts at
its ports. -/
theorem joined_of_mem {n p : Nat} {clusters : List ClusterLayout} {site : Site}
    (h : site ∈ sites n p clusters) :
    ∃ before after, joined (sites n p clusters) = before
      ++ site.inventory ++ after
      ∧ n + before.parts.length = site.part
      ∧ p + before.ports.length = site.port
      ∧ (∀ b ∈ before.bindings, b.source.index < site.port)
      ∧ ∀ b ∈ after.bindings, site.exit.index < b.source.index := by
  induction clusters generalizing n p with
  | nil => cases h
  | cons cluster rest ih =>
    rw [joined_sites_cons]
    rcases List.mem_cons.1 h with rfl | h
    · refine ⟨⟨[], [], []⟩, _, rfl, rfl, rfl, nofun, fun b hb => ?_⟩
      obtain ⟨later, hlater, hb⟩ := mem_bindings_joined.1 hb
      obtain ⟨-, -, hport⟩ := mem_sites hlater
      have hsource := (Site.source hb).1
      simp only [Site.exit]
      omega
    · obtain ⟨before, after, heq, hpart, hport, hbefore, hafter⟩ := ih h
      obtain ⟨-, -, hle⟩ := mem_sites h
      refine ⟨Site.inventory ⟨cluster, n, p⟩ ++ before, after, ?_, ?_,
        ?_, fun b hb => ?_, hafter⟩
      · rw [heq, Inventory.append_assoc, Inventory.append_assoc,
          Inventory.append_assoc]
      · simp only [Inventory.parts_append, List.length_append,
          Site.length_parts_inventory]
        omega
      · simp only [Inventory.ports_append, List.length_append,
          Site.length_ports_inventory]
        omega
      · rcases List.mem_append.1 hb with hb | hb
        · have hsource := (Site.source hb).2
          simp only [Site.exit] at hsource
          omega
        · exact hbefore b hb

-- ========================================================== clusters

/-- Where the outputs of the narrow router leave. -/
def narrowExits (clusters : List ClusterLayout) : List PortId :=
  [⟨5⟩, ⟨7⟩] ++ (sites 6 8 clusters).map Site.exit

/-- The planes and those clusters. -/
def withClusters (layout : ChipLayout) (clusters : List ClusterLayout) :
    Inventory :=
  planes layout (.router (narrowTable layout clusters) (narrowExits clusters))
      (.router (wideTable layout) [⟨6⟩])
    ++ joined (sites 6 8 clusters)

def partCount (clusters : List ClusterLayout) : Nat :=
  6 + (joined (sites 6 8 clusters)).parts.length

def portCount (clusters : List ClusterLayout) : Nat :=
  8 + (joined (sites 6 8 clusters)).ports.length

@[simp] theorem length_parts_withClusters (layout : ChipLayout)
    (clusters : List ClusterLayout) :
    (withClusters layout clusters).parts.length = partCount clusters :=
  List.length_append

@[simp] theorem length_ports_withClusters (layout : ChipLayout)
    (clusters : List ClusterLayout) :
    (withClusters layout clusters).ports.length = portCount clusters :=
  List.length_append

/-- The port that leads on to a cluster is one of the chip's. -/
theorem Site.exit_lt {site : Site} {clusters : List ClusterLayout}
    (h : site ∈ sites 6 8 clusters) :
    site.exit.index < portCount clusters := by
  obtain ⟨before, after, heq, -, hport, -⟩ := joined_of_mem h
  simp only [portCount, heq, Inventory.ports_append, List.length_append,
    Site.length_ports_inventory, Site.exit]
  omega

/-- A cluster of another number has nothing in the place of this one. -/
theorem not_below_withClusters {layout : ChipLayout}
    {clusters : List ClusterLayout} {id : Nat}
    (hid : ∀ cluster ∈ clusters, cluster.id ≠ id) :
    ∀ part ∈ (withClusters layout clusters).parts,
      ¬ Below (clusterPath id) part.path := by
  intro part hpart
  rcases List.mem_append.1 hpart with hpart | hpart
  · have hpath : part.path ∈ planePaths :=
      List.mem_map_of_mem (f := Part.path) hpart
    have hhead : ∀ path ∈ planePaths, (nameAfter "board/chip/soc" path).head? ≠
        some 'c' := by
      decide
    exact not_below_cluster (hhead _ hpath) id
  · obtain ⟨site, hsite, hpart⟩ := mem_parts_joined.1 hpart
    exact fun hbelow => hid _ (mem_sites hsite).1
      (eq_of_below_cluster (Site.below hpart) hbelow)

/-- Nor does the narrow plane have its output. -/
theorem lacksPort_withClusters {layout : ChipLayout}
    {clusters : List ClusterLayout} {id : Nat}
    (hid : ∀ cluster ∈ clusters, cluster.id ≠ id) :
    (withClusters layout clusters).LacksPort ⟨3⟩ (clusterName id) := by
  rintro port hport ⟨howner, hname⟩
  rcases List.mem_append.1 hport with hport | hport
  · have hnames : port.name ∈ [Router.defaultInput, "rom", "hbm"] := by
      simp only [planes, List.mem_cons, List.not_mem_nil, or_false] at hport
      rcases hport with rfl | rfl | rfl | rfl | rfl | rfl | rfl | rfl
        <;> decide
    have hhead : ∀ name ∈ [Router.defaultInput, "rom", "hbm"],
        name.toList.head? ≠ some 'c' := by
      decide
    exact ne_clusterName (hhead _ hnames) id hname
  · obtain ⟨site, hsite, hport⟩ := mem_ports_joined.1 hport
    obtain ⟨hcluster, hpart, -⟩ := mem_sites hsite
    rcases Site.owner hport with howner' | hname'
    · rw [howner] at howner'
      exact absurd (Nat.le_trans hpart howner') (by decide)
    · exact hid _ hcluster (clusterName_inj.1 (hname'.symm.trans hname))

def nextSite (before : List ClusterLayout) (cluster : ClusterLayout) :
    Site where
  cluster
  part := partCount before
  port := portCount before

/-- The sites of the first clusters do not depend on what comes after them. -/
theorem sites_concat (before : List ClusterLayout) (cluster : ClusterLayout) :
    sites 6 8 (before ++ [cluster]) = sites 6 8 before
      ++ [nextSite before cluster] :=
  sites_append 6 8 before [cluster]

/-- A row is built from its end. -/
theorem joined_concat (row : List Site) (site : Site) :
    joined (row ++ [site]) = joined row ++ site.inventory := by
  rw [joined, List.map_append, Inventory.join_append, List.map_singleton,
    Inventory.join_singleton, joined]

/-- The narrow router is one of the planes. -/
theorem withKind_planes (layout : ChipLayout)
    (narrow wide kind : ComponentKind) (t : Inventory) :
    (planes layout narrow wide ++ t).withKind ⟨3⟩ kind = planes layout kind
      wide ++ t := rfl

/-- The window of a cluster leads to the output of its number. -/
theorem narrowTable_concat (layout : ChipLayout) {before : List ClusterLayout}
    {cluster : ClusterLayout} (hid : cluster.id = before.length) :
    narrowTable layout (before ++ [cluster]) =
      (narrowTable layout before).withWindow (clusterName cluster.id)
        cluster.region true {} := by
  have hport : 2 + before.length = before.length + 1 + 1 := by omega
  simp [narrowTable, Router.withWindow, Router.withOutput, Router.withMapping,
    clusterMapping, hid, hport]

/-- What a cluster needs to be added after those before it. -/
theorem next_of_sound {layout : ChipLayout} (hlayout : layout.Sound)
    {before after : List ClusterLayout} {cluster : ClusterLayout}
    (hclusters : layout.clusters = before ++ cluster :: after) :
    cluster.id = before.length ∧ (∀ other ∈ before, other.id ≠ cluster.id)
      ∧ ∀ m ∈ (narrowTable layout before).mappings,
        ¬ m.window.Overlaps cluster.region := by
  have hmem : cluster ∈ layout.clusters := by simp [hclusters]
  have hid : cluster.id = before.length := by
    apply hlayout.id_eq before.length cluster
    simp [hclusters]
  refine ⟨hid, fun other hother heq => ?_, fun m hm => ?_⟩
  · obtain ⟨i, hi, rfl⟩ := List.mem_iff_getElem.1 hother
    have hat : layout.clusters[i]? = some before[i] := by
      rw [hclusters, List.getElem?_append_left hi, List.getElem?_eq_getElem hi]
    have hother := hlayout.id_eq i before[i] hat
    omega
  · simp only [narrowTable, List.cons_append, List.nil_append, List.mem_cons,
      List.mem_map] at hm
    rcases hm with rfl | rfl | ⟨other, hother, rfl⟩
    · exact hlayout.bootrom_cluster cluster hmem
    · exact hlayout.hbm_cluster cluster hmem
    · have hpair := hlayout.clusters
      rw [hclusters] at hpair
      exact (List.pairwise_append.1 hpair).2.2 other hother cluster
        (List.mem_cons_self ..)

/-- The window of the next cluster is mapped, whatever was added since the
last one. -/
theorem mapCluster_makes {layout : ChipLayout} (hlayout : layout.Sound)
    {before after : List ClusterLayout} {cluster : ClusterLayout}
    (hclusters : layout.clusters = before ++ cluster :: after) {t : Inventory}
    {target : ForwardPort .io} {q : Nat} (port : Port)
    (hname : t.LacksPort ⟨3⟩ (clusterName cluster.id))
    (htarget : (withClusters layout before ++ t).ports[target.port.index]? =
      some port)
    (hsink : port.direction.isSink)
    (hq : (withClusters layout before ++ t).ports.length = q) :
    (Build.mapWindow ⟨3⟩ (clusterName cluster.id) target cluster.region
      true {}).Makes
      (withClusters layout before ++ t) ⟨⟨q⟩⟩
      (planes layout
        (.router (narrowTable layout (before ++ [cluster]))
          (narrowExits before ++ [⟨q⟩]))
        (.router (wideTable layout) [⟨6⟩])
        ++ (joined (sites 6 8 before) ++ (t ++ ⟨[],
          [⟨⟨3⟩, clusterName cluster.id, .output, Signal.io.signature⟩],
          [⟨⟨q⟩, target.port⟩]⟩))) := by
  obtain ⟨hid, hne, hfree⟩ := next_of_sound hlayout hclusters
  have hout : clusterName cluster.id ∉
      (narrowTable layout before).outputs := by
    simp only [narrowTable, List.cons_append, List.nil_append, List.mem_cons,
      List.mem_map, not_or, not_exists, not_and]
    refine ⟨(ne_clusterName (by decide) _).symm,
      (ne_clusterName (by decide) _).symm, ?_⟩
    exact fun other hother heq => hne other hother (clusterName_inj.1 heq)
  have hmakes :
      (Build.mapWindow ⟨3⟩ (clusterName cluster.id) target cluster.region
        true {}).Makes
      (withClusters layout before ++ t) ⟨⟨q⟩⟩ _ :=
    Build.mapWindow_makes rfl hfree hout
      (Inventory.lacksPort_append.2 ⟨lacksPort_withClusters hne, hname⟩)
        htarget hsink hq
  rw [withClusters, Inventory.append_assoc, withKind_planes,
    ← narrowTable_concat layout hid] at hmakes
  simpa only [withClusters, Inventory.append_assoc] using hmakes

/-- A round of the loop: the cluster is built, counted, bound to the planes
and given its window. -/
theorem addCluster_makes {layout : ChipLayout} (hlayout : layout.Sound)
    {before after : List ClusterLayout} {cluster : ClusterLayout}
    (hclusters : layout.clusters = before ++ cluster :: after) :
    (addCluster StandardCluster.build planeHandles cluster).Makes
      (withClusters layout before)
      (nextSite before cluster).handles
        (withClusters layout (before ++ [cluster])) := by
  obtain ⟨hid, hne, -⟩ := next_of_sound hlayout hclusters
  have hfinal : withClusters layout (before ++ [cluster]) =
      planes layout
        (.router (narrowTable layout (before ++ [cluster]))
          (narrowExits before ++ [(nextSite before cluster).exit]))
        (.router (wideTable layout) [⟨6⟩])
      ++ (joined (sites 6 8 before)
        ++ (nextSite before cluster).inventory) := by
    rw [withClusters, narrowExits, sites_concat, joined_concat,
      List.map_append, narrowExits, List.append_assoc]
    rfl
  have hn : (withClusters layout before).parts.length =
      (nextSite before cluster).part :=
    length_parts_withClusters layout before
  have hp : (withClusters layout before).ports.length =
      (nextSite before cluster).port :=
    length_ports_withClusters layout before
  have hpart : 3 < (nextSite before cluster).part := by
    simp only [nextSite, partCount]
    omega
  have hstacked : cluster.Stacked :=
    hlayout.stacked cluster (by simp [hclusters])
  have hcluster : (nextSite before cluster).cluster = cluster := rfl
  rw [hfinal]
  generalize nextSite before cluster = site at hn hp hpart hcluster ⊢
  subst hcluster
  have hsoc : (withClusters layout before).parts[planeHandles.soc.index]? =
      some ⟨"board/chip/soc", .group⟩ := rfl
  refine (StandardCluster.build_makes hsoc (not_below_withClusters hne)
    hstacked hn hp).bind ?_
  have hcount :
    (StandardCluster.handles site.part site.port site.cluster).coreCount =
    site.cluster.coreCount := rfl
  simp only [hcount, ne_eq, not_true_eq_false, ↓reduceIte]
  refine (Build.bind_makes ?_ ?_).append.bind ?_
  · simp [hp, StandardCluster.handles]
    omega
  · simp [hp, planeHandles]
    omega
  refine (Build.bind_makes ?_ ?_).append.bind ?_
  · simp [hp, StandardCluster.handles]
    omega
  · simp [hp, planeHandles]
    omega
  refine (mapCluster_makes (q := site.exit.index) hlayout hclusters
    ⟨⟨site.part⟩, "narrow_input", .forward, Signal.io.signature⟩ ?_
    (Inventory.getElem?_ports_append (k := 0) hp rfl) rfl ?_).bind ?_
  · rintro port hport ⟨howner, -⟩
    simp only [Inventory.ports_append, List.append_nil] at hport
    have hle := StandardCluster.le_owner_of_mem_inventory _ _ _ _ port hport
    rw [howner] at hle
    exact Nat.not_le.2 hpart hle
  · simp [hp, Site.exit]
    omega
  simp only [Site.inventory, Inventory.append_assoc]
  exact .pure _ _

end ChipFabric.Topology
