/-
What the clusters of a layout share out: the row of addresses from the first
cluster on, in strides, and the hart numbers from zero on. Every cluster is
laid out by itself, in the stride of its number and with the harts that
follow those of the clusters before it (`exists_plan_of_planClusters`); that
is one induction, and all else is read off the layout of one cluster.

# The statement

`sharesOut_of_plan`: the clusters of every accepted layout are those of the
configuration, no address and no hart belongs to two of them, and no hart of
the chip to none. So a hart is one core of one cluster, and the queries of
the layout answer with the numbers of the configuration.
-/
import ChipFabric.Proofs.Layout.Acceptance

namespace ChipFabric

-- ======================================================== one cluster

namespace ChipLayout

/-- Each cluster of a row is laid out by itself: in the stride of its number,
with the harts after those of the clusters before it. -/
theorem exists_plan_of_planClusters {config : Config} {span : Window}
    {stride id count : Nat} {clusters : List ClusterLayout}
    (h : planClusters config span stride id (config.coresBefore id) count =
      .ok clusters) {i : Nat}
    {layout : ClusterLayout} (hi : clusters[i]? = some layout) :
    ∃ region, span.carve ((id + i) * stride) stride = .ok region
      ∧ ClusterLayout.plan config (id + i) region
        (config.coresBefore (id + i)) = .ok layout := by
  induction count generalizing id i clusters with
  | zero =>
    cases h
    cases hi
  | succ count ih =>
    simp only [planClusters, bind_eq_ok_iff] at h
    obtain ⟨region, hregion, first, hfirst, rest, hrest, h⟩ := h
    cases h
    cases i with
    | zero =>
      obtain rfl := Option.some.inj hi
      exact ⟨region, hregion, hfirst⟩
    | succ i =>
      -- the counter the rest starts from is what the first cluster leaves
      obtain ⟨-, -, hcores, hstart, -⟩ := ClusterLayout.of_plan hfirst
      rw [ClusterLayout.endHart, hcores, hstart,
        ← Config.coresBefore_succ] at hrest
      have hlater := ih hrest hi
      rwa [Nat.add_right_comm, Nat.add_assoc] at hlater

/-- Cluster `i` of a chip, in the numbers of the configuration. -/
theorem cluster_of_plan {config : Config} {chip : ChipLayout}
    (h : plan config = .ok chip) {i : Nat} {layout : ClusterLayout}
    (hi : chip.clusters[i]? = some layout) :
    layout.id = i ∧ layout.coreCount = config.coreCount i
      ∧ layout.region.base = config.memoryMap.cluster.base.toNat
        + i * config.memoryMap.cluster.size.toNat
      ∧ layout.region.size = config.memoryMap.cluster.size.toNat
      ∧ layout.firstHart = config.coresBefore i
      ∧ layout.zeroMem.stop ≤ layout.region.size := by
  obtain ⟨span, hregions, -, hclusters, -⟩ := of_plan h
  obtain ⟨region, hregion, hlayout⟩ := exists_plan_of_planClusters hclusters hi
  rw [Nat.zero_add] at hregion hlayout
  obtain ⟨hid, rfl, hcores, hstart, -⟩ := ClusterLayout.of_plan hlayout
  obtain ⟨hend, hroom⟩ := ClusterLayout.memories_of_plan hlayout
  obtain ⟨hbase, hsize, -⟩ := Window.of_carve hregion
  obtain ⟨hfirst₁, hfirst₂⟩ := Window.of_make hregions.first_eq
  rw [(Window.of_make hregions.span_eq).1, hfirst₁, hfirst₂] at hbase
  exact ⟨hid, hcores, hbase, hsize.trans hfirst₂, hstart, hend ▸ hroom⟩

/-- As many clusters are laid out as were asked for. -/
theorem length_clusters_of_plan {config : Config} {chip : ChipLayout}
    (h : plan config = .ok chip) :
    chip.clusters.length = config.clusterCount.toNat := by
  obtain ⟨span, -, -, hclusters, -⟩ := of_plan h
  exact (of_planClusters hclusters).1

/-- The clusters of the configuration are those of the chip. -/
theorem exists_cluster_of_plan {config : Config} {chip : ChipLayout}
    (h : plan config = .ok chip) {i : Nat} :
    (∃ layout, chip.clusters[i]? = some layout) ↔
    i < config.clusterCount.toNat := by
  rw [← length_clusters_of_plan h]
  simp only [List.getElem?_eq_some_iff]
  exact ⟨fun ⟨_, hlt, _⟩ => hlt, fun hlt => ⟨_, hlt, rfl⟩⟩

-- ============================================================== harts

/-- The number of the hart that is that core of that cluster. -/
def hartOf? (chip : ChipLayout) (cluster core : Nat) : Option Nat := do
  (← chip.clusters[cluster]?).hart? core

/-- Harts of a cluster are counted from its first one. -/
theorem hartOf?_eq_some_iff {chip : ChipLayout} {cluster core hart : Nat} :
    chip.hartOf? cluster core = some hart ↔
      ∃ layout, chip.clusters[cluster]? = some layout
      ∧ core < layout.coreCount ∧ layout.firstHart + core = hart := by
  simp only [hartOf?, ClusterLayout.hart?, Option.bind_eq_bind,
    Option.bind_eq_some_iff, Option.ite_none_right_eq_some, Option.some.injEq]

end ChipLayout

-- =========================================================== statement

/-- How the clusters of a layout share out addresses and harts, in the numbers
of the configuration that was laid out. -/
structure Config.SharesOut (config : Config) (chip : ChipLayout) : Prop where
  count : chip.clusters.length = config.clusterCount.toNat
  /-- Cluster `i` has the number `i` and the `i`-th count of cores. -/
  numbered : ∀ i layout, chip.clusters[i]? = some layout →
    layout.id = i ∧ layout.coreCount = config.coreCount i
  /-- It stands in the `i`-th stride of the row. -/
  placed : ∀ i layout, chip.clusters[i]? = some layout →
    layout.region.base = config.memoryMap.cluster.base.toNat
        + i * config.memoryMap.cluster.size.toNat
      ∧ layout.region.stop = config.memoryMap.cluster.base.toNat
        + (i + 1) * config.memoryMap.cluster.size.toNat
  /-- Its harts follow those of the clusters before it. -/
  counted : ∀ i layout, chip.clusters[i]? = some layout →
    layout.firstHart = config.coresBefore i
      ∧ layout.endHart = config.coresBefore (i + 1)
  regions : chip.clusters.Pairwise fun a b => a.region.Disjoint b.region
  beside : ∀ layout ∈ chip.clusters,
    layout.region.Disjoint chip.bootrom ∧ layout.region.Disjoint chip.hbm
  harts_pos : ∀ layout ∈ chip.clusters, layout.firstHart < layout.endHart
  harts : chip.clusters.Pairwise fun a b => a.harts.Disjoint b.harts
  /-- The harts of the clusters are those of the chip. -/
  mem_harts : ∀ hart, (∃ layout ∈ chip.clusters, hart ∈ layout.harts) ↔
    hart < chip.hartCount
  hartCount : chip.hartCount = config.coresBefore config.clusterCount.toNat
  /-- The cores of the configuration have hart numbers, and nothing else
  has. -/
  cores : ∀ cluster core, (chip.hartOf? cluster core).isSome ↔
    cluster < config.clusterCount.toNat ∧ core < config.coreCount cluster
  hart_lt : ∀ cluster core hart, chip.hartOf? cluster core = some hart →
    hart < chip.hartCount
  /-- Each hart of the chip is one core of one cluster. -/
  hart : ∀ hart < chip.hartCount, ∃! place : Nat × Nat,
    chip.hartOf? place.1 place.2 = some hart
  clusterBase : ∀ i, chip.clusterBase? i =
    if i < config.clusterCount.toNat then
      some (config.memoryMap.cluster.base.toNat + i
        * config.memoryMap.cluster.size.toNat)
    else none
  clusterSpan : chip.clusterSpan.base = config.memoryMap.cluster.base.toNat
    ∧ chip.clusterSpan.size = config.spanSize
  /-- The memories of a cluster follow each other from zero and end within
  its stride. -/
  stacked : ∀ layout ∈ chip.clusters, layout.Stacked
    ∧ layout.zeroMem.stop ≤ config.memoryMap.cluster.size.toNat
  memories : ∀ layout ∈ chip.clusters, layout.tcdm.Disjoint layout.periph
    ∧ layout.tcdm.Disjoint layout.zeroMem
    ∧ layout.periph.Disjoint layout.zeroMem

namespace ChipLayout

variable {config : Config} {chip : ChipLayout}

/-- No hart is in two clusters. -/
theorem pairwise_harts_disjoint (h : plan config = .ok chip) :
    chip.clusters.Pairwise fun a b => a.harts.Disjoint b.harts := by
  rw [List.pairwise_iff_getElem]
  intro i j hi hj hij hart hmem hmem'
  have heq := (numbered_of_plan h).eq_of_mem_harts
    (List.getElem?_eq_getElem hi) (List.getElem?_eq_getElem hj) hmem hmem'
  exact Nat.ne_of_lt hij heq

/-- And none is in no cluster. -/
theorem mem_harts_iff_of_plan (h : plan config = .ok chip) {hart : Nat} :
    (∃ layout ∈ chip.clusters, hart ∈ layout.harts) ↔
      hart < chip.hartCount := by
  have hnumbered := numbered_of_plan h
  rw [← List.mem_flatMap, hnumbered.flatMap_harts, hartCount_eq hnumbered,
    List.mem_range'_1]
  simp

theorem hartCount_of_plan (h : plan config = .ok chip) :
    chip.hartCount = config.coresBefore config.clusterCount.toNat := by
  have hcores : chip.clusters.map (·.coreCount) =
      (List.range config.clusterCount.toNat).map config.coreCount := by
    apply List.ext_getElem
    · simp [length_clusters_of_plan h]
    · intro i hi _
      rw [List.length_map] at hi
      simpa using (cluster_of_plan h (List.getElem?_eq_getElem hi)).2.1
  rw [hartCount_eq (numbered_of_plan h), ClusterLayout.coreTotal, hcores,
    Config.coresBefore]

/-- What has a hart number is a core of a cluster, and the number is among
those of the cluster. -/
theorem hartOf?_mem_harts {cluster core hart : Nat}
    (hhart : chip.hartOf? cluster core = some hart) :
    ∃ layout, chip.clusters[cluster]? = some layout ∧ hart ∈ layout.harts
      ∧ core < layout.coreCount ∧ hart = layout.firstHart + core := by
  obtain ⟨layout, hi, hcore, rfl⟩ := hartOf?_eq_some_iff.1 hhart
  refine ⟨layout, hi, ClusterLayout.mem_harts.2 ⟨Nat.le_add_right _ _, ?_⟩,
    hcore, rfl⟩
  exact Nat.add_lt_add_left hcore _

theorem hartOf?_isSome_iff (h : plan config = .ok chip) {cluster core : Nat} :
    (chip.hartOf? cluster core).isSome ↔
      cluster < config.clusterCount.toNat
        ∧ core < config.coreCount cluster := by
  rw [Option.isSome_iff_exists, ← exists_cluster_of_plan h]
  constructor
  · rintro ⟨hart, hhart⟩
    obtain ⟨layout, hi, hcore, -⟩ := hartOf?_eq_some_iff.1 hhart
    exact ⟨⟨layout, hi⟩, (cluster_of_plan h hi).2.1 ▸ hcore⟩
  · rintro ⟨⟨layout, hi⟩, hcore⟩
    rw [← (cluster_of_plan h hi).2.1] at hcore
    exact ⟨_, hartOf?_eq_some_iff.2 ⟨layout, hi, hcore, rfl⟩⟩

/-- A hart is one core of one cluster. -/
theorem existsUnique_hartOf? (h : plan config = .ok chip) {hart : Nat}
    (hhart : hart < chip.hartCount) :
    ∃! place : Nat × Nat, chip.hartOf? place.1 place.2 = some hart := by
  obtain ⟨layout, hlayout, hmem⟩ := (mem_harts_iff_of_plan h).2 hhart
  obtain ⟨i, hi⟩ := List.mem_iff_getElem?.1 hlayout
  obtain ⟨hle, hlt⟩ := ClusterLayout.mem_harts.1 hmem
  rw [ClusterLayout.endHart] at hlt
  refine ⟨(i, hart - layout.firstHart), ?_, ?_⟩
  · exact hartOf?_eq_some_iff.2 ⟨layout, hi, by omega, by omega⟩
  · rintro ⟨j, core⟩ hother
    obtain ⟨layout', hj, hmem', -, heq⟩ := hartOf?_mem_harts hother
    -- the hart says which cluster it is in, and the cluster which core it is
    obtain rfl := (numbered_of_plan h).eq_of_mem_harts hi hj hmem hmem'
    obtain rfl := Option.some.inj (hi.symm.trans hj)
    rw [Prod.mk.injEq]
    exact ⟨rfl, by omega⟩

/-- The window of all clusters together is that of the configuration. -/
theorem clusterSpan_of_plan (h : plan config = .ok chip) :
    chip.clusterSpan.base = config.memoryMap.cluster.base.toNat
      ∧ chip.clusterSpan.size = config.spanSize := by
  have hplace := placeable_of_plan h
  have hlength := length_clusters_of_plan h
  have hcount := (Config.of_check hplace.check).1
  obtain ⟨first, hfirst⟩ := (exists_cluster_of_plan h).2 hcount
  obtain ⟨last, hlast⟩ :=
    (exists_cluster_of_plan h).2 (Nat.sub_lt hcount Nat.one_pos)
  obtain ⟨-, -, hbase, -⟩ := cluster_of_plan h hfirst
  obtain ⟨-, -, hbase', hsize', -⟩ := cluster_of_plan h hlast
  have hhead : chip.clusters.head? = some first :=
    List.head?_eq_getElem? .. ▸ hfirst
  have htail : chip.clusters.getLast? = some last := by
    rw [List.getLast?_eq_getElem?, hlength, hlast]
  rw [Nat.zero_mul, Nat.add_zero] at hbase
  have hstop : last.region.stop - config.memoryMap.cluster.base.toNat =
      config.spanSize := by
    have hrow : (config.clusterCount.toNat - 1 + 1)
        * config.memoryMap.cluster.size.toNat = config.spanSize := by
      rw [Nat.sub_add_cancel hcount, Config.spanSize]
    rw [Nat.succ_mul] at hrow
    rw [Window.stop]
    omega
  have hpos : 0 < config.spanSize := Nat.mul_pos hcount
    (Nat.lt_of_lt_of_le (config.total_pos hplace.check) hplace.footprint)
  simp only [clusterSpan, hhead, htail, hbase, hstop]
  rw [Window.make_of_fits hpos hplace.clusters_end]
  exact ⟨rfl, rfl⟩

theorem clusterBase?_of_plan (h : plan config = .ok chip) (i : Nat) :
    chip.clusterBase? i =
      if i < config.clusterCount.toNat then
        some (config.memoryMap.cluster.base.toNat + i
          * config.memoryMap.cluster.size.toNat)
      else none := by
  rw [clusterBase?]
  by_cases hi : i < config.clusterCount.toNat
  · obtain ⟨layout, hlayout⟩ := (exists_cluster_of_plan h).2 hi
    obtain ⟨-, -, hbase, -⟩ := cluster_of_plan h hlayout
    rw [if_pos hi, hlayout, Option.map_some, hbase]
  · have hout : chip.clusters[i]? = none :=
      List.getElem?_eq_none (length_clusters_of_plan h ▸ Nat.le_of_not_lt hi)
    rw [if_neg hi, hout, Option.map_none]

/-- The clusters of every accepted layout share out the addresses from the
first cluster on and the harts from zero on, as the configuration says. -/
theorem sharesOut_of_plan (h : plan config = .ok chip) :
    config.SharesOut chip := by
  have hsound := plan_sound h
  have hcheck := (placeable_of_plan h).check
  have hof : ∀ layout ∈ chip.clusters, ∃ i : Nat, chip.clusters[i]? =
      some layout :=
    fun layout hlayout => List.mem_iff_getElem?.1 hlayout
  constructor
  case count => exact length_clusters_of_plan h
  case numbered =>
    intro i layout hi
    obtain ⟨hid, hcores, -⟩ := cluster_of_plan h hi
    exact ⟨hid, hcores⟩
  case placed =>
    intro i layout hi
    obtain ⟨-, -, hbase, hsize, -⟩ := cluster_of_plan h hi
    rw [Window.stop, hbase, hsize, Nat.succ_mul, Nat.add_assoc]
    exact ⟨rfl, rfl⟩
  case counted =>
    intro i layout hi
    obtain ⟨-, hcores, -, -, hfirst, -⟩ := cluster_of_plan h hi
    rw [ClusterLayout.endHart, hcores, hfirst, Config.coresBefore_succ]
    exact ⟨rfl, rfl⟩
  case regions => exact hsound.clusters.imp Window.disjoint_of_not_overlaps
  case beside =>
    intro layout hlayout
    have hrom : ¬ layout.region.Overlaps chip.bootrom :=
      fun hover => hsound.bootrom_cluster layout hlayout hover.symm
    have hhbm : ¬ layout.region.Overlaps chip.hbm :=
      fun hover => hsound.hbm_cluster layout hlayout hover.symm
    exact ⟨Window.disjoint_of_not_overlaps hrom,
      Window.disjoint_of_not_overlaps hhbm⟩
  case harts_pos =>
    intro layout hlayout
    obtain ⟨i, hi⟩ := hof layout hlayout
    rw [ClusterLayout.endHart, (cluster_of_plan h hi).2.1]
    exact Nat.lt_add_of_pos_right ((Config.of_check hcheck).2.2.2 i)
  case harts => exact pairwise_harts_disjoint h
  case mem_harts => exact fun hart => mem_harts_iff_of_plan h
  case hartCount => exact hartCount_of_plan h
  case cores => exact fun cluster core => hartOf?_isSome_iff h
  case hart_lt =>
    intro cluster core hart hhart
    obtain ⟨layout, hi, hmem, -⟩ := hartOf?_mem_harts hhart
    exact (mem_harts_iff_of_plan h).1 ⟨layout, List.mem_of_getElem? hi, hmem⟩
  case hart => exact fun hart hhart => existsUnique_hartOf? h hhart
  case clusterBase => exact clusterBase?_of_plan h
  case clusterSpan => exact clusterSpan_of_plan h
  case stacked =>
    intro layout hlayout
    obtain ⟨i, hi⟩ := hof layout hlayout
    obtain ⟨-, -, -, hsize, -, hend⟩ := cluster_of_plan h hi
    exact ⟨hsound.stacked layout hlayout, hsize ▸ hend⟩
  case memories =>
    intro layout hlayout
    obtain ⟨h₁, h₂, h₃⟩ := (hsound.stacked layout hlayout).disjoint
    exact ⟨Window.disjoint_of_not_overlaps h₁,
      Window.disjoint_of_not_overlaps h₂, Window.disjoint_of_not_overlaps h₃⟩

/-- Three clusters of two, five and one cores, whose memories fill the
stride. -/
def unevenConfig : Config where
  clusterCount := 3
  clusterCores := [2, 5, 1]

/-- Their eight harts are those of three clusters, which stand in a row of
three strides. -/
theorem unevenConfig_sharesOut : ∃ chip, plan unevenConfig = .ok chip
    ∧ unevenConfig.SharesOut chip ∧ chip.hartCount = 8
    ∧ chip.hartOf? 1 4 = some 6
    ∧ chip.clusterBase? 2 = some 0x10080000
    ∧ chip.clusterSpan.size = 0xc0000 := by
  obtain ⟨chip, hplan, hcore⟩ : ∃ chip, plan unevenConfig = .ok chip
      ∧ chip.hartOf? 1 4 = some 6 := ⟨_, rfl, rfl⟩
  have hshares := sharesOut_of_plan hplan
  exact ⟨chip, hplan, hshares, hshares.hartCount, hcore, hshares.clusterBase 2,
    hshares.clusterSpan.2⟩

end ChipLayout

end ChipFabric
