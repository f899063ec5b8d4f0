/-
What a layout looks like that was accepted. Cluster `i` has the number `i`
and starts `i` strides into the row of clusters, and its memories follow
each other from zero; the row lies beside the boot ROM and the external
memory. So no two windows of a table that is filled from the layout overlap
(`ChipLayout.Sound`).
-/
import ChipFabric.Layout.Chip
import ChipFabric.Proofs.Address.Window

namespace ChipFabric

-- =========================================================== clusters

namespace ClusterLayout

/-- The memories of the cluster follow each other from zero. -/
structure Stacked (layout : ClusterLayout) : Prop where
  tcdm : layout.tcdm.base = 0
  periph : layout.periph.base = layout.tcdm.stop
  zeroMem : layout.zeroMem.base = layout.periph.stop

/-- So they are disjoint. -/
theorem Stacked.disjoint {layout : ClusterLayout} (h : layout.Stacked) :
    ¬ layout.tcdm.Overlaps layout.periph
      ∧ ¬ layout.tcdm.Overlaps layout.zeroMem
      ∧ ¬ layout.periph.Overlaps layout.zeroMem := by
  have hperiph := h.periph
  have hzeroMem := h.zeroMem
  have hpos := layout.periph.size_pos
  simp only [Window.Overlaps, Window.stop] at hperiph hzeroMem ⊢
  omega

theorem of_plan {config : Config} {id firstHart : Nat} {region : Window}
    {layout : ClusterLayout}
    (h : plan config id region firstHart = .ok layout) :
    layout.id = id ∧ layout.region = region
      ∧ layout.coreCount = config.coreCount id
      ∧ layout.firstHart = firstHart ∧ layout.Stacked := by
  simp only [plan, throw_bind, ite_error_eq_ok_iff, bind_eq_ok_iff] at h
  obtain ⟨-, -, -, -, tcdm, htcdm, periph, hperiph, zeroMem, hzeroMem, h⟩ := h
  cases h
  refine ⟨rfl, rfl, rfl, rfl, ?_⟩
  exact ⟨(Window.of_make htcdm).1, (Window.of_make hperiph).1,
    (Window.of_make hzeroMem).1⟩

end ClusterLayout

namespace ChipLayout

/-- What the clusters are laid out as: from number `id` on, a stride apart,
each inside the row. -/
theorem of_planClusters {config : Config} {span : Window}
    {stride id firstHart count : Nat} {clusters : List ClusterLayout}
    (h : planClusters config span stride id firstHart count = .ok clusters) :
    clusters.length = count ∧ ∀ i layout, clusters[i]? = some layout →
      layout.id = id + i ∧ layout.region.base = span.base + (id + i) * stride
        ∧ layout.region.size = stride ∧ span.Encloses layout.region
        ∧ layout.coreCount = config.coreCount (id + i) ∧ layout.Stacked := by
  induction count generalizing id firstHart clusters with
  | zero =>
    cases h
    exact ⟨rfl, by simp⟩
  | succ count ih =>
    simp only [planClusters, bind_eq_ok_iff] at h
    obtain ⟨region, hregion, first, hfirst, rest, hrest, h⟩ := h
    cases h
    obtain ⟨hlength, hlater⟩ := ih hrest
    refine ⟨congrArg (· + 1) hlength, fun i layout hi => ?_⟩
    cases i with
    | zero =>
      obtain rfl := Option.some.inj hi
      obtain ⟨hid, hregion', hcores, -, hstacked⟩ :=
        ClusterLayout.of_plan hfirst
      obtain ⟨hbase, hsize, hin⟩ := Window.of_carve hregion
      rw [hregion']
      exact ⟨hid, hbase, hsize, hin, hcores, hstacked⟩
    | succ i =>
      have hlater := hlater i layout hi
      rwa [Nat.add_right_comm, Nat.add_assoc] at hlater

-- ============================================================= layout

/-- Clusters are numbered from zero and everything on the chip has an address
range of its own. -/
structure Sound (chip : ChipLayout) : Prop where
  id_eq : ∀ i (layout : ClusterLayout), chip.clusters[i]? = some layout →
    layout.id = i
  stacked : ∀ layout ∈ chip.clusters, layout.Stacked
  bootrom_hbm : ¬ chip.bootrom.Overlaps chip.hbm
  bootrom_cluster : ∀ layout ∈ chip.clusters,
    ¬ chip.bootrom.Overlaps layout.region
  hbm_cluster : ∀ layout ∈ chip.clusters, ¬ chip.hbm.Overlaps layout.region
  clusters : chip.clusters.Pairwise fun a b => ¬ a.region.Overlaps b.region

theorem not_overlaps_of_requireDisjoint {first second : String} {v w : Window}
    {u : Unit} (h : requireDisjoint first v second w = .ok u) :
    ¬ v.Overlaps w := by
  rw [requireDisjoint, ite_error_eq_ok_iff] at h
  exact h.1

/-- The regions of the chip as the configuration asks for them; the clusters
lie in a window `span` that starts where the first one does. -/
structure Regions (config : Config) (bootrom hbm first span : Window) :
    Prop where
  check : config.check = .ok ()
  bootrom_eq : Window.make config.memoryMap.bootrom.base.toNat
    config.memoryMap.bootrom.size.toNat = .ok bootrom
  hbm_eq : Window.make config.memoryMap.hbmBase.toNat config.hbmSize.toNat =
    .ok hbm
  first_eq : Window.make config.memoryMap.cluster.base.toNat
    config.memoryMap.cluster.size.toNat = .ok first
  fit : config.cluster.fitInto first.size = .ok ()
  span_eq : Window.make first.base (config.clusterCount.toNat * first.size) =
    .ok span
  bootrom_hbm : requireDisjoint "bootrom" bootrom "hbm" hbm = .ok ()
  bootrom_span : requireDisjoint "bootrom" bootrom "clusters" span = .ok ()
  hbm_span : requireDisjoint "hbm" hbm "clusters" span = .ok ()

/-- What a layout was made from, step by step. -/
theorem of_plan {config : Config} {chip : ChipLayout}
    (h : plan config = .ok chip) :
    ∃ span : Window,
      Regions config chip.bootrom chip.hbm chip.clusterRegion span
      ∧ reserve config.clusterCount.toNat = .ok ()
      ∧ planClusters config span chip.clusterRegion.size 0 0
          config.clusterCount.toNat = .ok chip.clusters
      ∧ chip.bootrom.base + config.interconnect.loaderEntryOffset.toNat
          ≤ maxWord := by
  simp only [plan, throw_bind, ite_error_eq_ok_iff, bind_eq_ok_iff,
    Nat.not_lt] at h
  obtain ⟨_, hcheck, bootrom, hbootrom, hbm, hhbm, first, hfirst, _, hfit, -,
    span, hspan, _, hbootromHbm, _, hbootromSpan, _, hhbmSpan, _, hroom,
    clusters, hclusters, hentry, h⟩ := h
  cases h
  exact ⟨span, ⟨hcheck, hbootrom, hhbm, hfirst, hfit, hspan, hbootromHbm,
    hbootromSpan, hhbmSpan⟩, hroom, hclusters, hentry⟩

/-- The cores start that far into the boot ROM, or behind it. -/
theorem loaderEntry_of_plan {config : Config} {chip : ChipLayout}
    (h : plan config = .ok chip) :
    chip.loaderEntry =
      chip.bootrom.base + config.interconnect.loaderEntryOffset.toNat := by
  simp only [plan, throw_bind, ite_error_eq_ok_iff, bind_eq_ok_iff] at h
  obtain ⟨_, -, bootrom, -, hbm, -, first, -, _, -, -, span, -, _, -, _, -, _,
    -, _, -, clusters, -, -, h⟩ := h
  cases h
  rfl

theorem plan_sound {config : Config} {chip : ChipLayout}
    (h : plan config = .ok chip) :
    chip.Sound := by
  obtain ⟨span, hregions, -, hclusters, -⟩ := of_plan h
  obtain ⟨-, hlaid⟩ := of_planClusters hclusters
  have hin : ∀ layout ∈ chip.clusters, layout.Stacked
      ∧ span.Encloses layout.region := by
    intro layout hlayout
    obtain ⟨i, hi⟩ := List.mem_iff_getElem?.1 hlayout
    obtain ⟨-, -, -, hinside, -, hstacked⟩ := hlaid i layout hi
    exact ⟨hstacked, hinside⟩
  constructor
  case id_eq =>
    exact fun i layout hi => (hlaid i layout hi).1.trans (Nat.zero_add i)
  case stacked => exact fun layout hlayout => (hin layout hlayout).1
  case bootrom_hbm =>
    exact not_overlaps_of_requireDisjoint hregions.bootrom_hbm
  case bootrom_cluster =>
    exact fun layout hlayout hover =>
      not_overlaps_of_requireDisjoint hregions.bootrom_span
        (hover.of_encloses (hin layout hlayout).2)
  case hbm_cluster =>
    exact fun layout hlayout hover =>
      not_overlaps_of_requireDisjoint hregions.hbm_span
        (hover.of_encloses (hin layout hlayout).2)
  case clusters =>
    rw [List.pairwise_iff_getElem]
    intro i j hi hj hij hover
    obtain ⟨-, hbase, hsize, -⟩ := hlaid i _ (List.getElem?_eq_getElem hi)
    obtain ⟨-, hbase', -⟩ := hlaid j _ (List.getElem?_eq_getElem hj)
    -- a stride lies between the starts of the two
    have hstride : (i + 1) * chip.clusterRegion.size ≤
      j * chip.clusterRegion.size := Nat.mul_le_mul_right _ hij
    rw [Nat.succ_mul] at hstride
    have hstart := hover.2
    rw [Nat.zero_add] at hbase hbase'
    rw [Window.stop, hbase, hbase', hsize] at hstart
    omega

end ChipLayout

end ChipFabric
