/-
Which configurations are laid out. The conditions are those of exact
arithmetic on the numbers of the configuration: regions that end within the
address space and share no address, memories that fit into the stride, and
harts and an entry address that are words (`Placeable`, `coresBefore`).

# The one condition of the machine

Between placing the regions and numbering the harts, room is reserved for
the layouts of all clusters at once (`Storable`). A window of three
addresses is enough for a cluster, but its layout takes ninety-six bytes, so
the address space holds more clusters than an allocation does. On a
configuration that has a place for everything and too many clusters to
reserve room for, the program ends without an answer, and only there
(`Promised`, `plan_accepts_iff`).
-/
import ChipFabric.Proofs.Layout.Cluster

namespace ChipFabric

-- ========================================================= conditions

/-- No address lies in both of two intervals, given by base and size. -/
def Apart (base size base' size' : Nat) : Prop :=
  ∀ addr, ¬ ((base ≤ addr ∧ addr < base + size)
    ∧ (base' ≤ addr ∧ addr < base' + size'))

/-- The number of addresses that all clusters take. -/
def Config.spanSize (config : Config) : Nat :=
  config.clusterCount.toNat * config.memoryMap.cluster.size.toNat

/-- Everything on the chip has a place in the address space: what is asked
of a configuration before the harts are numbered. -/
structure Config.Placeable (config : Config) : Prop where
  check : config.check = .ok ()
  bootrom_pos : 0 < config.memoryMap.bootrom.size.toNat
  bootrom_end :
    config.memoryMap.bootrom.base.toNat + config.memoryMap.bootrom.size.toNat ≤
    maxWord
  hbm_end : config.memoryMap.hbmBase.toNat + config.hbmSize.toNat ≤ maxWord
  footprint : config.cluster.total ≤ config.memoryMap.cluster.size.toNat
  clusters_end : config.memoryMap.cluster.base.toNat + config.spanSize ≤
    maxWord
  bootrom_hbm : Apart config.memoryMap.bootrom.base.toNat
    config.memoryMap.bootrom.size.toNat config.memoryMap.hbmBase.toNat
    config.hbmSize.toNat
  bootrom_clusters : Apart config.memoryMap.bootrom.base.toNat
    config.memoryMap.bootrom.size.toNat config.memoryMap.cluster.base.toNat
      config.spanSize
  hbm_clusters : Apart config.memoryMap.hbmBase.toNat config.hbmSize.toNat
    config.memoryMap.cluster.base.toNat config.spanSize

/-- Room for the layouts of all clusters can be reserved at once. -/
def Config.Storable (config : Config) : Prop :=
  config.clusterCount.toNat * ClusterLayout.bytes ≤ maxAllocation

instance (config : Config) : Decidable config.Storable :=
  inferInstanceAs (Decidable (_ * ClusterLayout.bytes ≤ maxAllocation))

-- ============================================================= checks

theorem requirePositive_eq_ok_iff {setting : String} {value : UInt64} :
    requirePositive setting value = .ok () ↔ 0 < value.toNat := by
  rw [requirePositive, ite_error_eq_ok_iff, and_iff_left rfl,
    ← UInt64.toNat_inj]
  exact Nat.pos_iff_ne_zero.symm

theorem ClusterSizes.check_eq_ok_iff {sizes : ClusterSizes} :
    sizes.check = .ok () ↔
      0 < sizes.tcdm.toNat ∧ 0 < sizes.periph.toNat
        ∧ 0 < sizes.zeroMem.toNat := by
  simp only [check, check_bind_eq_ok_iff, requirePositive_eq_ok_iff]

namespace Config

variable {config : Config}

/-- A list of core counts that passes holds no zero. -/
theorem pos_of_checkClusterCores (h : config.checkClusterCores = .ok ()) :
    ∀ count ∈ config.clusterCores, 0 < count.toNat := by
  intro count hcount
  have hne : config.clusterCores ≠ [] := List.ne_nil_of_mem hcount
  simp only [checkClusterCores, hne, ↓reduceIte, throw_bind,
    ite_error_eq_ok_iff] at h
  obtain ⟨-, h⟩ := h
  cases hzero : config.clusterCores.findIdx? (· = 0) with
  | some i =>
    rw [hzero] at h
    cases h
  | none =>
    have hnot := List.findIdx?_eq_none_iff.1 hzero count hcount
    rw [decide_eq_false_iff_not, ← UInt64.toNat_inj] at hnot
    exact Nat.pos_of_ne_zero hnot

/-- What the check of a configuration says about its numbers. -/
theorem of_check (h : config.check = .ok ()) :
    0 < config.clusterCount.toNat ∧ 0 < config.hbmSize.toNat
      ∧ config.cluster.check = .ok ()
      ∧ ∀ id, 0 < config.coreCount id := by
  simp only [check, check_bind_eq_ok_iff, requirePositive_eq_ok_iff] at h
  obtain ⟨hclusters, hcores, hhbm, hlist, hsizes, -⟩ := h
  refine ⟨hclusters, hhbm, hsizes, fun id => ?_⟩
  rw [coreCount]
  cases hid : config.clusterCores[id]? with
  | none => exact hcores
  | some count =>
    exact pos_of_checkClusterCores hlist count (List.mem_of_getElem? hid)

theorem total_pos (config : Config) (h : config.check = .ok ()) :
    0 < config.cluster.total := by
  obtain ⟨-, -, hsizes, -⟩ := of_check h
  exact Nat.add_pos_right _ (ClusterSizes.check_eq_ok_iff.1 hsizes).2.2

end Config

-- ============================================================ windows

theorem requireDisjoint_eq_ok_iff {first second : String} {v w : Window} :
    requireDisjoint first v second w = .ok () ↔
      Apart v.base v.size w.base w.size := by
  rw [requireDisjoint, ite_error_eq_ok_iff, and_iff_left rfl,
    Window.overlaps_iff_exists_mem, not_exists]
  rfl

theorem requireDisjoint_of_apart {base size base' size' : Nat}
    {hpos : 0 < size} {hpos' : 0 < size'} {hfits : base + size ≤ maxWord}
    {hfits' : base' + size' ≤ maxWord} (h : Apart base size base' size')
    (first second : String) :
    requireDisjoint first ⟨base, size, hpos, hfits⟩ second
      ⟨base', size', hpos', hfits'⟩ = .ok () :=
  requireDisjoint_eq_ok_iff.2 h

-- =========================================================== clusters

section

variable {config : Config}

/-- In a region with room for the memories, only the numbers of the harts can
be what is wrong with a cluster. -/
theorem ClusterLayout.exists_plan_eq_ok (hcheck : config.check = .ok ())
    {region : Window} (hroom : config.cluster.total ≤ region.size)
    {id firstHart : Nat} (hharts : firstHart + config.coreCount id ≤ maxWord) :
    ∃ layout, plan config id region firstHart = .ok layout := by
  obtain ⟨-, -, hsizes, hcores⟩ := Config.of_check hcheck
  obtain ⟨htcdm, hperiph, hzeroMem⟩ := ClusterSizes.check_eq_ok_iff.1 hsizes
  exact exists_plan_of_fits ⟨hcores id, htcdm, hperiph, hzeroMem,
    hroom, hharts⟩

theorem ClusterLayout.plan_eq_hartOverflow (hcheck : config.check = .ok ())
    {region : Window} (hroom : config.cluster.total ≤ region.size)
    {id firstHart : Nat} (hharts : maxWord < firstHart + config.coreCount id) :
    plan config id region firstHart = .error (.hartOverflow id) := by
  obtain ⟨-, -, -, hcores⟩ := Config.of_check hcheck
  have hfits := region.fits
  have hsome : config.coreCount id ≠ 0 := Nat.ne_of_gt (hcores id)
  have hfit := (ClusterSizes.fitInto_eq_ok_iff (by omega)).2 hroom
  simp [plan, hsome, hfit, hharts]

end

namespace ChipLayout

section

variable {config : Config} {span : Window} {stride : Nat}

/-- The region of a cluster that the row has room for. -/
theorem exists_carve_eq_ok (hpos : 0 < stride)
    (hspan : span.size = config.clusterCount.toNat * stride) {id : Nat}
    (hid : id < config.clusterCount.toNat) :
    ∃ region, span.carve (id * stride) stride = .ok region
      ∧ region.size = stride := by
  have hend : (id + 1) * stride ≤ config.clusterCount.toNat * stride :=
    Nat.mul_le_mul_right _ hid
  rw [Nat.succ_mul, ← hspan] at hend
  obtain ⟨region, hregion⟩ := Window.carve_of_le hpos hend
  exact ⟨region, hregion, (Window.of_carve hregion).2.1⟩

variable (hcheck : config.check = .ok ())
  (hroom : config.cluster.total ≤ stride)
  (hspan : span.size = config.clusterCount.toNat * stride)
include hcheck hroom hspan

/-- The next cluster of the row is laid out if its harts are words. -/
theorem planClusters_succ {id : Nat} (hid : id < config.clusterCount.toNat)
    (hharts : config.coresBefore (id + 1) ≤ maxWord) (count : Nat) :
    ∃ cluster,
      planClusters config span stride id (config.coresBefore id) (count + 1) =
        (planClusters config span stride (id + 1) (config.coresBefore (id + 1))
          count).map (cluster :: ·) := by
  have hpos : 0 < stride := Nat.lt_of_lt_of_le (config.total_pos hcheck) hroom
  obtain ⟨region, hregion, hsize⟩ := exists_carve_eq_ok hpos hspan hid
  rw [Config.coresBefore_succ] at hharts
  have hfits : config.cluster.total ≤ region.size := hsize ▸ hroom
  obtain ⟨cluster, hcluster⟩ :=
    ClusterLayout.exists_plan_eq_ok hcheck hfits hharts
  obtain ⟨-, -, hcores, hfirst, -⟩ := ClusterLayout.of_plan hcluster
  have hend : cluster.endHart = config.coresBefore (id + 1) := by
    rw [ClusterLayout.endHart, hcores, hfirst, Config.coresBefore_succ]
  refine ⟨cluster, ?_⟩
  rw [planClusters, hregion, ok_bind, hcluster, ok_bind, hend]
  cases planClusters config span stride (id + 1) (config.coresBefore (id + 1))
    count <;> rfl

/-- Otherwise the row ends there. -/
theorem planClusters_eq_hartOverflow {id : Nat}
    (hid : id < config.clusterCount.toNat)
    (hharts : maxWord < config.coresBefore (id + 1)) (count : Nat) :
    planClusters config span stride id (config.coresBefore id) (count + 1) =
      .error (.hartOverflow id) := by
  have hpos : 0 < stride := Nat.lt_of_lt_of_le (config.total_pos hcheck) hroom
  obtain ⟨region, hregion, hsize⟩ := exists_carve_eq_ok hpos hspan hid
  rw [Config.coresBefore_succ] at hharts
  rw [planClusters, hregion, ok_bind,
    ClusterLayout.plan_eq_hartOverflow hcheck (hsize ▸ hroom) hharts,
      error_bind]

/-- Clusters whose harts are all words are laid out. -/
theorem exists_planClusters_eq_ok {id count : Nat}
    (hcount : id + count ≤ config.clusterCount.toNat)
    (hharts : config.coresBefore (id + count) ≤ maxWord) :
    ∃ clusters, planClusters config span stride id
      (config.coresBefore id) count =
      .ok clusters := by
  induction count generalizing id with
  | zero => exact ⟨[], rfl⟩
  | succ count ih =>
    have hnext : config.coresBefore (id + 1) ≤ maxWord :=
      Nat.le_trans (config.coresBefore_mono (by omega)) hharts
    obtain ⟨cluster, heq⟩ := planClusters_succ hcheck hroom hspan (by omega)
      hnext count
    rw [← Nat.add_assoc, Nat.add_right_comm] at hcount hharts
    obtain ⟨rest, hrest⟩ := ih hcount hharts
    rw [heq, hrest]
    exact ⟨cluster :: rest, rfl⟩

/-- Where the harts are not all words, the row ends at the first cluster where
they are not. -/
theorem exists_planClusters_eq_hartOverflow {id count : Nat}
    (hcount : id + count ≤ config.clusterCount.toNat)
    (hbefore : config.coresBefore id ≤ maxWord)
    (hharts : maxWord < config.coresBefore (id + count)) :
    ∃ k < id + count,
      planClusters config span stride id (config.coresBefore id) count =
        .error (.hartOverflow k)
      ∧ config.coresBefore k ≤ maxWord
      ∧ maxWord < config.coresBefore (k + 1) := by
  induction count generalizing id with
  | zero => exact absurd hharts (Nat.not_lt.2 hbefore)
  | succ count ih =>
    by_cases hnext : config.coresBefore (id + 1) ≤ maxWord
    · obtain ⟨cluster, heq⟩ := planClusters_succ hcheck hroom hspan (by omega)
        hnext count
      rw [← Nat.add_assoc, Nat.add_right_comm] at hcount hharts
      obtain ⟨k, hk, hfault, hleast⟩ := ih hcount hnext hharts
      rw [heq, hfault]
      exact ⟨k, by omega, rfl, hleast⟩
    · rw [Nat.not_le] at hnext
      exact ⟨id, by omega,
        planClusters_eq_hartOverflow hcheck hroom hspan (by omega) hnext count,
        hbefore, hnext⟩

end

-- ============================================================= layout

variable {config : Config}

/-- What is left of a layout once its regions stand. -/
theorem Regions.plan_eq {bootrom hbm first span : Window}
    (h : Regions config bootrom hbm first span) :
    plan config = (do
      reserve config.clusterCount.toNat
      let clusters ← planClusters config span first.size 0 0
        config.clusterCount.toNat
      let entryOffset := config.interconnect.loaderEntryOffset.toNat
      if maxWord < bootrom.base + entryOffset then
        throw (.invalidWindow bootrom.base entryOffset)
      return {
        bootrom, hbm, clusters
        clusterRegion := first
        hbmModel := config.hbmModel
        interconnect := config.interconnect
        loaderEntry := bootrom.base + entryOffset }) := by
  obtain ⟨-, hsize⟩ := Window.of_make h.span_eq
  have hword : ¬ maxWord < config.clusterCount.toNat * first.size := by
    have hfits := span.fits
    omega
  simp only [plan, h.check, h.bootrom_eq, h.hbm_eq, h.first_eq, h.fit, hword,
    h.span_eq, h.bootrom_hbm, h.bootrom_span, h.hbm_span, ok_bind, ↓reduceIte]

/-- Where everything has a place, the regions stand. -/
theorem exists_regions_of_placeable (h : config.Placeable) :
    ∃ bootrom hbm first span : Window,
      Regions config bootrom hbm first span := by
  obtain ⟨hcount, hhbm, -, -⟩ := Config.of_check h.check
  have hstride := Nat.lt_of_lt_of_le (config.total_pos h.check) h.footprint
  have hclusters := h.clusters_end
  have hbootromRow := h.bootrom_clusters
  have hhbmRow := h.hbm_clusters
  rw [Config.spanSize] at hclusters hbootromRow hhbmRow
  -- the window of the first cluster is part of the row
  have hone := Nat.mul_le_mul_right config.memoryMap.cluster.size.toNat hcount
  rw [Nat.succ_mul, Nat.zero_mul, Nat.zero_add] at hone
  have hend : config.memoryMap.cluster.base.toNat
      + config.memoryMap.cluster.size.toNat ≤ maxWord :=
    Nat.le_trans (Nat.add_le_add_left hone _) hclusters
  have hrow := Nat.mul_pos hcount hstride
  have hword : config.memoryMap.cluster.size.toNat ≤ maxWord := by omega
  refine ⟨⟨_, _, h.bootrom_pos, h.bootrom_end⟩, ⟨_, _, hhbm, h.hbm_end⟩,
    ⟨_, _, hstride, hend⟩, ⟨_, _, hrow, hclusters⟩, ?_⟩
  exact {
    check := h.check
    bootrom_eq := Window.make_of_fits h.bootrom_pos h.bootrom_end
    hbm_eq := Window.make_of_fits hhbm h.hbm_end
    first_eq := Window.make_of_fits hstride hend
    fit := (ClusterSizes.fitInto_eq_ok_iff hword).2 h.footprint
    span_eq := Window.make_of_fits hrow hclusters
    bootrom_hbm := requireDisjoint_of_apart h.bootrom_hbm _ _
    bootrom_span := requireDisjoint_of_apart hbootromRow _ _
    hbm_span := requireDisjoint_of_apart hhbmRow _ _ }

/-- Where the regions stand, everything has a place. -/
theorem Regions.placeable {bootrom hbm first span : Window}
    (h : Regions config bootrom hbm first span) : config.Placeable := by
  obtain ⟨hbase, hsize⟩ := Window.of_make h.bootrom_eq
  obtain ⟨hbase', hsize'⟩ := Window.of_make h.hbm_eq
  obtain ⟨hbase₀, hsize₀⟩ := Window.of_make h.first_eq
  obtain ⟨hbase₁, hsize₁⟩ := Window.of_make h.span_eq
  have hfit := h.fit
  have hbootromHbm := requireDisjoint_eq_ok_iff.1 h.bootrom_hbm
  have hbootromSpan := requireDisjoint_eq_ok_iff.1 h.bootrom_span
  have hhbmSpan := requireDisjoint_eq_ok_iff.1 h.hbm_span
  have hword := first.fits
  rw [ClusterSizes.fitInto_eq_ok_iff (by omega), hsize₀] at hfit
  rw [hbase₀] at hbase₁
  rw [hsize₀] at hsize₁
  rw [hbase, hsize] at hbootromHbm hbootromSpan
  rw [hbase', hsize'] at hbootromHbm hhbmSpan
  rw [hbase₁, hsize₁] at hbootromSpan hhbmSpan
  constructor
  case check => exact h.check
  case bootrom_pos => exact hsize ▸ bootrom.size_pos
  case bootrom_end => exact hbase ▸ hsize ▸ bootrom.fits
  case hbm_end => exact hbase' ▸ hsize' ▸ hbm.fits
  case footprint => exact hfit
  case clusters_end =>
    rw [Config.spanSize, ← hbase₁, ← hsize₁]
    exact span.fits
  case bootrom_hbm => exact hbootromHbm
  case bootrom_clusters => exact hbootromSpan
  case hbm_clusters => exact hhbmSpan

/-- What has a layout has a place for everything. -/
theorem placeable_of_plan {chip : ChipLayout} (h : plan config = .ok chip) :
    config.Placeable := by
  obtain ⟨span, hregions, -⟩ := of_plan h
  exact hregions.placeable

-- ============================================================== room

/-- The program ends exactly where everything has a place and there are too
many clusters to reserve room for. -/
theorem plan_eq_capacityOverflow_iff :
    plan config = .error .capacityOverflow ↔
      config.Placeable ∧ ¬ config.Storable := by
  constructor
  · intro h
    obtain ⟨bootrom, hbm, first, span, hregions, hroom⟩ :=
      of_plan_eq_capacityOverflow h
    exact ⟨hregions.placeable, Nat.not_le.2 hroom⟩
  · rintro ⟨hplaceable, hroom⟩
    obtain ⟨bootrom, hbm, first, span, hregions⟩ :=
      exists_regions_of_placeable hplaceable
    have hreserve : reserve config.clusterCount.toNat =
        .error .capacityOverflow :=
      if_pos (Nat.not_le.1 hroom)
    rw [hregions.plan_eq, hreserve, error_bind]

/-- The machine gives no answer exactly there. -/
theorem run_plan_eq_none_iff :
    (OnWords.plan config).run = none ↔ config.Placeable
      ∧ ¬ config.Storable := by
  rw [OnWords.run_plan, ← plan_eq_capacityOverflow_iff]
  constructor
  · intro h
    by_contra hanswer
    rw [OnWords.answered_of_isAnswer hanswer] at h
    cases h
  · intro h
    rw [h]
    rfl

-- ========================================================= acceptance

/-- Where the harts are not all words, the layout ends at the first cluster
where they are not. -/
theorem exists_plan_eq_hartOverflow (h : config.Placeable)
    (hroom : config.Storable)
    (hharts : maxWord < config.coresBefore config.clusterCount.toNat) :
    ∃ k < config.clusterCount.toNat, plan config = .error (.hartOverflow k)
      ∧ maxWord < config.coresBefore (k + 1)
      ∧ ∀ j, maxWord < config.coresBefore (j + 1) → k ≤ j := by
  obtain ⟨bootrom, hbm, first, span, hregions⟩ := exists_regions_of_placeable h
  obtain ⟨-, hfirst⟩ := Window.of_make hregions.first_eq
  obtain ⟨-, hspan⟩ := Window.of_make hregions.span_eq
  rw [← Nat.zero_add config.clusterCount.toNat] at hharts
  obtain ⟨k, hk, hfault, hbefore, hbeyond⟩ :=
    exists_planClusters_eq_hartOverflow h.check (hfirst ▸ h.footprint) hspan
      (Nat.le_of_eq (Nat.zero_add _)) (Nat.zero_le _) hharts
  rw [Nat.zero_add] at hk
  rw [Config.coresBefore_zero] at hfault
  refine ⟨k, hk, ?_, hbeyond, fun j hj => ?_⟩
  · rw [hregions.plan_eq, reserve_eq_ok_iff.2 hroom, ok_bind, hfault,
      error_bind]
  · -- no cluster before it comes to more harts than it starts with
    by_contra hlt
    have hle : config.coresBefore (j + 1) ≤ config.coresBefore k :=
      config.coresBefore_mono (Nat.not_le.1 hlt)
    exact absurd (Nat.le_trans hle hbefore) (Nat.not_le.2 hj)

/-- What has a place for everything, room, hart numbers and an entry has a
layout. -/
theorem exists_plan_eq_ok (h : config.Placeable) (hroom : config.Storable)
    (hharts : config.coresBefore config.clusterCount.toNat ≤ maxWord)
    (hentry : config.memoryMap.bootrom.base.toNat
      + config.interconnect.loaderEntryOffset.toNat ≤ maxWord) :
    ∃ chip, plan config = .ok chip := by
  obtain ⟨bootrom, hbm, first, span, hregions⟩ := exists_regions_of_placeable h
  obtain ⟨hbase, -⟩ := Window.of_make hregions.bootrom_eq
  obtain ⟨-, hfirst⟩ := Window.of_make hregions.first_eq
  obtain ⟨-, hspan⟩ := Window.of_make hregions.span_eq
  rw [← Nat.zero_add config.clusterCount.toNat] at hharts
  obtain ⟨clusters, hclusters⟩ := exists_planClusters_eq_ok h.check
    (hfirst ▸ h.footprint) hspan (Nat.le_of_eq (Nat.zero_add _)) hharts
  rw [Config.coresBefore_zero] at hclusters
  rw [← hbase, ← Nat.not_lt] at hentry
  simp only [hregions.plan_eq, reserve_eq_ok_iff.2 hroom, hclusters, ok_bind,
    hentry, ↓reduceIte]
  exact ⟨_, rfl⟩

/-- Exactly the configurations that satisfy all conditions have a layout. -/
theorem exists_plan_eq_ok_iff :
    (∃ chip, plan config = .ok chip) ↔
      config.Placeable ∧ config.Storable
        ∧ config.coresBefore config.clusterCount.toNat ≤ maxWord
        ∧ config.memoryMap.bootrom.base.toNat
          + config.interconnect.loaderEntryOffset.toNat ≤ maxWord := by
  constructor
  · rintro ⟨chip, h⟩
    obtain ⟨span, hregions, hroom, -, hentry⟩ := of_plan h
    rw [(Window.of_make hregions.bootrom_eq).1] at hentry
    have hroom : config.Storable := reserve_eq_ok_iff.1 hroom
    refine ⟨hregions.placeable, hroom, ?_, hentry⟩
    by_contra hharts
    obtain ⟨k, -, hfault, -⟩ :=
      exists_plan_eq_hartOverflow hregions.placeable hroom
        (Nat.not_le.1 hharts)
    rw [hfault] at h
    cases h
  · rintro ⟨hplaceable, hroom, hharts, hentry⟩
    exact exists_plan_eq_ok hplaceable hroom hharts hentry

-- ============================================================ promise

/-- What is promised of the layout of a configuration: the machine comes to
an answer, and exact arithmetic on addresses and harts alone decides which. -/
structure Promised (config : Config) : Prop where
  answer : ∃ outcome, (OnWords.plan config).run = some outcome
  accepts : (∃ chip, (OnWords.plan config).run = some (.ok chip)) ↔
    config.Placeable
      ∧ config.coresBefore config.clusterCount.toNat ≤ maxWord
      ∧ config.memoryMap.bootrom.base.toNat
        + config.interconnect.loaderEntryOffset.toNat ≤ maxWord
  overflow : config.Placeable →
    maxWord < config.coresBefore config.clusterCount.toNat →
    ∃ k < config.clusterCount.toNat,
      (OnWords.plan config).run = some (.error (.hartOverflow k))
      ∧ maxWord < config.coresBefore (k + 1)
      ∧ ∀ j, maxWord < config.coresBefore (j + 1) → k ≤ j

/-- No promise is kept where the machine gives no answer. -/
theorem not_promised_of_not_storable (h : config.Placeable)
    (hroom : ¬ config.Storable) : ¬ Promised config := by
  rintro ⟨⟨outcome, hanswer⟩, -, -⟩
  rw [run_plan_eq_none_iff.2 ⟨h, hroom⟩] at hanswer
  cases hanswer

/-- Everywhere else it is. -/
theorem promised_of_storable (hroom : config.Placeable → config.Storable) :
    Promised config := by
  have hlayout : (∃ chip, (OnWords.plan config).run = some (.ok chip)) ↔
      ∃ chip, plan config = .ok chip := by
    simp only [OnWords.run_plan, OnWords.answered_eq_some_iff (.ok _)]
  constructor
  case answer =>
    apply Option.ne_none_iff_exists'.1
    intro hnone
    obtain ⟨hplaceable, hnot⟩ := run_plan_eq_none_iff.1 hnone
    exact hnot (hroom hplaceable)
  case accepts =>
    rw [hlayout, exists_plan_eq_ok_iff]
    constructor
    · rintro ⟨hplaceable, -, hwords⟩
      exact ⟨hplaceable, hwords⟩
    · rintro ⟨hplaceable, hwords⟩
      exact ⟨hplaceable, hroom hplaceable, hwords⟩
  case overflow =>
    intro hplaceable hharts
    obtain ⟨k, hk, hfault, hleast⟩ :=
      exists_plan_eq_hartOverflow hplaceable (hroom hplaceable) hharts
    refine ⟨k, hk, ?_, hleast⟩
    rw [OnWords.run_plan, hfault]
    rfl

/-- Exactly the configurations that satisfy the conditions have a layout;
where the harts are the first thing that does not fit, the fault names the
first cluster whose harts are too many; the machine comes to the same, and
ends without an answer exactly where everything has a place but there is no
room for the clusters. So what is promised is kept exactly where the first
of the two implies the second. -/
theorem plan_accepts_iff (config : Config) :
    ((∃ chip, plan config = .ok chip) ↔
      config.Placeable ∧ config.Storable
        ∧ config.coresBefore config.clusterCount.toNat ≤ maxWord
        ∧ config.memoryMap.bootrom.base.toNat
          + config.interconnect.loaderEntryOffset.toNat ≤ maxWord)
    ∧ (config.Placeable → config.Storable →
        maxWord < config.coresBefore config.clusterCount.toNat →
        ∃ k < config.clusterCount.toNat, plan config = .error (.hartOverflow k)
          ∧ maxWord < config.coresBefore (k + 1)
          ∧ ∀ j, maxWord < config.coresBefore (j + 1) → k ≤ j)
    ∧ (OnWords.plan config).run = OnWords.answered (plan config)
    ∧ ((OnWords.plan config).run = none ↔
        config.Placeable ∧ ¬ config.Storable)
    ∧ (Promised config ↔ (config.Placeable → config.Storable)) := by
  refine ⟨exists_plan_eq_ok_iff, exists_plan_eq_hartOverflow,
    OnWords.run_plan config, run_plan_eq_none_iff, ?_, promised_of_storable⟩
  intro h hplaceable
  by_contra hroom
  exact not_promised_of_not_storable hplaceable hroom h

/-- Two clusters of the reference board that have as many cores as there are
words. -/
def crowdedConfig : Config :=
  { clusterCount := 2, coresPerCluster := 0xffffffffffffffff }

theorem crowdedConfig_placeable : crowdedConfig.Placeable := by
  constructor
  case check => rfl
  case bootrom_hbm | bootrom_clusters | hbm_clusters =>
    intro addr
    simp [crowdedConfig, Config.spanSize]
    omega
  all_goals decide

/-- There is room for two clusters. The first of them has hart numbers for
its cores, the second has none. -/
theorem crowdedConfig_overflows :
    crowdedConfig.Placeable ∧ crowdedConfig.Storable
      ∧ maxWord < crowdedConfig.coresBefore 2
      ∧ plan crowdedConfig = .error (.hartOverflow 1)
      ∧ Promised crowdedConfig := by
  have hroom : crowdedConfig.Storable := by decide
  have hharts : maxWord < crowdedConfig.coresBefore 2 := by decide
  obtain ⟨-, hoverflow, -, -, hpromised⟩ := plan_accepts_iff crowdedConfig
  obtain ⟨k, hk, hfault, hbeyond, -⟩ :=
    hoverflow crowdedConfig_placeable hroom hharts
  have hsecond : k = 1 := by
    have hfirst : ¬ maxWord < crowdedConfig.coresBefore 1 := by decide
    have hlt : k < 2 := hk
    rcases k with _ | _ | k
    · exact absurd hbeyond hfirst
    · rfl
    · omega
  exact ⟨crowdedConfig_placeable, hroom, hharts, hsecond ▸ hfault,
    hpromised.2 fun _ => hroom⟩

/-- The reference board with the smallest memories, four addresses for each
cluster, and more clusters than there can be room for. -/
def vastConfig : Config where
  clusterCount := 0x400000000000000
  memoryMap := { cluster := ⟨0x100000000, 4⟩ }
  cluster := ⟨1, 1, 1⟩

/-- The same with as many cores in each cluster as there are words. -/
def vastCrowdedConfig : Config :=
  { vastConfig with coresPerCluster := 0xffffffffffffffff }

theorem vastConfig_placeable : vastConfig.Placeable := by
  constructor
  case check => rfl
  case bootrom_hbm | bootrom_clusters | hbm_clusters =>
    intro addr
    simp [vastConfig, Config.spanSize]
    omega
  all_goals decide

/-- The number of cores decides nothing about the regions. -/
theorem vastCrowdedConfig_placeable : vastCrowdedConfig.Placeable :=
  { vastConfig_placeable with check := rfl }

/-- With nine cores in each cluster all harts are words, and there should be a
layout; with as many cores as there are words, the second cluster should be
named as the first without harts. Neither configuration gets an answer. -/
theorem vastConfig_not_promised :
    vastConfig.Placeable
      ∧ vastConfig.coresBefore vastConfig.clusterCount.toNat ≤ maxWord
      ∧ vastConfig.memoryMap.bootrom.base.toNat
        + vastConfig.interconnect.loaderEntryOffset.toNat ≤ maxWord
      ∧ (OnWords.plan vastConfig).run = none ∧ ¬ Promised vastConfig
      ∧ vastCrowdedConfig.Placeable
      ∧ vastCrowdedConfig.coresBefore 1 ≤ maxWord
      ∧ maxWord < vastCrowdedConfig.coresBefore 2
      ∧ (OnWords.plan vastCrowdedConfig).run = none
      ∧ ¬ Promised vastCrowdedConfig := by
  have hplaceable := vastConfig_placeable
  have hcrowded := vastCrowdedConfig_placeable
  have hroom : ¬ vastConfig.Storable := by decide
  have hcrowdedRoom : ¬ vastCrowdedConfig.Storable := by decide
  have hharts : vastConfig.coresBefore vastConfig.clusterCount.toNat ≤
      maxWord := by
    rw [Config.coresBefore_eq_mul rfl]
    decide
  exact ⟨hplaceable, hharts, by decide,
    run_plan_eq_none_iff.2 ⟨hplaceable, hroom⟩,
    not_promised_of_not_storable hplaceable hroom, hcrowded, by decide,
    by decide, run_plan_eq_none_iff.2 ⟨hcrowded, hcrowdedRoom⟩,
    not_promised_of_not_storable hcrowded hcrowdedRoom⟩

end ChipLayout

end ChipFabric
