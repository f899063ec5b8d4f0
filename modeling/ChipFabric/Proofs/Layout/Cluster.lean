/-
The layout of one cluster by itself, whatever the configuration: it is laid
out just if it has cores, three memories with room for them in the window,
and words for its harts (`Fits`), and it then is what the configuration asks
for (`AsAsked`). The conditions are those of exact arithmetic; the tests of
the layout come to them on words.
-/
import ChipFabric.Proofs.Layout.Machine

namespace ChipFabric

/-- The number of addresses that the memories of a cluster take. -/
def ClusterSizes.total (sizes : ClusterSizes) : Nat :=
  sizes.tcdm.toNat + sizes.periph.toNat + sizes.zeroMem.toNat

/-- Into a stride that is a word the memories fit exactly if they are no more
than it. -/
theorem ClusterSizes.fitInto_eq_ok_iff {sizes : ClusterSizes} {stride : Nat}
    (hstride : stride ≤ maxWord) : sizes.fitInto stride = .ok () ↔
      sizes.total ≤ stride := by
  have htotal : sizes.tcdm.toNat + sizes.periph.toNat + sizes.zeroMem.toNat =
    sizes.total := rfl
  simp only [fitInto, footprint, htotal]
  by_cases hword : sizes.total ≤ maxWord
  · simp [hword, pure, Except.pure]
  · have hnot : ¬ sizes.total ≤ stride :=
      fun hle => hword (Nat.le_trans hle hstride)
    simp [hword, hnot]

-- ========================================================= conditions

namespace ClusterLayout

/-- What is asked of a cluster to be laid out in a window, with its cores
numbered from `firstHart`. -/
structure Fits (config : Config) (id : Nat) (region : Window)
    (firstHart : Nat) : Prop where
  cores : 0 < config.coreCount id
  tcdm : 0 < config.cluster.tcdm.toNat
  periph : 0 < config.cluster.periph.toNat
  zeroMem : 0 < config.cluster.zeroMem.toNat
  room : config.cluster.total ≤ region.size
  harts : firstHart + config.coreCount id ≤ maxWord

variable {config : Config} {id firstHart : Nat} {region : Window}
  {layout : ClusterLayout}

theorem exists_plan_of_fits (h : Fits config id region firstHart) :
    ∃ layout, plan config id region firstHart = .ok layout := by
  have hfits := region.fits
  have hroom := h.room
  have hsome : config.coreCount id ≠ 0 := Nat.ne_of_gt h.cores
  have hfit := (ClusterSizes.fitInto_eq_ok_iff (by omega)).2 hroom
  rw [ClusterSizes.total] at hroom
  have hword : ¬ maxWord < firstHart + config.coreCount id :=
    Nat.not_lt.2 h.harts
  simp only [plan, hsome, ↓reduceIte, hfit, ok_bind, hword]
  rw [Window.make_of_fits h.tcdm (by omega), ok_bind]
  simp only [Window.stop, Nat.zero_add]
  rw [Window.make_of_fits h.periph (by omega), ok_bind,
    Window.make_of_fits h.zeroMem (by simp only; omega)]
  exact ⟨_, rfl⟩

/-- What is laid out fits, and its memories have the sizes that were
configured. -/
theorem fits_of_plan (h : plan config id region firstHart = .ok layout) :
    Fits config id region firstHart
      ∧ layout.tcdm.size = config.cluster.tcdm.toNat ∧
      layout.periph.size = config.cluster.periph.toNat ∧
      layout.zeroMem.size = config.cluster.zeroMem.toNat := by
  simp only [plan, throw_bind, ite_error_eq_ok_iff, bind_eq_ok_iff] at h
  obtain ⟨hcores, _, hfit, hharts, tcdm, htcdm, periph, hperiph, zeroMem,
    hzeroMem, h⟩ := h
  cases h
  have hword : region.size ≤ maxWord :=
    Nat.le_trans (Nat.le_add_left _ _) region.fits
  obtain ⟨-, htcdm⟩ := Window.of_make htcdm
  obtain ⟨-, hperiph⟩ := Window.of_make hperiph
  obtain ⟨-, hzeroMem⟩ := Window.of_make hzeroMem
  refine ⟨?_, htcdm, hperiph, hzeroMem⟩
  exact {
    cores := Nat.pos_of_ne_zero hcores
    tcdm := htcdm ▸ tcdm.size_pos
    periph := hperiph ▸ periph.size_pos
    zeroMem := hzeroMem ▸ zeroMem.size_pos
    room := (ClusterSizes.fitInto_eq_ok_iff hword).1 hfit
    harts := Nat.not_lt.1 hharts }

/-- The memories of a cluster have the sizes that were configured, and end
within its window. -/
theorem memories_of_plan (h : plan config id region firstHart = .ok layout) :
    layout.zeroMem.stop = config.cluster.total
      ∧ config.cluster.total ≤ region.size := by
  obtain ⟨-, -, -, -, hstacked⟩ := of_plan h
  obtain ⟨hfits, htcdm, hperiph, hzeroMem⟩ := fits_of_plan h
  have hbase := hstacked.tcdm
  have hbase' := hstacked.periph
  have hbase'' := hstacked.zeroMem
  refine ⟨?_, hfits.room⟩
  simp only [Window.stop] at hbase' hbase'' ⊢
  rw [ClusterSizes.total]
  omega

-- =========================================================== contents

/-- The memories of the cluster, from zero on. -/
def memories (layout : ClusterLayout) : List Window :=
  [layout.tcdm, layout.periph, layout.zeroMem]

/-- The cluster is laid out as the configuration asks for. -/
structure AsAsked (config : Config) (id : Nat) (region : Window)
    (firstHart : Nat)
    (layout : ClusterLayout) : Prop where
  id_eq : layout.id = id
  region_eq : layout.region = region
  coreCount_eq : layout.coreCount = config.coreCount id
  tcdm : layout.tcdm.base = 0 ∧ layout.tcdm.stop = config.cluster.tcdm.toNat
  periph : layout.periph.base = config.cluster.tcdm.toNat ∧
    layout.periph.stop =
      config.cluster.tcdm.toNat + config.cluster.periph.toNat
  zeroMem : layout.zeroMem.base =
    config.cluster.tcdm.toNat + config.cluster.periph.toNat
    ∧ layout.zeroMem.stop = config.cluster.total
  /-- Each offset below the end of the memories lies in exactly one of them,
  and no other offset in any. -/
  covered : ∀ offset, layout.memories.countP (offset ∈ ·) =
    if offset < config.cluster.total then 1 else 0
  /-- What the cluster sees at an offset has an address in its window. -/
  addressed : ∀ offset < config.cluster.total, region.base + offset ∈ region
  /-- The cores are numbered from `firstHart` on, all by words. -/
  hart : ∀ core, layout.hart? core =
    if core < config.coreCount id then some (firstHart + core) else none
  hart_word : ∀ core < config.coreCount id, firstHart + core ≤ maxWord
  endHart_eq : layout.endHart = firstHart + config.coreCount id

theorem asAsked_of_plan (h : plan config id region firstHart = .ok layout) :
    AsAsked config id region firstHart layout := by
  obtain ⟨hid, hregion, hcores, hfirst, hstacked⟩ := of_plan h
  obtain ⟨hfits, htcdm, hperiph, hzeroMem⟩ := fits_of_plan h
  have hbase := hstacked.tcdm
  have hbase' := hstacked.periph
  have hbase'' := hstacked.zeroMem
  have hroom := hfits.room
  have hharts := hfits.harts
  simp only [Window.stop] at hbase' hbase''
  have htotal : config.cluster.total =
      config.cluster.tcdm.toNat + config.cluster.periph.toNat
        + config.cluster.zeroMem.toNat := rfl
  constructor
  case id_eq => exact hid
  case region_eq => exact hregion
  case coreCount_eq => exact hcores
  case tcdm => simp only [Window.stop]; omega
  case periph => simp only [Window.stop]; omega
  case zeroMem => simp only [Window.stop]; omega
  case covered =>
    intro offset
    simp only [memories, List.countP_cons, List.countP_nil, decide_eq_true_eq,
      Window.mem_def]
    split_ifs <;> omega
  case addressed =>
    intro offset hoffset
    rw [Window.mem_def]
    omega
  case hart =>
    intro core
    rw [hart?, hcores, hfirst]
  case hart_word =>
    intro core hcore
    omega
  case endHart_eq => rw [endHart, hcores, hfirst]

/-- A cluster is laid out just if it fits, and then as the configuration
asks for; no step on the way there leaves the words, whatever the numbers. -/
theorem plan_iff_fits (config : Config) (id : Nat) (region : Window)
    (firstHart : Nat) :
    ((∃ layout, plan config id region firstHart = .ok layout) ↔
      Fits config id region firstHart) ∧
    (∀ layout, plan config id region firstHart = .ok layout →
      AsAsked config id region firstHart layout) ∧
    (OnWords.planCluster config id region firstHart).run =
      some (plan config id region firstHart) := by
  refine ⟨⟨?_, exists_plan_of_fits⟩, fun layout h => asAsked_of_plan h, ?_⟩
  · rintro ⟨layout, h⟩
    exact (fits_of_plan h).1
  · rw [OnWords.planCluster_eq]
    rfl

/-- The last window of its size in the address space. -/
def lastRegion : Window := ⟨maxWord - 0x40000, 0x40000, by decide, by decide⟩

/-- A cluster that the list of core counts leaves out, in the last window,
with harts up to the last word. -/
theorem plan_iff_fits_last : ∃ layout,
    plan { clusterCount := 0, clusterCores := [2] } 5 lastRegion
      (maxWord - 9) = .ok layout ∧
    AsAsked { clusterCount := 0, clusterCores := [2] } 5 lastRegion
      (maxWord - 9) layout := by
  obtain ⟨hiff, hasAsked, -⟩ :=
    plan_iff_fits { clusterCount := 0, clusterCores := [2] } 5 lastRegion
      (maxWord - 9)
  obtain ⟨layout, hplan⟩ := hiff.2
    ⟨by decide, by decide, by decide, by decide, by decide, by decide⟩
  exact ⟨layout, hplan, hasAsked layout hplan⟩

end ClusterLayout

end ChipFabric
