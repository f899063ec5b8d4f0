/-
Where the cores start. The entry is counted from the base of the boot ROM by
an offset that the configuration is free to choose: the layout only makes
sure that it is an address. So it lies in the boot ROM exactly if the offset
is less than the ROM's size (`entry_of_plan`). An offset beyond that is laid
out and built all the same, and what the loader finds at the entry is then
whatever else has that address, or nothing (`pastRomConfig_misses_rom`).
-/
import ChipFabric.Proofs.Topology.Masters

namespace ChipFabric.Topology

variable {chip : ChipLayout} {t : Topology} {addr : Nat}

-- ============================================================ the ROM

/-- No memory of a cluster has the path of the boot ROM. -/
theorem rom_ne_place (i : Nat) (name : String) :
    "board/chip/soc/rom" ≠ clusterPath i ++ "/" ++ name := by
  intro heq
  have hnot : ¬ Below (clusterPath i) "board/chip/soc/rom" :=
    not_below_cluster (by decide) i
  apply hnot
  rw [heq]
  exact Below.child _ name

theorem rom_ne_external (chip : ChipLayout) :
    "board/chip/soc/rom" ≠ externalPath chip := by
  unfold externalPath
  cases chip.hbmModel <;> decide

/-- Only addresses in the window of the boot ROM are answered by it. -/
theorem NarrowMap.mem_bootrom (h : NarrowMap chip t addr) {route : Route}
    (hroute : t.resolveNarrow addr = .ok route)
    (hpath : route.targetPath = "board/chip/soc/rom") :
    addr ∈ chip.bootrom := by
  by_contra hrom
  by_cases hhbm : addr ∈ chip.hbm
  · obtain ⟨target, -, -, hanswer⟩ := h.hbm hhbm
    rw [hanswer] at hroute
    cases hroute
    exact rom_ne_external chip hpath.symm
  by_cases hcluster : ∃ cluster ∈ chip.clusters, addr ∈ cluster.region
  · obtain ⟨cluster, hmem, hin⟩ := hcluster
    by_cases hplace : ∃ place ∈ StandardCluster.places cluster,
        addr - cluster.region.base ∈ place.window
    · obtain ⟨place, hplace, hwindow⟩ := hplace
      obtain ⟨i, hi⟩ := List.mem_iff_getElem?.1 hmem
      obtain ⟨k, hk⟩ := List.mem_iff_getElem?.1 hplace
      obtain ⟨target, -, -, hanswer⟩ :=
        h.memory i cluster hi hin k place hk hwindow
      rw [hanswer] at hroute
      cases hroute
      exact rom_ne_place i place.name hpath.symm
    · have hgap := h.gap cluster hmem hin fun place hmem hwindow =>
        hplace ⟨place, hmem, hwindow⟩
      rw [hgap] at hroute
      cases hroute
  · have hnone := h.unmapped hrom hhbm fun cluster hmem hin =>
      hcluster ⟨cluster, hmem, hin⟩
    rw [hnone] at hroute
    cases hroute

-- ======================================================== statements

/-- Whatever configuration the layout is of and whatever the loader loads,
the chip is built; a write of the loader to the entry is answered by the boot
ROM, at the configured offset, if the offset is less than the ROM's size, and
never by the boot ROM otherwise. -/
theorem entry_of_plan {config : Config} {chip : ChipLayout}
    (h : ChipLayout.plan config = .ok chip) (binary : Option String) :
    ∃ t, build chip StandardCluster.build binary = .ok t ∧ t.layout = chip
      ∧ (config.interconnect.loaderEntryOffset.toNat < chip.bootrom.size →
        t.Answers (t.resolveLoad chip.loaderEntry) (.bootRom chip.bootrom.size)
          "board/chip/soc/rom" config.interconnect.loaderEntryOffset.toNat {}
          [⟨"board/chip/soc/narrow_axi", romMapping chip, chip.loaderEntry,
            config.interconnect.loaderEntryOffset.toNat⟩])
      ∧ (chip.bootrom.size ≤ config.interconnect.loaderEntryOffset.toNat →
        ∀ route, t.resolveLoad chip.loaderEntry = .ok route →
          route.targetPath ≠ "board/chip/soc/rom") := by
  have hentry := ChipLayout.loaderEntry_of_plan h
  have hlayout := ChipLayout.plan_sound h
  obtain ⟨graph, hg, hs, -, hbuild⟩ := build_of_sound hlayout binary
  have hnarrow := narrowMap_of_sound hg hs hlayout chip.loaderEntry
  have hload := (masterMap_of_sound hs hg hlayout).loader chip.loaderEntry
  refine ⟨_, hbuild,
    rfl, fun hoffset => ?_, fun hoffset route hroute hpath => ?_⟩
  · have hrom := hnarrow.bootrom (Window.mem_def.2 (by omega))
    rw [← hload] at hrom
    have hsub : chip.loaderEntry - chip.bootrom.base =
        config.interconnect.loaderEntryOffset.toNat := by omega
    rw [hsub] at hrom
    exact hrom
  · rw [hload] at hroute
    have hmem := Window.mem_def.1 (hnarrow.mem_bootrom hroute hpath)
    omega

/-- The cores start at the last byte of the boot ROM. -/
def lastByteConfig : Config where
  interconnect := { loaderEntryOffset := 0xffff }

/-- There the loader's write is answered by the boot ROM. -/
theorem lastByteConfig_enters_rom :
    ∃ chip, ChipLayout.plan lastByteConfig = .ok chip ∧
    ∃ t, build chip StandardCluster.build none = .ok t
      ∧ ∃ route, t.resolveLoad chip.loaderEntry = .ok route
        ∧ route.targetPath = "board/chip/soc/rom"
        ∧ route.localAddr = 0xffff := by
  obtain ⟨chip, hplan, hsize⟩ : ∃ chip,
    ChipLayout.plan lastByteConfig = .ok chip
      ∧ chip.bootrom.size = 0x10000 := ⟨_, rfl, rfl⟩
  obtain ⟨t, hbuild, -, hinside, -⟩ := entry_of_plan hplan none
  have hoffset : lastByteConfig.interconnect.loaderEntryOffset.toNat <
      chip.bootrom.size := by
    rw [hsize]
    decide
  obtain ⟨target, -, -, hroute⟩ := hinside hoffset
  exact ⟨chip, hplan, t, hbuild, _, hroute, rfl, rfl⟩

/-- The cores start right behind the boot ROM. -/
def pastRomConfig : Config where
  interconnect := { loaderEntryOffset := 0x10000 }

/-- There is nothing: the layout is accepted and the chip is built, but the
loader's write to the entry is refused. -/
theorem pastRomConfig_misses_rom :
    ∃ chip, ChipLayout.plan pastRomConfig = .ok chip ∧
    ∃ t, build chip StandardCluster.build none = .ok t
      ∧ t.resolveLoad chip.loaderEntry = .error
        (.unmappedAddress "narrow_axi" 0x11000) := by
  obtain ⟨chip, hplan, hentry, hrom, hhbm, hclusters⟩ : ∃ chip,
      ChipLayout.plan pastRomConfig = .ok chip ∧ chip.loaderEntry = 0x11000
        ∧ 0x11000 ∉ chip.bootrom ∧ 0x11000 ∉ chip.hbm
        ∧ ∀ cluster ∈ chip.clusters, 0x11000 ∉ cluster.region :=
    ⟨_, rfl, rfl, by decide, by decide, by decide⟩
  have hlayout := ChipLayout.plan_sound hplan
  obtain ⟨graph, hg, hs, -, hbuild⟩ := build_of_sound hlayout none
  have hload := (masterMap_of_sound hs hg hlayout).loader 0x11000
  have hnarrow := (narrowMap_of_sound hg hs hlayout 0x11000).unmapped hrom
    hhbm hclusters
  refine ⟨chip, hplan, _, hbuild, ?_⟩
  rw [hentry]
  exact hload.trans hnarrow

end ChipFabric.Topology
