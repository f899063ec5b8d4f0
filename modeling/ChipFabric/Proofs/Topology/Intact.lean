/-
What clusters cannot take away. Whoever builds the clusters of a chip has its
graph in hand while the chip is being built; `soc_intact_of_plan` says that if
the chip is built all the same, accesses to the boot ROM and the external
memory arrive there, the region of each cluster is mapped as it was laid out
and leads into that cluster or nowhere, and no cluster has other cores than it
was laid out with.

# Why

A graph only grows (`Session.Run.grows`), so what the chip has added stands,
and the windows that it mapped are taken. An operation that comes first makes
a later step of the chip fail, and one that comes after makes an exit
ambiguous, which validation finds.
-/
import ChipFabric.Proofs.Topology.Collaborator
import ChipFabric.Proofs.Topology.Routing

namespace ChipFabric.Topology

open Edit

variable {chip : ChipLayout} {cluster : ClusterBuilder}

-- ============================================================ whole

/-- What a chip that was built consists of. -/
structure Finished (chip : ChipLayout) (t : Topology) : Prop where
  narrow : t.narrow = ⟨3⟩
  wide : t.wide = ⟨4⟩
  valid : t.graph.validate = .ok ()
  standing : Standing chip t.graph
  attached : List.Forall₂ (Attached t.graph) chip.clusters t.clusters
  reached : ∃ memory input, Reached chip t.graph memory input

theorem finished_of_build (hchip : chip.Sound)
    (hcluster : Collaborates chip cluster) {binary : Option String}
    {t : Topology} (hbuild : build chip cluster binary = .ok t) :
    Finished chip t := by
  obtain ⟨bare, hplanes, hbare⟩ := addPlanes_stand hchip
  obtain ⟨final, hsteps⟩ : ∃ final, (steps chip cluster binary).on
      (Graph.new "board") = (.ok t, final) := ⟨_, Prod.ext hbuild rfl⟩
  obtain ⟨planes, bare', hplanes', hrest₁⟩ := on_bind_eq_ok_iff.1 hsteps
  obtain ⟨hok, rfl⟩ := Prod.mk.inj (hplanes'.symm.trans hplanes)
  obtain rfl := Except.ok.inj hok
  obtain ⟨built, g₁, hbuilt, hrest₂⟩ := on_bind_eq_ok_iff.1 hrest₁
  obtain ⟨⟨out, start⟩, g₂, hloader, hrest₃⟩ := on_bind_eq_ok_iff.1 hrest₂
  obtain ⟨_, g₃, hmemory, hrest₄⟩ := on_bind_eq_ok_iff.1 hrest₃
  obtain ⟨graph, g₄, hget, hrest₅⟩ := on_bind_eq_ok_iff.1 hrest₄
  obtain ⟨_, g₅, hvalid, hdone⟩ := on_bind_eq_ok_iff.1 hrest₅
  obtain ⟨rfl, rfl⟩ : graph = g₃ ∧ g₄ = g₃ := by simpa [eq_comm] using hget
  rw [on_liftExcept] at hvalid
  have hok := (Prod.mk.inj hvalid).1
  obtain rfl := Except.ok.inj (Prod.mk.inj hdone).1
  -- from the planes on the graph only grows
  obtain ⟨hgrows₁, hattached⟩ :=
    clusters_attached hbare hplanes hcluster (List.append_nil _).symm hbuilt
  have hfits := Attached.fetchEnable_fits hattached
  have hstand₁ := hbare.grows hgrows₁
  obtain ⟨hloaded, -⟩ :
    (addLoader planeHandles built (.loader binary chip.loaderEntry)).Ensures
    Router.Made g₁ fun _ _ => True := addLoader_ensures hstand₁ hfits _
  rw [hloader] at hloaded
  have hstand₂ := hstand₁.grows hloaded.grows
  obtain ⟨hadded, hreached⟩ : (addExternalMemory planeHandles chip).Ensures
    Router.Made g₂
    fun _ g' => ∃ memory input, Reached chip g' memory input :=
      addExternalMemory_ensures hstand₂
  rw [hmemory] at hadded hreached
  exact {
    narrow := rfl
    wide := rfl
    valid := hok
    standing := hstand₂.grows hadded.grows
    attached := hattached.imp fun _ _ h =>
      h.grows (hloaded.grows.trans hadded.grows)
    reached := hreached _ rfl }

-- ========================================================= routing

section

variable {t : Topology} (h : Finished chip t) {memory : ComponentId}
  {input : PortId} {issued hops addr : Nat}
include h

/-- The external memory is at the end of the one way out of the wide
router. -/
theorem Finished.reaches_memory (hmemory : Reached chip t.graph memory input) :
    t.graph.Reaches ⟨6⟩ input := by
  obtain ⟨-, -, hinput, hsoc, hchip⟩ := hmemory
  refine .onward (Graph.mem_targets_iff.2 h.standing.serves_hbm.bound)
    h.standing.socHbm.isForward ?_
  refine .onward (Graph.mem_targets_iff.2 hsoc) h.standing.chipHbm.isForward ?_
  exact .direct (Graph.mem_targets_iff.2 hchip) hinput.isForward

theorem Finished.routeWithin_memory
    (hmemory : Reached chip t.graph memory input) (haddr : addr ∈ chip.hbm) :
    t.graph.routeWithin issued (hops + 1) ⟨4⟩ addr = .ok {
      target := memory
      targetPath := externalPath chip
      localAddr := addr - chip.hbm.base
      hops :=
        [⟨"board/chip/soc/wide_axi", hbmMapping chip, addr,
          addr - chip.hbm.base⟩]
      attrs := { latency := some chip.interconnect.hbmLatency.toNat } } := by
  have hreaches := h.reaches_memory hmemory
  obtain ⟨hlook, hkind, hinput, -, -⟩ := hmemory
  have hpath := (t.graph.lookup?_eq_some_iff.1 hlook).2.1
  have hwide := (t.graph.lookup?_eq_some_iff.1 h.standing.wide).2.1
  obtain ⟨table, htable, hat⟩ :=
    h.standing.serves_hbm.maps.mappingAt? h.standing.wide_inStep haddr
  have hbeyond := h.standing.serves_hbm.beyond_eq h.valid hreaches
  rw [hinput.port_eq] at hbeyond
  rw [Graph.routeWithin_device htable hat hbeyond
    (Component.isTerminal_of_kind hkind rfl), hpath, Graph.hopOf, hwide]
  rfl

theorem Finished.routeWithin_rom (haddr : addr ∈ chip.bootrom) :
    t.graph.routeWithin issued (hops + 1) ⟨3⟩ addr = .ok {
      target := ⟨5⟩
      targetPath := "board/chip/soc/rom"
      localAddr := addr - chip.bootrom.base
      hops :=
        [⟨"board/chip/soc/narrow_axi", romMapping chip, addr,
          addr - chip.bootrom.base⟩]
      attrs := {} } := by
  have hpath := (t.graph.lookup?_eq_some_iff.1 h.standing.rom).2.1
  have hnarrow := (t.graph.lookup?_eq_some_iff.1 h.standing.narrow).2.1
  obtain ⟨table, htable, hat⟩ :=
    h.standing.serves_rom.maps.mappingAt? h.standing.narrow_inStep haddr
  have hbeyond := h.standing.serves_rom.beyond_eq h.valid
    (.direct (Graph.mem_targets_iff.2 h.standing.serves_rom.bound)
      h.standing.romIn.isForward)
  rw [h.standing.romIn.port_eq] at hbeyond
  rw [Graph.routeWithin_device htable hat hbeyond
    (Component.isTerminal_of_kind h.standing.rom_kind rfl), hpath,
      Graph.hopOf, hnarrow]
  rfl

/-- The hop from the narrow router to the wide one. -/
theorem Finished.routeWithin_pass (haddr : addr ∈ chip.hbm) :
    t.graph.routeWithin issued (hops + 1) ⟨3⟩ addr =
      (t.graph.routeWithin issued hops ⟨4⟩ addr).map fun onward =>
        { onward with
        hops := ⟨"board/chip/soc/narrow_axi", passMapping chip, addr, addr⟩
          :: onward.hops } := by
  have hnarrow := (t.graph.lookup?_eq_some_iff.1 h.standing.narrow).2.1
  obtain ⟨table, htable, hat⟩ :=
    h.standing.serves_pass.maps.mappingAt? h.standing.narrow_inStep haddr
  obtain ⟨_, _, hwide, -⟩ := h.standing.wide_inStep
  have hbeyond := h.standing.serves_pass.beyond_eq h.valid
    (.direct (Graph.mem_targets_iff.2 h.standing.serves_pass.bound)
      h.standing.wideIn.isForward)
  rw [h.standing.wideIn.port_eq] at hbeyond
  rw [Graph.routeWithin_router htable hat hbeyond
    (Component.isRouter_of_kind hwide), Graph.hopOf, hnarrow]
  rfl

/-- The region of a cluster is mapped as it was laid out, and leads to the one
input that its boundary leads to. -/
theorem Finished.region_leads {i : Nat} {layout : ClusterLayout}
    (hlayout : chip.clusters[i]? = some layout)
    (haddr : addr ∈ layout.region) :
    ∃ (ports : ClusterPorts) (table : Router) (port : RouterPort)
      (exit : PortId),
      t.clusters[i]? = some ports
      ∧ t.graph.router t.narrow = .ok table
      ∧ table.resolve addr = .ok ⟨⟨layout.region, port, true, {}⟩,
        addr - layout.region.base⟩
      ∧ (t.graph.component t.narrow).exit? port = some exit
      ∧ ∀ input, t.graph.Reaches ports.narrowInput.port input →
        t.graph.reachableInputs ports.narrowInput.port = .ok [input]
          ∧ t.graph.follow exit = .ok input := by
  obtain ⟨hlt, rfl⟩ := List.getElem?_eq_some_iff.1 hlayout
  have hlt' : i < t.clusters.length := h.attached.length_eq ▸ hlt
  have hattached : Attached t.graph chip.clusters[i] t.clusters[i] :=
    h.attached.get hlt hlt'
  obtain ⟨port, exit, hserves⟩ := hattached.serves
  obtain ⟨table, htable, hat⟩ :=
    hserves.maps.mappingAt? h.standing.narrow_inStep haddr
  refine ⟨t.clusters[i], table, port, exit, List.getElem?_eq_getElem hlt', ?_,
    ?_, ?_, ?_⟩
  · rw [h.narrow, Graph.router, htable]
  · rw [Router.resolve, hat]
    rfl
  · rw [h.narrow]
    exact hserves.leaves
  · intro input hreaches
    exact hserves.reachableInputs_eq h.valid
      (Graph.isForward_eq_true_iff.2 hattached.narrowInput.2) hreaches

theorem Finished.coreCounts :
    t.clusters.map (·.coreCount) = chip.clusters.map (·.coreCount) := by
  have hcounts : List.Forall₂ Eq (chip.clusters.map (·.coreCount))
      (t.clusters.map (·.coreCount)) :=
    List.forall₂_map_left_iff.2 (List.forall₂_map_right_iff.2
      (h.attached.imp fun _ _ hattached => hattached.coreCount.symm))
  rw [List.forall₂_eq_eq_eq] at hcounts
  exact hcounts.symm

end

-- ====================================================== statements

/-- Where an address goes that the layout gives to the boot ROM, to the
external memory or to a cluster. -/
structure Intact (chip : ChipLayout) (t : Topology) (addr : Nat) : Prop where
  bootrom : addr ∈ chip.bootrom →
    t.Answers (t.resolveNarrow addr) (.bootRom chip.bootrom.size)
      "board/chip/soc/rom" (addr - chip.bootrom.base) {}
      [⟨"board/chip/soc/narrow_axi", romMapping chip, addr,
        addr - chip.bootrom.base⟩]
  narrowHbm : addr ∈ chip.hbm →
    t.Answers (t.resolveNarrow addr) (.hbm chip.hbmModel chip.hbm.size)
      (externalPath chip) (addr - chip.hbm.base)
      { latency := some chip.interconnect.hbmLatency.toNat }
      [⟨"board/chip/soc/narrow_axi", passMapping chip, addr, addr⟩,
        ⟨"board/chip/soc/wide_axi", hbmMapping chip, addr,
          addr - chip.hbm.base⟩]
  wideHbm : addr ∈ chip.hbm →
    t.Answers (t.resolveWide addr) (.hbm chip.hbmModel chip.hbm.size)
      (externalPath chip) (addr - chip.hbm.base)
      { latency := some chip.interconnect.hbmLatency.toNat }
      [⟨"board/chip/soc/wide_axi", hbmMapping chip, addr,
        addr - chip.hbm.base⟩]
  /-- The narrow router forwards the offset in the region, and if the cluster's
  input leads anywhere, then to one input, which is where the access goes. -/
  region : ∀ (i : Nat) (layout : ClusterLayout), chip.clusters[i]? =
    some layout →
    addr ∈ layout.region →
    ∃ (ports : ClusterPorts) (table : Router) (port : RouterPort)
      (exit : PortId), t.clusters[i]? = some ports
      ∧ t.graph.router t.narrow = .ok table
      ∧ table.resolve addr =
        .ok ⟨⟨layout.region, port, true, {}⟩, addr - layout.region.base⟩
      ∧ (t.graph.component t.narrow).exit? port = some exit
      ∧ ∀ input, t.graph.Reaches ports.narrowInput.port input →
        t.graph.reachableInputs ports.narrowInput.port = .ok [input]
          ∧ t.graph.follow exit = .ok input

/-- Whatever its clusters are built by, a chip that was built sends the
addresses of its layout where the layout says, and its clusters have the
cores that they were laid out with. -/
theorem soc_intact_of_plan {config : Config} {chip : ChipLayout}
    (hplan : ChipLayout.plan config = .ok chip) {cluster : ClusterBuilder}
    (hcluster : Collaborates chip cluster) {binary : Option String}
    {t : Topology} (hbuild : build chip cluster binary = .ok t) :
    (∀ addr, Intact chip t addr)
      ∧ t.clusters.map (·.coreCount) = chip.clusters.map (·.coreCount) := by
  have h := finished_of_build (ChipLayout.plan_sound hplan) hcluster hbuild
  obtain ⟨memory, input, hmemory⟩ := h.reached
  have hnarrow : ∀ addr, t.resolveNarrow addr = t.graph.routeWithin addr
      (15 + 1) ⟨3⟩ addr :=
    fun addr => by rw [resolveNarrow, h.narrow]; rfl
  have hwide : ∀ addr, t.resolveWide addr = t.graph.routeWithin addr (15 + 1)
      ⟨4⟩ addr :=
    fun addr => by rw [resolveWide, h.wide]; rfl
  refine ⟨fun addr => ?_, h.coreCounts⟩
  constructor
  case bootrom =>
    intro haddr
    exact ⟨⟨5⟩, h.standing.rom, h.standing.rom_kind,
      (hnarrow addr).trans (h.routeWithin_rom haddr)⟩
  case narrowHbm =>
    intro haddr
    refine ⟨memory, hmemory.1, hmemory.2.1, (hnarrow addr).trans ?_⟩
    rw [h.routeWithin_pass haddr, h.routeWithin_memory hmemory haddr]
    rfl
  case wideHbm =>
    intro haddr
    exact ⟨memory, hmemory.1, hmemory.2.1,
      (hwide addr).trans (h.routeWithin_memory hmemory haddr)⟩
  case region => exact fun _ _ hlayout haddr => h.region_leads hlayout haddr

/-- The standard clusters, with one and two cores. -/
theorem pairConfig_intact : ∃ chip, ChipLayout.plan pairConfig = .ok chip
    ∧ Collaborates chip StandardCluster.build
    ∧ ∃ t, build chip StandardCluster.build none = .ok t
      ∧ (∀ addr, Intact chip t addr)
      ∧ t.clusters.map (·.coreCount) = [1, 2] := by
  obtain ⟨chip, hplan, hcores⟩ : ∃ chip, ChipLayout.plan pairConfig = .ok chip
      ∧ chip.clusters.map (·.coreCount) = [1, 2] := ⟨_, rfl, rfl⟩
  have hchip := ChipLayout.plan_sound hplan
  have hcluster : Collaborates chip StandardCluster.build :=
    collaborates_of_operatesOn hchip
    fun parent layout _ hparent => StandardCluster.operatesOn parent
      layout hparent
  obtain ⟨graph, -, -, -, hbuild⟩ := build_of_sound hchip none
  obtain ⟨hintact, hcounts⟩ := soc_intact_of_plan hplan hcluster hbuild
  exact ⟨chip, hplan, hcluster, _, hbuild, hintact, hcounts.trans hcores⟩

end ChipFabric.Topology
