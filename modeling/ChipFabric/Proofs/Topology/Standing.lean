/-
What stands while others build. The planes are there before the first cluster
is built and after everything else: `Standing` is what routing needs of them,
and it stays true of whatever the graph grows into. The loader and the
external memory are added to a graph of which no more than this is known.
-/
import ChipFabric.Proofs.Fabric.Served
import ChipFabric.Proofs.Fabric.Steps
import ChipFabric.Proofs.Topology.Whole

namespace ChipFabric

/-- In a sound inventory each port is found under its name. -/
theorem Graph.declares_of_sound {g : Graph} (hs : g.inventory.Sound)
    (id : PortId) {port : Port}
    (h : g.inventory.ports[id.index]? = some port) : g.Declares id port where
  exists_port := by
    rw [g.size_ports_eq]
    exact (List.getElem?_eq_some_iff.1 h).1
  port_eq := g.port_of_inventory id h
  found := g.findPort?_of_sound hs id h

/-- A port that is declared fits a handle of its direction. -/
theorem Graph.Declares.fits {g : Graph} {d : Direction} {s : Signal}
    {handle : Handle d s} {port : Port} (h : g.Declares handle.port port)
    (hdirection : port.direction = d) : handle.Fits g :=
  ⟨h.exists_port, by rw [h.port_eq, hdirection]⟩

namespace Topology

-- ============================================================ planes

/-- The planes with the boot ROM, and the windows on them that were mapped
before there was any cluster. -/
structure Standing (chip : ChipLayout) (g : Graph) : Prop where
  board : g.lookup? "board" = some Graph.root
  soc : g.lookup? "board/chip/soc" = some ⟨2⟩
  narrow : g.lookup? "board/chip/soc/narrow_axi" = some ⟨3⟩
  wide : g.lookup? "board/chip/soc/wide_axi" = some ⟨4⟩
  rom : g.lookup? "board/chip/soc/rom" = some ⟨5⟩
  rom_kind : (g.component ⟨5⟩).kind = .device (.bootRom chip.bootrom.size)
  narrow_inStep : g.InStep ⟨3⟩
  wide_inStep : g.InStep ⟨4⟩
  chipHbm : g.Declares ⟨0⟩ ⟨⟨1⟩, "hbm", .forward, Signal.io.signature⟩
  socHbm : g.Declares ⟨1⟩ ⟨⟨2⟩, "hbm", .forward, Signal.io.signature⟩
  narrowIn : g.Declares ⟨2⟩ ⟨⟨3⟩, Router.defaultInput, .input,
    Signal.io.signature⟩
  wideIn : g.Declares ⟨3⟩ ⟨⟨4⟩, Router.defaultInput, .input,
    Signal.io.signature⟩
  romIn : g.Declares ⟨4⟩ ⟨⟨5⟩, Router.defaultInput, .input,
    Signal.io.signature⟩
  serves_rom : g.Serves ⟨3⟩ (romMapping chip) ⟨5⟩ ⟨4⟩
  serves_pass : g.Serves ⟨3⟩ (passMapping chip) ⟨7⟩ ⟨3⟩
  serves_hbm : g.Serves ⟨4⟩ (hbmMapping chip) ⟨6⟩ ⟨1⟩

variable {chip : ChipLayout} {g g' : Graph}

/-- What stands can be read off the inventory of the planes. -/
theorem Standing.of_inventory (hs : g.inventory.Sound)
    (hg : g.inventory = planes chip (.router (narrowTable chip []) [⟨5⟩, ⟨7⟩])
      (.router (wideTable chip) [⟨6⟩])) : Standing chip g := by
  have hpart : ∀ (id : ComponentId) {part : Part},
      g.inventory.parts[id.index]? = some part →
      g.lookup? part.path = some id ∧ (g.component id).kind = part.kind :=
    fun id part h =>
      ⟨g.lookup?_of_sound hs id h, (g.component_of_inventory id h).2⟩
  have hport : ∀ (id : PortId) {port : Port},
      g.inventory.ports[id.index]? = some port → g.Declares id port :=
    fun id port h => g.declares_of_sound hs id h
  have hrouter : ∀ (id : ComponentId) {path : String} {table : Router}
      {exits : List PortId},
      g.inventory.parts[id.index]? = some ⟨path, .router table exits⟩ →
      exits.length = table.outputs.length → g.InStep id :=
    fun id path table exits h hlength => ⟨table, exits, (hpart id h).2,
      hs.tables _ (List.mem_of_getElem? h) _ _ rfl, hlength⟩
  have hserves : ∀ (id : ComponentId) {path : String} {table : Router}
      {exits : List PortId} {m : Mapping} {exit target : PortId},
      g.inventory.parts[id.index]? = some ⟨path, .router table exits⟩ →
      m ∈ table.mappings → exits[m.port.index]? = some exit →
      ⟨exit, target⟩ ∈ g.inventory.bindings → g.Serves id m exit target :=
    fun id path table exits m exit target h hm hexit hbinding =>
      ⟨⟨table, Component.table?_of_kind (hpart id h).2, hm⟩,
        (Component.exit?_of_kind (hpart id h).2 m.port).trans hexit,
        Array.mem_toList_iff.1 hbinding⟩
  rw [hg] at hpart hport hrouter hserves
  exact {
    board := (hpart ⟨0⟩ rfl).1
    soc := (hpart ⟨2⟩ rfl).1
    narrow := (hpart ⟨3⟩ rfl).1
    wide := (hpart ⟨4⟩ rfl).1
    rom := (hpart ⟨5⟩ rfl).1
    rom_kind := (hpart ⟨5⟩ rfl).2
    narrow_inStep := hrouter ⟨3⟩ rfl rfl
    wide_inStep := hrouter ⟨4⟩ rfl rfl
    chipHbm := hport ⟨0⟩ rfl
    socHbm := hport ⟨1⟩ rfl
    narrowIn := hport ⟨2⟩ rfl
    wideIn := hport ⟨3⟩ rfl
    romIn := hport ⟨4⟩ rfl
    serves_rom := hserves ⟨3⟩ rfl (by simp [narrowTable]) rfl
      (by simp [planes])
    serves_pass := hserves ⟨3⟩ rfl (by simp [narrowTable]) rfl
      (by simp [planes])
    serves_hbm := hserves ⟨4⟩ rfl (by simp [wideTable]) rfl
      (by simp [planes]) }

/-- What stands is not torn down. -/
theorem Standing.grows (h : Standing chip g) (hgrows : g.Grows g') :
    Standing chip g' where
  board := hgrows.lookup? h.board
  soc := hgrows.lookup? h.soc
  narrow := hgrows.lookup? h.narrow
  wide := hgrows.lookup? h.wide
  rom := hgrows.lookup? h.rom
  rom_kind := hgrows.kind_eq_device (g.lookup?_eq_some_iff.1 h.rom).1
    h.rom_kind
  narrow_inStep := hgrows.inStep h.narrow_inStep
  wide_inStep := hgrows.inStep h.wide_inStep
  chipHbm := hgrows.declares h.chipHbm
  socHbm := hgrows.declares h.socHbm
  narrowIn := hgrows.declares h.narrowIn
  wideIn := hgrows.declares h.wideIn
  romIn := hgrows.declares h.romIn
  serves_rom := hgrows.serves h.serves_rom
  serves_pass := hgrows.serves h.serves_pass
  serves_hbm := hgrows.serves h.serves_hbm

/-- The planes are built on a bare board, and then stand. -/
theorem addPlanes_stand (hchip : chip.Sound) :
    ∃ bare, (addPlanes chip).on (Graph.new "board") = (.ok planeHandles, bare)
      ∧ Standing chip bare := by
  have hboard : (Graph.new "board").inventory.Sound := by
    constructor <;> simp [Graph.new, Graph.inventory]
  obtain ⟨hs, hrun⟩ := addPlanes_makes hchip.bootrom_hbm hboard
  obtain ⟨bare, hon, hbare⟩ := hrun (Graph.new "board") rfl
  exact ⟨bare, hon, .of_inventory (hbare ▸ hs) hbare⟩

-- ============================================================== rest

variable {admits : Router → Prop}

/-- The loader is bound to the planes and to what starts the clusters. -/
theorem addLoader_ensures (h : Standing chip g) {clusters : List ClusterPorts}
    (hclusters : ∀ ports ∈ clusters, ports.fetchEnable.Fits g)
    (device : Device) :
    (addLoader planeHandles clusters device).Ensures admits g fun _ _ =>
      True := by
  have hsoc := (g.lookup?_eq_some_iff.1 h.soc).1
  refine (Build.addComponent_ensures "loader" hsoc (.device device)).bind
    fun loader g₁ hchanges₁ hloader => ?_
  have hlt := (g₁.lookup?_eq_some_iff.1 hloader.1).1
  refine (Build.declare_ensures "out" .output .io hlt).bind
    fun out g₂ hchanges₂ hout => ?_
  refine (Build.declare_ensures "start" .output .wire
    (Nat.lt_of_lt_of_le hlt hchanges₂.size_le)).bind
      fun start g₃ hchanges₃ hstart => ?_
  have hchanges : g.Changes admits g₃ :=
    (hchanges₁.trans hchanges₂).trans hchanges₃
  have hnarrow : planeHandles.narrowIn.Fits g₃ :=
    (h.grows hchanges.grows).narrowIn.fits rfl
  refine (Build.bind_ensures (hout.1.changes hchanges₃) hnarrow).bind
    fun _ g₄ hchanges₄ _ => ?_
  have hstarts :
      (clusters.forM fun ports => Build.bind start ports.fetchEnable).Ensures
      admits g₄
      fun _ g' => start.Fits g'
        ∧ ∀ ports ∈ clusters, ports.fetchEnable.Fits g' := by
    refine Build.Ensures.forM (fun ports hports g hinv => ?_)
      ⟨hstart.1.changes hchanges₄, ?_⟩
    · obtain ⟨hsource, htargets⟩ := hinv
      refine (Build.bind_ensures hsource (htargets ports hports)).imp
        fun _ g' hchanges _ => ?_
      exact ⟨hsource.changes hchanges, fun other hother =>
        (htargets other hother).changes hchanges⟩
    · exact fun ports hports => (hclusters ports hports).changes
        (hchanges.trans hchanges₄)
  exact hstarts.bind fun _ _ _ _ => .pure trivial

/-- A device at the path of the external memory, with an input that the ports
of the SoC and the chip are bound to. -/
def Reached (chip : ChipLayout) (g : Graph) (memory : ComponentId)
    (input : PortId) : Prop :=
  g.lookup? (externalPath chip) = some memory
    ∧ (g.component memory).kind = .device (.hbm chip.hbmModel chip.hbm.size)
    ∧ g.Declares input ⟨memory, Router.defaultInput, .input,
      Signal.io.signature⟩
    ∧ ⟨⟨1⟩, ⟨0⟩⟩ ∈ g.bindings ∧ ⟨⟨0⟩, input⟩ ∈ g.bindings

/-- The external memory finds the ports of the chip where they were left. -/
theorem addExternalMemory_ensures (h : Standing chip g) :
    (addExternalMemory planeHandles chip).Ensures admits g fun _ g' =>
      ∃ memory input, Reached chip g' memory input := by
  obtain ⟨hroot, hboard, -⟩ := g.lookup?_eq_some_iff.1 h.board
  refine (Build.addTerminal_ensures chip.hbmModel.instanceName
    (.hbm chip.hbmModel chip.hbm.size) hroot).bind
      fun made g₁ hchanges₁ hmade => ?_
  obtain ⟨-, hinput, hlook, hkind⟩ := hmade
  have h₁ := h.grows hchanges₁.grows
  have hsoc : planeHandles.socHbm.Fits g₁ := h₁.socHbm.fits rfl
  have hchip : planeHandles.chipHbm.Fits g₁ := h₁.chipHbm.fits rfl
  refine (Build.bind_ensures hsoc hchip).bind fun _ g₂ hchanges₂ hbound => ?_
  have h₂ := h₁.grows hchanges₂.grows
  have hinput₂ := hchanges₂.grows.declares hinput
  refine (Build.bindByName_ensures planeHandles.chip "hbm" made.1
    Router.defaultInput).imp
    fun _ g₃ hchanges₃ hnames => ⟨made.1, made.2.port, ?_⟩
  obtain ⟨source, target, hsource, htarget, hmem⟩ := hnames
  obtain rfl := Option.some.inj (hsource.symm.trans h₂.chipHbm.found)
  obtain rfl := Option.some.inj (htarget.symm.trans hinput₂.found)
  have hgrows := hchanges₂.grows.trans hchanges₃.grows
  rw [hboard] at hlook
  exact ⟨hgrows.lookup? hlook,
    hgrows.kind_eq_device (g₁.lookup?_eq_some_iff.1 hlook).1 hkind,
    hgrows.declares hinput, hchanges₃.grows.mem_bindings _ hbound, hmem⟩

end Topology

end ChipFabric
