/-
The crossbar of a standard cluster, wherever the cluster stands. A graph that
`Holds` a cluster has what the cluster consists of from two numbers on, one of
its components and one of its ports, and binds the ports in front of the
memories to nothing else. That is enough to route by: the whole chip holds
each of its clusters, and so does any graph that the builder has just added
one to (`holds_append`).

The crossbar forwards an address as it came, to the memory whose window holds
it, and refuses every other one.
-/
import ChipFabric.Proofs.Fabric.Follow
import ChipFabric.Proofs.Fabric.Validation
import ChipFabric.Proofs.Topology.Cluster

namespace ChipFabric.StandardCluster

-- =========================================================== memories

/-- A memory of a cluster, with the window it answers in. -/
structure Place where
  name : String
  window : Window
  device : Device

/-- The memories of a cluster, in the order of the crossbar's outputs. -/
def places (layout : ClusterLayout) : List Place := [
  ⟨"tcdm", layout.tcdm, .memory layout.tcdm.size false⟩,
  ⟨"periph", layout.periph, .peripherals layout.periph.size⟩,
  ⟨"zero_mem", layout.zeroMem, .memory layout.zeroMem.size true⟩]

theorem eq_of_lt_three {k : Nat} (h : k < 3) : k = 0 ∨ k = 1
    ∨ k = 2 := by omega

theorem lt_of_places {layout : ClusterLayout} {k : Nat} {place : Place}
    (h : (places layout)[k]? = some place) : k < 3 :=
  (List.getElem?_eq_some_iff.1 h).1

variable {n p : Nat} {top : String} {layout : ClusterLayout}

theorem isTerminal_of_places {k : Nat} {place : Place}
    (h : (places layout)[k]? = some place) : place.device.isTerminal := by
  have hall : ∀ place ∈ places layout, place.device.isTerminal := by
    simp [places, Device.isTerminal, Device.size?]
  exact hall place (List.mem_of_getElem? h)

theorem part_crossbar : (inventory n p top layout).parts[1]? =
    some ⟨top ++ "/" ++ "xbar",
      .router (crossbarTable layout) [⟨p + 8⟩, ⟨p + 10⟩, ⟨p + 12⟩]⟩ := rfl

theorem port_narrowInput : (inventory n p top layout).ports[0]? =
    some ⟨⟨n⟩, "narrow_input", .forward, Signal.io.signature⟩ := rfl

theorem port_crossbarInput : (inventory n p top layout).ports[5]? =
    some ⟨⟨n + 1⟩, Router.defaultInput, .input, Signal.io.signature⟩ := rfl

/-- The memories stand behind the group and the crossbar. -/
theorem part_place {k : Nat} {place : Place}
    (h : (places layout)[k]? = some place) :
    (inventory n p top layout).parts[2 + k]? =
      some ⟨top ++ "/" ++ place.name, .device place.device⟩ := by
  rcases eq_of_lt_three (lt_of_places h) with rfl | rfl | rfl
    <;> cases h <;> rfl

/-- Their inputs follow those of the crossbar, each with the output to it. -/
theorem port_place {k : Nat} (h : k < 3) :
    (inventory n p top layout).ports[7 + 2 * k]? =
      some ⟨⟨n + (2 + k)⟩, Router.defaultInput, .input,
        Signal.io.signature⟩ := by
  rcases eq_of_lt_three h with rfl | rfl | rfl <;> rfl

/-- The crossbar has a window for each memory. -/
theorem mem_crossbarTable {m : Mapping} : m ∈ (crossbarTable layout).mappings ↔
    ∃ k place, (places layout)[k]? = some place
      ∧ m = ⟨place.window, ⟨k⟩, false, {}⟩ := by
  have hmappings : (crossbarTable layout).mappings =
      [⟨layout.tcdm, ⟨0⟩, false, {}⟩, ⟨layout.periph, ⟨1⟩, false, {}⟩,
        ⟨layout.zeroMem, ⟨2⟩, false, {}⟩] := rfl
  rw [hmappings]
  constructor
  · intro h
    simp only [List.mem_cons, List.not_mem_nil, or_false] at h
    rcases h with rfl | rfl | rfl
    · exact ⟨0, _, rfl, rfl⟩
    · exact ⟨1, _, rfl, rfl⟩
    · exact ⟨2, _, rfl, rfl⟩
  · rintro ⟨k, place, hplace, rfl⟩
    rcases eq_of_lt_three (lt_of_places hplace) with rfl | rfl | rfl
      <;> cases hplace <;> simp

/-- The crossbar is the only router of a cluster. -/
theorem router_of_mem {path : String} {table : Router} {exits : List PortId}
    (h : ⟨path, .router table exits⟩ ∈ (inventory n p top layout).parts) :
    path = top ++ "/" ++ "xbar" ∧ table = crossbarTable layout
      ∧ exits = [⟨p + 8⟩, ⟨p + 10⟩, ⟨p + 12⟩] := by
  simpa [inventory, fixed, front, boundary, crossbar, memories, memory, cores,
    core, engine, Inventory.join] using h

/-- The cores bind nothing but the start signal and their own ports. -/
theorem targets_cores_eq_nil {crossbar narrowSoc fetchEnable source : PortId}
    {firstHart count : Nat} (hfetch : fetchEnable.index ≠ source.index)
    (h : source.index < p ∨ p + 3 * count ≤ source.index) :
    (cores n p top crossbar narrowSoc fetchEnable firstHart count).targets
      source = [] := by
  refine Inventory.targets_eq_nil fun b hb => ?_
  rcases source_of_mem_cores hb with hsource | hsource
  · rwa [hsource]
  · omega

/-- The ports in front of the memories are bound apart from the cores and the
DMA engine. -/
theorem targets_inventory {k : Nat} (hk : k < 13) (hne : k ≠ 2) :
    (inventory n p top layout).targets ⟨p + k⟩ =
      (fixed n p top layout).targets ⟨p + k⟩ := by
  have hcores : p + k < p + 13 := by omega
  rw [inventory, Inventory.targets_append, Inventory.targets_append,
    targets_cores_eq_nil (by simp only; omega) (.inl hcores),
    Inventory.targets_eq_nil (s := engine ..), List.append_nil,
      List.append_nil]
  simp only [engine, List.mem_singleton, forall_eq]
  omega

/-- The output of the crossbar to a memory leads to its input. -/
theorem targets_memory {k : Nat} (hk : k < 3) :
    (fixed n p top layout).targets ⟨p + (8 + 2 * k)⟩ =
      [⟨p + (7 + 2 * k)⟩] := by
  rcases eq_of_lt_three hk with rfl | rfl | rfl <;>
    simp [Inventory.targets, bindings_fixed]

/-- What enters at the narrow boundary comes to the crossbar. -/
theorem targets_narrowInput : (fixed n p top layout).targets ⟨p⟩ =
    [⟨p + 5⟩] := by
  simp [Inventory.targets, bindings_fixed]

-- ============================================================= graphs

/-- The graph has a cluster there: its components from `n` on, its ports from
`p` on, and on the ports in front of the memories the bindings of the cluster
and no others. -/
structure Holds (graph : Graph) (n p : Nat) (top : String)
    (layout : ClusterLayout) : Prop where
  part : ∀ {k : Nat} {part : Part},
    (inventory n p top layout).parts[k]? = some part →
    graph.inventory.parts[n + k]? = some part
  port : ∀ {k : Nat} {port : Port},
    (inventory n p top layout).ports[k]? = some port →
    graph.inventory.ports[p + k]? = some port
  targets : ∀ {k : Nat}, k < 13 → k ∉ [2, 3, 4] →
    graph.inventory.targets ⟨p + k⟩ = (fixed n p top layout).targets ⟨p + k⟩

/-- A graph that a cluster was added to holds it, as long as nothing that was
there is bound to ports that were not. -/
theorem holds_append {graph : Graph} {s : Inventory}
    (hg : graph.inventory = s ++ inventory n p top layout)
    (hn : s.parts.length = n) (hp : s.ports.length = p)
    (hsources : ∀ b ∈ s.bindings, b.source.index < p) :
    Holds graph n p top layout where
  part hpart := by
    rw [hg]
    exact Inventory.getElem?_parts_append hn hpart
  port hport := by
    rw [hg]
    exact Inventory.getElem?_ports_append hp hport
  targets := by
    intro k hk hne
    simp only [List.mem_cons, List.not_mem_nil, or_false, not_or] at hne
    rw [hg, Inventory.targets_append, Inventory.targets_eq_nil,
      List.nil_append, targets_inventory hk hne.1]
    intro b hb heq
    have hlt := hsources b hb
    simp only at heq
    omega

namespace Holds

variable {graph : Graph} {addr issued hops : Nat}
  (h : Holds graph n p top layout)
include h

theorem component_crossbar : graph.path ⟨n + 1⟩ = top ++ "/" ++ "xbar" ∧
    (graph.component ⟨n + 1⟩).kind =
      .router (crossbarTable layout) [⟨p + 8⟩, ⟨p + 10⟩, ⟨p + 12⟩] :=
  graph.component_of_inventory ⟨n + 1⟩ (h.part part_crossbar)

theorem component_place {k : Nat} {place : Place}
    (hplace : (places layout)[k]? = some place) :
    graph.path ⟨n + (2 + k)⟩ = top ++ "/" ++ place.name ∧
      (graph.component ⟨n + (2 + k)⟩).kind = .device place.device :=
  graph.component_of_inventory ⟨n + (2 + k)⟩ (h.part (part_place hplace))

/-- The memories are behind the outputs of the crossbar. -/
theorem beyond_place {k : Nat} {place : Place}
    (hplace : (places layout)[k]? = some place) :
    graph.beyond (graph.component ⟨n + 1⟩) ⟨k⟩ = .ok ⟨n + (2 + k)⟩ := by
  have hk := lt_of_places hplace
  have hsingle : graph.Single 0 ⟨p + (8 + 2 * k)⟩ ⟨p + (7 + 2 * k)⟩ := by
    refine .of_input ?_ (h.port (port_place hk))
    rw [h.targets (by omega) (by simp; omega), targets_memory hk]
  have hexit : [(⟨p + 8⟩ : PortId), ⟨p + 10⟩, ⟨p + 12⟩][k]? =
      some ⟨p + (8 + 2 * k)⟩ := by
    rcases eq_of_lt_three hk with rfl | rfl | rfl <;> rfl
  refine hsingle.beyond_of_inventory (Nat.zero_le _)
    (h.part part_crossbar) hexit (h.port (port_place hk)) (.inr ?_)
  exact Component.isTerminal_of_kind (h.component_place hplace).2
    (isTerminal_of_places hplace)

/-- Behind each window of the crossbar there is something. -/
theorem exists_beyond_mapping {component : Component}
    (hpath : component.path = top ++ "/" ++ "xbar")
    (hkind : component.kind = .router (crossbarTable layout)
      [⟨p + 8⟩, ⟨p + 10⟩, ⟨p + 12⟩])
    {m : Mapping} (hm : m ∈ (crossbarTable layout).mappings) :
    ∃ next, graph.beyond component m.port = .ok next := by
  obtain ⟨hpath', hkind'⟩ := h.component_crossbar
  rw [Graph.beyond_congr (hpath.trans hpath'.symm) (hkind.trans hkind'.symm)]
  obtain ⟨k, place, hplace, rfl⟩ := mem_crossbarTable.1 hm
  exact ⟨_, h.beyond_place hplace⟩

-- =========================================================== routing

variable (hs : graph.inventory.Sound)
include hs

theorem sound_crossbarTable : (crossbarTable layout).Sound :=
  hs.tables _ (List.mem_of_getElem? (h.part part_crossbar)) _ _ rfl

theorem routeWithin_crossbar {k : Nat} {place : Place}
    (hplace : (places layout)[k]? = some place) (haddr : addr ∈ place.window) :
    graph.routeWithin issued (hops + 1) ⟨n + 1⟩ addr = .ok {
      target := ⟨n + (2 + k)⟩
      targetPath := top ++ "/" ++ place.name
      localAddr := addr
      hops :=
        [⟨top ++ "/" ++ "xbar", ⟨place.window, ⟨k⟩, false, {}⟩, addr, addr⟩]
      attrs := {} } := by
  obtain ⟨hcrossbar, hkind⟩ := h.component_crossbar
  obtain ⟨hpath, hdevice⟩ := h.component_place hplace
  have hat : (crossbarTable layout).mappingAt? addr = some ⟨place.window, ⟨k⟩,
      false, {}⟩ :=
    (h.sound_crossbarTable hs).mappingAt?_eq_some_iff.2
      ⟨mem_crossbarTable.2 ⟨k, place, hplace, rfl⟩, haddr⟩
  rw [Graph.routeWithin_device (Component.table?_of_kind hkind) hat
    (h.beyond_place hplace)
    (Component.isTerminal_of_kind hdevice (isTerminal_of_places hplace)),
    hpath, Graph.hopOf,
    hcrossbar]
  rfl

/-- There is none where no memory has the address. -/
theorem routeWithin_gap (hout : ∀ place ∈ places layout, addr ∉ place.window) :
    graph.routeWithin issued (hops + 1) ⟨n + 1⟩ addr = .error
      (.unmappedAddress "xbar" addr) := by
  obtain ⟨-, hkind⟩ := h.component_crossbar
  have hat : (crossbarTable layout).mappingAt? addr = none := by
    refine (h.sound_crossbarTable hs).mappingAt?_eq_none_iff.2 fun m hm => ?_
    obtain ⟨k, place, hplace, rfl⟩ := mem_crossbarTable.1 hm
    exact hout place (List.mem_of_getElem? hplace)
  exact Graph.routeWithin_unmapped (Component.table?_of_kind hkind) hat

end Holds

end ChipFabric.StandardCluster
