/-
Routing where bindings do not branch. `Graph.Single k source target` is a
chain of bindings through `k` forward ports of which each leads to one port
only, and ends at an input. Such a chain is followed to its end, because it
cannot be longer than there are ports; and what is beyond an output with
such a chain is the owner of its end. The hops of a route are then read off
the tables.
-/
import ChipFabric.Proofs.Fabric.Hop
import ChipFabric.Proofs.Fabric.Inventory

namespace ChipFabric

namespace Component

variable {component : Component}

theorem isRouter_of_kind {table : Router} {exits : List PortId}
    (h : component.kind = .router table exits) : component.isRouter := by
  simp [isRouter, table?, h]

theorem isTerminal_of_kind {device : Device}
    (h : component.kind = .device device) (hdevice : device.isTerminal) :
    component.isTerminal := by
  simp [isTerminal, device?, h, hdevice]

theorem not_isRouter_of_isTerminal
    (h : component.isTerminal) : ¬ component.isRouter := by
  obtain ⟨device, hkind, -⟩ := exists_kind_of_isTerminal h
  simp [isRouter, table?, hkind]

end Component

namespace Graph

variable {g : Graph}

-- ============================================================ chains

/-- One way only leads from the one port to the other, through so many
forward ports. -/
inductive Single (g : Graph) : Nat → PortId → PortId → Prop
  | direct {source target : PortId} (htargets : g.targets source = [target])
      (hinput : (g.port target).direction ≠ .forward) :
      Single g 0 source target
  | forward {k : Nat} {source middle target : PortId}
      (htargets : g.targets source = [middle])
      (hforward : (g.port middle).direction = .forward)
      (h : Single g k middle target) : Single g (k + 1) source target

/-- A binding to an input is a chain. -/
theorem Single.of_input {source : PortId} {q : Nat} {owner : ComponentId}
    {name signature : String} (htargets : g.inventory.targets source = [⟨q⟩])
    (hport : g.inventory.ports[q]? = some ⟨owner, name, .input, signature⟩) :
    g.Single 0 source ⟨q⟩ := by
  apply Single.direct htargets
  rw [g.port_of_inventory ⟨q⟩ hport]
  nofun

/-- A binding to a forward port is the start of one. -/
theorem Single.of_forward {k : Nat} {source target : PortId} {q : Nat}
    {owner : ComponentId} {name signature : String}
    (htargets : g.inventory.targets source = [⟨q⟩])
    (hport : g.inventory.ports[q]? = some ⟨owner, name, .forward, signature⟩)
    (h : g.Single k ⟨q⟩ target) : g.Single (k + 1) source target := by
  refine .forward htargets ?_ h
  rw [g.port_of_inventory ⟨q⟩ hport]

/-- A chain is found within more steps than it has forward ports. -/
theorem Single.inputsWithin {k : Nat} {source target : PortId}
    (h : g.Single k source target) {depth : Nat} (hdepth : k < depth) :
    g.inputsWithin depth source = some [target] := by
  induction h generalizing depth with
  | direct htargets hinput =>
    obtain ⟨depth, rfl⟩ := Nat.exists_eq_succ_of_ne_zero (Nat.ne_of_gt hdepth)
    simp [Graph.inputsWithin, htargets, isForward, hinput]
  | forward htargets hforward _ ih =>
    obtain ⟨depth, rfl⟩ :=
      Nat.exists_eq_succ_of_ne_zero (Nat.ne_zero_of_lt hdepth)
    have hmiddle := ih (Nat.lt_of_succ_lt_succ hdepth)
    simp [Graph.inputsWithin, htargets, isForward, hforward, hmiddle]

theorem Single.follow {k : Nat} {source target : PortId}
    (h : g.Single k source target) (hk : k ≤ g.ports.size) :
    g.follow source = .ok target := by
  have hinputs := h.inputsWithin (Nat.lt_succ_of_le hk)
  simp [Graph.follow, reachableInputs, hinputs, pure, Except.pure]

/-- Behind an output with such a chain is what its end belongs to. -/
theorem Single.beyond {k : Nat} {source target : PortId}
    (h : g.Single k source target) (hk : k ≤ g.ports.size) {router : Component}
    {port : RouterPort} (hexit : router.exit? port = some source)
    (hgoes : (g.component (g.port target).owner).isRouter
      ∨ (g.component (g.port target).owner).isTerminal) :
    g.beyond router port = .ok (g.port target).owner := by
  simp only [Graph.beyond, hexit, h.follow hk, ok_bind, hgoes, ↓reduceIte]
  rfl

/-- The same, read off the inventory. -/
theorem Single.beyond_of_inventory {k q : Nat} {r : ComponentId}
    {path : String} {table : Router} {exits : List PortId} {port : RouterPort}
    {source : PortId} {target : Port} (h : g.Single k source ⟨q⟩)
    (hk : k ≤ g.ports.size)
    (hr : g.inventory.parts[r.index]? = some ⟨path, .router table exits⟩)
    (hexit : exits[port.index]? = some source)
    (htarget : g.inventory.ports[q]? = some target)
    (hgoes : (g.component target.owner).isRouter
      ∨ (g.component target.owner).isTerminal) :
    g.beyond (g.component r) port = .ok target.owner := by
  obtain ⟨-, hkind⟩ := g.component_of_inventory r hr
  have hport := g.port_of_inventory ⟨q⟩ htarget
  have hexit' : (g.component r).exit? port = some source := by
    simp [Component.exit?, hkind, hexit]
  have hbeyond := h.beyond hk hexit'
  rw [hport] at hbeyond
  exact hbeyond hgoes

-- =========================================================== routing

variable {r next : ComponentId} {table : Router} {m : Mapping}
  {issued hops addr : Nat}

/-- Where no window holds the address, the route ends. -/
theorem routeWithin_unmapped (htable : (g.component r).table? = some table)
    (hat : table.mappingAt? addr = none) :
    g.routeWithin issued (hops + 1) r addr = .error
      (.unmappedAddress table.name addr) := by
  rw [routeWithin_succ, hop_eq htable, hat]

/-- Where the window leads to a device that answers, the route is done. -/
theorem routeWithin_device (htable : (g.component r).table? = some table)
    (hat : table.mappingAt? addr = some m)
    (hbeyond : g.beyond (g.component r) m.port = .ok next)
    (hdevice : (g.component next).isTerminal) :
    g.routeWithin issued (hops + 1) r addr = .ok {
      target := next
      targetPath := g.path next
      localAddr := m.forward addr
      hops := [g.hopOf r m addr]
      attrs := m.attrs } := by
  rw [routeWithin_succ, hop_eq htable, hat]
  simp only [hbeyond, map_ok, Component.not_isRouter_of_isTerminal hdevice,
    Bool.false_eq_true, ↓reduceIte]
  rfl

/-- Where it leads to a router, the route goes on from there. -/
theorem routeWithin_router (htable : (g.component r).table? = some table)
    (hat : table.mappingAt? addr = some m)
    (hbeyond : g.beyond (g.component r) m.port = .ok next)
    (hrouter : (g.component next).isRouter) :
    g.routeWithin issued (hops + 1) r addr =
      (g.routeWithin issued hops next (m.forward addr)).map fun onward =>
        { onward with hops := g.hopOf r m addr :: onward.hops } := by
  rw [routeWithin_succ, hop_eq htable, hat]
  simp only [hbeyond, map_ok, hrouter, ↓reduceIte]
  rfl

end Graph

end ChipFabric
