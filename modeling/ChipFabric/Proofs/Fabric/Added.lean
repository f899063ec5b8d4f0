/-
Graphs that something was added to. If the second inventory is the first one
and then some more, all that was there is there under its number, and if the
new bindings start at new ports, nothing that was there leads further than
before. So the graph was extended, and validation passes if it passed before
and there is something beyond each of the new windows (`validate_of_append`).

That an inventory is sound is for those who write one down to see to; the
inventory of a graph that can be reached always is (`Reachable.inventory`).
-/
import ChipFabric.Proofs.Fabric.Extension
import ChipFabric.Proofs.Fabric.Inventory
import ChipFabric.Proofs.Fabric.Tree

namespace ChipFabric.Graph

variable {g g' : Graph} {t : Inventory}

-- ========================================================= soundness

/-- In a tree no two components have one path. -/
theorem Tree.paths_nodup (h : g.Tree) :
    (g.inventory.parts.map (·.path)).Nodup := by
  refine List.pairwise_iff_getElem.2 fun i j hi hj hlt heq => ?_
  have hi' : i < g.components.size := by simpa [inventory] using hi
  have hj' : j < g.components.size := by simpa [inventory] using hj
  have hpath : g.path ⟨i⟩ = g.path ⟨j⟩ := by
    simpa [inventory, path, component, hi', hj'] using heq
  exact Nat.ne_of_lt hlt
    (congrArg (·.index) (h.path_injective ⟨i⟩ ⟨j⟩ hi' hj' hpath))

/-- No two ports of one component have one name. -/
theorem Listed.ports_nodup (h : g.Listed) :
    (g.inventory.ports.map fun port => (port.owner, port.name)).Nodup := by
  refine List.pairwise_iff_getElem.2 fun i j hi hj hlt heq => ?_
  have hi' : i < g.ports.size := by simpa [inventory] using hi
  have hj' : j < g.ports.size := by simpa [inventory] using hj
  obtain ⟨howner, hname⟩ : (g.port ⟨i⟩).owner = (g.port ⟨j⟩).owner
      ∧ (g.port ⟨i⟩).name = (g.port ⟨j⟩).name := by
    simpa [inventory, port, hi', hj'] using heq
  exact Nat.ne_of_lt hlt
    (congrArg (·.index) (h.name_injective ⟨i⟩ ⟨j⟩ hi' hj' howner hname))

/-- The inventory of a graph that can be reached is sound. -/
theorem Reachable.inventory (h : g.Reachable) : g.inventory.Sound where
  owner port hport := by
    obtain ⟨i, hi⟩ := List.mem_iff_getElem?.1 hport
    have howner := h.closed.owner ⟨i⟩ (List.getElem?_eq_some_iff.1 hi).1
    rwa [g.port_of_inventory ⟨i⟩ hi, size_components_eq] at howner
  ends b hb := h.closed.ends b (Array.mem_toList_iff.1 hb)
  paths_nodup := h.tree.paths_nodup
  ports_nodup := h.listed.ports_nodup
  tables part hpart table exits hkind := by
    obtain ⟨i, hi⟩ := List.mem_iff_getElem?.1 hpart
    obtain ⟨-, hsame⟩ := g.component_of_inventory ⟨i⟩ hi
    exact (h.made (hsame.trans hkind)).sound

-- ========================================================== additions

section

variable (hg : g'.inventory = g.inventory ++ t)
include hg

theorem component_of_append {id : ComponentId}
    (hid : id.index < g.components.size) :
    g'.path id = g.path id
      ∧ (g'.component id).kind = (g.component id).kind := by
  have hpart : g'.inventory.parts[id.index]? =
      some ⟨g.path id, (g.component id).kind⟩ := by
    rw [hg, Inventory.parts_append, List.getElem?_append_left, part_of_lt hid]
    rwa [← size_components_eq]
  exact g'.component_of_inventory id hpart

theorem port_of_append {id : PortId} (hid : id.index < g.ports.size) :
    g'.port id = g.port id := by
  refine g'.port_of_inventory id ?_
  rw [hg, Inventory.ports_append,
    List.getElem?_append_left (by rwa [← size_ports_eq])]
  simp [inventory, port, hid]

theorem grows_of_append : g.Grows g' where
  size_le := by
    rw [size_components_eq, size_components_eq, hg, Inventory.parts_append,
      List.length_append]
    exact Nat.le_add_right _ _
  path_eq _ hid := (component_of_append hg hid).1
  kind_grows id hid := by
    rw [(component_of_append hg hid).2]
    exact .same _
  port_eq id hid := by
    refine ⟨Nat.lt_of_lt_of_le hid ?_, port_of_append hg hid⟩
    rw [g'.size_ports_eq, hg, Inventory.ports_append, List.length_append]
    exact Nat.le_add_right _ _
  mem_bindings b hb := by
    have hmem : b ∈ g'.inventory.bindings := by
      rw [hg]
      exact List.mem_append_left _ (Array.mem_toList_iff.2 hb)
    exact Array.mem_toList_iff.1 hmem

/-- What was added binds only ports that were added. -/
theorem extends_of_append (hsources : ∀ b ∈ t.bindings,
      g.ports.size ≤ b.source.index) :
    g.Extends g' where
  grows := grows_of_append hg
  targets_eq id hid := by
    show g'.inventory.targets id = g.inventory.targets id
    rw [hg, Inventory.targets_append, Inventory.targets_eq_nil (s := t),
      List.append_nil]
    exact fun b hb heq => Nat.not_lt.2 (hsources b hb) (heq ▸ hid)

/-- A component that was not there was added. -/
theorem mem_parts_of_append {r : ComponentId}
    (hold : g.components.size ≤ r.index) (hr : r.index < g'.components.size) :
    ⟨g'.path r, (g'.component r).kind⟩ ∈ t.parts := by
  have hpart := part_of_lt hr
  rw [size_components_eq] at hold
  rw [hg, Inventory.parts_append, List.getElem?_append_right hold] at hpart
  exact List.mem_of_getElem? hpart

/-- Validation passes again if it does so for the routers that were added. -/
theorem validate_of_append (hsources : ∀ b ∈ t.bindings,
      g.ports.size ≤ b.source.index)
    (hclosed : g.Closed) (hvalid : g.validate = .ok ())
    (hnew : ∀ r table exits, ⟨g'.path r, .router table exits⟩ ∈ t.parts →
      (g'.component r).kind = .router table exits →
        ∀ m ∈ table.mappings, ∃ next, g'.beyond (g'.component r)
          m.port = .ok next) :
    g'.validate = .ok () := by
  rw [validate_eq_ok_iff] at hvalid ⊢
  intro component hcomponent table htable m hm
  obtain ⟨r, rfl⟩ := exists_component_eq hcomponent
  obtain ⟨exits, hkind⟩ := Component.exists_kind_of_table? htable
  by_cases hold : r.index < g.components.size
  · -- the table is the old one, and what was beyond it still is
    have htable' : (g.component r).table? = some table :=
      Component.table?_of_kind
        ((component_of_append hg hold).2.symm.trans hkind)
    obtain ⟨next, hnext⟩ := hvalid _ (component_mem_of_table? htable')
      table htable' m hm
    exact ⟨next, (extends_of_append hg hsources).beyond hclosed hnext⟩
  · have hpart := mem_parts_of_append hg (Nat.le_of_not_lt hold)
      (g'.lt_of_kind_eq_router hkind)
    rw [hkind] at hpart
    exact hnew r table exits hpart hkind m hm

end

end ChipFabric.Graph
