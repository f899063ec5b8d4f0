/-
Windows that cannot be taken away. Once a mapping of a router is bound to a
port, whatever is done to the graph afterwards either fails validation or
leaves the mapping leading where it led: the window keeps its mapping, the
exit keeps its binding, and a second binding would make the exit ambiguous.
-/
import ChipFabric.Proofs.Fabric.Growth
import ChipFabric.Proofs.Fabric.Reaches
import ChipFabric.Proofs.Fabric.Validation

namespace ChipFabric.Graph

variable {g : Graph} {r : ComponentId} {m : Mapping} {exit target : PortId}

theorem Declares.isForward {id : PortId} {port : Port}
    (h : g.Declares id port) :
    g.isForward id = decide (port.direction = .forward) := by
  rw [Graph.isForward, h.port_eq]

/-- In a sound table a mapping is found at all addresses of its window. -/
theorem Maps.mappingAt? (h : g.Maps r m) (hr : g.InStep r) {addr : Nat}
    (haddr : addr ∈ m.window) :
    ∃ table, (g.component r).table? = some table
      ∧ table.mappingAt? addr = some m := by
  obtain ⟨table, htable, hm⟩ := h
  obtain ⟨table', exits, hkind, hsound, -⟩ := hr
  obtain rfl :=
    Option.some.inj (htable.symm.trans (Component.table?_of_kind hkind))
  exact ⟨table, htable, hsound.mappingAt?_eq_some_iff.2 ⟨hm, haddr⟩⟩

/-- In a validated graph the mapping leads to an input. -/
theorem Serves.exists_follow (h : g.Serves r m exit target)
    (hvalid : g.validate = .ok ()) :
    ∃ input, g.follow exit = .ok input
      ∧ g.beyond (g.component r) m.port = .ok (g.port input).owner := by
  obtain ⟨table, htable, hm⟩ := h.maps
  obtain ⟨next, hnext⟩ :=
    validate_eq_ok_iff.1 hvalid _ (component_mem_of_table? htable) table
    htable m hm
  obtain ⟨exit', input, hexit, hfollow, rfl, -⟩ := beyond_eq_ok_iff.1 hnext
  obtain rfl := Option.some.inj (hexit.symm.trans h.leaves)
  exact ⟨input, hfollow, hnext⟩

/-- It is the input that the target of the binding is or leads to. -/
theorem Serves.beyond_eq (h : g.Serves r m exit target)
    (hvalid : g.validate = .ok ()) {input : PortId}
    (hreaches : g.Reaches exit input) :
    g.beyond (g.component r) m.port = .ok (g.port input).owner := by
  obtain ⟨found, hfollow, hbeyond⟩ := h.exists_follow hvalid
  obtain rfl := hreaches.eq_of_follow hfollow
  exact hbeyond

/-- Where the mapping is bound to a forward port that leads anywhere, it leads
to one input only, and the mapping to the same one. -/
theorem Serves.reachableInputs_eq (h : g.Serves r m exit target)
    (hvalid : g.validate = .ok ()) (hforward : g.isForward target = true)
    {input : PortId} (hreaches : g.Reaches target input) :
    g.reachableInputs target = .ok [input] ∧ g.follow exit = .ok input := by
  have htarget := mem_targets_iff.2 h.bound
  obtain ⟨found, hfollow, -⟩ := h.exists_follow hvalid
  obtain rfl := (Reaches.onward htarget hforward hreaches).eq_of_follow hfollow
  obtain ⟨part, hpart, hsub⟩ :=
    exists_reachableInputs_of_forward (follow_eq_ok_iff.1 hfollow)
      htarget hforward
  have hmem := (mem_reachableInputs_iff hpart).2 hreaches
  rcases List.sublist_singleton.1 hsub with rfl | rfl
  · cases hmem
  · exact ⟨hpart, hfollow⟩

end ChipFabric.Graph
