/-
What only grows. One graph grows into another if all its components, ports
and bindings are there under their numbers, and no router has lost an output,
an exit or a mapping. Every change makes a graph grow, and so does a binding
between any two ports, whether they fit or not; so growth says what can be
relied on while somebody else works on the graph.

# What stays true

Searches still find what they found (`Grows.lookup?`, `Grows.findPort?`), and
a device stays the device it is. Of a router `InStep` stays true, its table
is sound and every output of it has an exit, and `Serves`, a mapping leaves
by an exit that is bound to a port.
-/
import ChipFabric.Proofs.Fabric.Change
import Mathlib.Order.Defs.Unbundled

namespace ChipFabric

-- ============================================================= order

/-- What a kind can become. A router gets more mappings, and more outputs
with an exit for each. -/
inductive ComponentKind.Grows : ComponentKind → ComponentKind → Prop
  | same (kind : ComponentKind) : Grows kind kind
  | router {table table' : Router} {exits exits' : List PortId}
      (hmappings : table.mappings ⊆ table'.mappings)
      (hexits : exits <+: exits')
      (houtputs : table'.outputs.length + exits.length =
        table.outputs.length + exits'.length)
      (hsound : table.Sound → table'.Sound) :
      Grows (.router table exits) (.router table' exits')

/-- What a router gained in two stages, it gained. -/
theorem ComponentKind.Grows.trans {kind kind' kind'' : ComponentKind}
    (h : kind.Grows kind') (h' : kind'.Grows kind'') : kind.Grows kind'' := by
  cases h with
  | same => exact h'
  | router hmappings hexits houtputs hsound =>
    cases h' with
    | same => exact .router hmappings hexits houtputs hsound
    | router hmappings' hexits' houtputs' hsound' =>
      exact .router (List.Subset.trans hmappings hmappings')
        (hexits.trans hexits') (by omega) (hsound' ∘ hsound)

namespace Graph

variable {admits : Router → Prop} {g g' g'' : Graph}

/-- The one thing that a change does to a router is growth. -/
theorem KindStep.grows {r : ComponentId} {kind kind' : ComponentKind}
    (h : g.KindStep g' r kind kind') : kind.Grows kind' := by
  cases h with
  | same => exact .same _
  | input name =>
    exact .router (by simp) (List.prefix_refl _) (by simp) (·.withInput name)
  | mapping hstep =>
    obtain ⟨-, -, hextended⟩ := Router.addMapping_eq_ok_iff.1 hstep
    refine .router ?_ (List.prefix_refl _) ?_ (·.addMapping hstep)
    · simp [hextended]
    · simp [hextended]
  | output hstep _ _ =>
    obtain ⟨-, -, hextended⟩ := Router.declareOutput_eq_ok_iff.1 hstep
    refine .router ?_ (List.prefix_append _ _) ?_ (·.declareOutput hstep)
    · simp [hextended]
    · simp only [hextended, List.length_append, List.length_singleton]
      omega

/-- The second graph holds all that the first one does. -/
structure Grows (g g' : Graph) : Prop where
  size_le : g.components.size ≤ g'.components.size
  path_eq : ∀ id : ComponentId, id.index < g.components.size →
    g'.path id = g.path id
  kind_grows : ∀ id : ComponentId, id.index < g.components.size →
    (g.component id).kind.Grows (g'.component id).kind
  port_eq : ∀ id : PortId, id.index < g.ports.size →
    id.index < g'.ports.size ∧ g'.port id = g.port id
  mem_bindings : ∀ b ∈ g.bindings, b ∈ g'.bindings

theorem Grows.refl (g : Graph) : g.Grows g :=
  ⟨Nat.le_refl _, fun _ _ => rfl, fun _ _ => .same _, fun _ h => ⟨h, rfl⟩,
    fun _ h => h⟩

theorem Grows.trans (h : g.Grows g') (h' : g'.Grows g'') : g.Grows g'' where
  size_le := Nat.le_trans h.size_le h'.size_le
  path_eq id hid := (h'.path_eq id (Nat.lt_of_lt_of_le hid h.size_le)).trans
    (h.path_eq id hid)
  kind_grows id hid :=
    (h.kind_grows id hid).trans
      (h'.kind_grows id (Nat.lt_of_lt_of_le hid h.size_le))
  port_eq id hid := by
    obtain ⟨hlt, heq⟩ := h.port_eq id hid
    obtain ⟨hlt', heq'⟩ := h'.port_eq id hlt
    exact ⟨hlt', heq'.trans heq⟩
  mem_bindings b hb := h'.mem_bindings b (h.mem_bindings b hb)

instance : IsPreorder Graph Grows where
  refl := .refl
  trans _ _ _ := .trans

/-- Ports are not taken away, since each is still there under its number. -/
theorem Grows.ports_size_le (h : g.Grows g') :
    g.ports.size ≤ g'.ports.size := by
  by_contra hlt
  exact Nat.lt_irrefl _ (h.port_eq ⟨g'.ports.size⟩ (Nat.lt_of_not_le hlt)).1

/-- Every change adds something and takes nothing away. -/
theorem Change.grows (h : g.Change admits g') : g.Grows g' where
  size_le := h.size_le
  path_eq _ := h.path_eq
  kind_grows _ hid := (h.kindStep hid).grows
  port_eq _ := h.port_eq
  mem_bindings _ := h.mem_bindings

theorem Changes.grows (h : g.Changes admits g') : g.Grows g' := by
  induction h with
  | refl => exact .refl g
  | tail _ hchange ih => exact ih.trans hchange.grows

/-- Nothing is asked of the ports. -/
theorem grows_pushBinding (source target : PortId) :
    g.Grows (g.pushBinding source target) where
  size_le := Nat.le_refl _
  path_eq _ _ := rfl
  kind_grows _ _ := .same _
  port_eq _ hid := ⟨hid, rfl⟩
  mem_bindings _ hb := Array.mem_push_of_mem _ hb

-- ========================================================== searches

/-- What was looked up under a path still is. -/
theorem Grows.lookup? (h : g.Grows g') {path : String} {id : ComponentId}
    (hid : g.lookup? path = some id) : g'.lookup? path = some id := by
  rw [lookup?_eq_some_iff] at hid ⊢
  obtain ⟨hlt, hpath, hbefore⟩ := hid
  refine ⟨Nat.lt_of_lt_of_le hlt h.size_le,
    (h.path_eq id hlt).trans hpath, fun other hother => ?_⟩
  rw [h.path_eq other (Nat.lt_trans hother hlt)]
  exact hbefore other hother

/-- What was found under a name still is. -/
theorem Grows.findPort? (h : g.Grows g') {owner : ComponentId} {name : String}
    {id : PortId} (hid : g.findPort? owner name = some id) :
    g'.findPort? owner name = some id := by
  rw [findPort?_eq_some_iff] at hid ⊢
  obtain ⟨hlt, hport, hbefore⟩ := hid
  obtain ⟨hlt', heq⟩ := h.port_eq id hlt
  refine ⟨hlt', heq ▸ hport, fun other hother => ?_⟩
  rw [(h.port_eq other (Nat.lt_trans hother hlt)).2]
  exact hbefore other hother

/-- The port has that number, and is the one found under its name. -/
structure Declares (g : Graph) (id : PortId) (port : Port) : Prop where
  exists_port : id.index < g.ports.size
  port_eq : g.port id = port
  found : g.findPort? port.owner port.name = some id

/-- A port is declared under a name that was free. -/
theorem Declares.pushPort {port : Port}
    (hfree : g.findPort? port.owner port.name = none) :
    (g.pushPort port).Declares ⟨g.ports.size⟩ port := by
  refine ⟨by simp, g.port_pushPort_size port, ?_⟩
  rw [findPort?_pushPort, hfree, Option.none_or, if_pos ⟨rfl, rfl⟩]

/-- What was declared stays declared. -/
theorem Grows.declares (h : g.Grows g') {id : PortId} {port : Port}
    (hid : g.Declares id port) : g'.Declares id port := by
  obtain ⟨hlt, heq⟩ := h.port_eq id hid.exists_port
  exact ⟨hlt, heq.trans hid.port_eq, h.findPort? hid.found⟩

/-- A device stays the device it is. -/
theorem Grows.kind_eq_device (h : g.Grows g') {id : ComponentId}
    (hid : id.index < g.components.size) {device : Device}
    (hkind : (g.component id).kind = .device device) :
    (g'.component id).kind = .device device := by
  have hgrows := h.kind_grows id hid
  rw [hkind] at hgrows
  generalize (g'.component id).kind = kind at hgrows
  cases hgrows
  rfl

/-- A router stays a router, and keeps its mappings and its exits. -/
theorem Grows.kind_router (h : g.Grows g') {id : ComponentId} {table : Router}
    {exits : List PortId}
    (hkind : (g.component id).kind = .router table exits) :
    ∃ table' exits', (g'.component id).kind = .router table' exits'
      ∧ table.mappings ⊆ table'.mappings ∧ exits <+: exits'
      ∧ table'.outputs.length + exits.length =
        table.outputs.length + exits'.length
      ∧ (table.Sound → table'.Sound) := by
  have hgrows := h.kind_grows id (g.lt_of_kind_eq_router hkind)
  rw [hkind] at hgrows
  cases hkind' : (g'.component id).kind with
  | group => rw [hkind'] at hgrows; cases hgrows
  | device device => rw [hkind'] at hgrows; cases hgrows
  | router table' exits' =>
    rw [hkind'] at hgrows
    cases hgrows with
    | same =>
      exact ⟨_, _, rfl, List.Subset.refl _, List.prefix_refl _,
        rfl, fun hsound => hsound⟩
    | router hmappings hexits houtputs hsound =>
      exact ⟨_, _, rfl, hmappings, hexits, houtputs, hsound⟩

-- =========================================================== routers

/-- The component is a router whose table is sound, with an exit for each
output of the table. -/
def InStep (g : Graph) (r : ComponentId) : Prop :=
  ∃ table exits, (g.component r).kind = .router table exits ∧ table.Sound
    ∧ exits.length = table.outputs.length

/-- Outputs and exits come in pairs, so those that were in step still are. -/
theorem Grows.inStep (h : g.Grows g') {r : ComponentId} (hr : g.InStep r) :
    g'.InStep r := by
  obtain ⟨table, exits, hkind, hsound, hlength⟩ := hr
  obtain ⟨table', exits', hkind', -, -, houtputs, hsound'⟩ :=
    h.kind_router hkind
  exact ⟨table', exits', hkind', hsound' hsound, by omega⟩

/-- An output that has an exit keeps it. -/
theorem Grows.exit? (h : g.Grows g') {r : ComponentId} {port : RouterPort}
    {exit : PortId} (hexit : (g.component r).exit? port = some exit) :
    (g'.component r).exit? port = some exit := by
  cases hkind : (g.component r).kind with
  | group => simp [Component.exit?, hkind] at hexit
  | device device => simp [Component.exit?, hkind] at hexit
  | router table exits =>
    obtain ⟨table', exits', hkind', -, hexits, -, -⟩ := h.kind_router hkind
    rw [Component.exit?_of_kind hkind] at hexit
    obtain ⟨hlt, rfl⟩ := List.getElem?_eq_some_iff.1 hexit
    rw [Component.exit?_of_kind hkind']
    exact List.prefix_iff_getElem?.1 hexits _ hlt

/-- The mapping is in the table of the router. -/
def Maps (g : Graph) (r : ComponentId) (m : Mapping) : Prop :=
  ∃ table, (g.component r).table? = some table ∧ m ∈ table.mappings

/-- A mapping stays in the table. -/
theorem Grows.maps (h : g.Grows g') {r : ComponentId} {m : Mapping}
    (hm : g.Maps r m) : g'.Maps r m := by
  obtain ⟨table, htable, hm⟩ := hm
  obtain ⟨exits, hkind⟩ := Component.exists_kind_of_table? htable
  obtain ⟨table', exits', hkind', hmappings, -, -, -⟩ := h.kind_router hkind
  exact ⟨table', Component.table?_of_kind hkind', hmappings hm⟩

/-- The mapping is one of the router's, and leaves by an exit that is bound
to the target. -/
structure Serves (g : Graph) (r : ComponentId) (m : Mapping)
    (exit target : PortId) : Prop where
  maps : g.Maps r m
  leaves : (g.component r).exit? m.port = some exit
  bound : ⟨exit, target⟩ ∈ g.bindings

/-- A mapping that leads to a port goes on leading there. -/
theorem Grows.serves (h : g.Grows g') {r : ComponentId} {m : Mapping}
    {exit target : PortId} (hserves : g.Serves r m exit target) :
    g'.Serves r m exit target :=
  ⟨h.maps hserves.maps, h.exit? hserves.leaves, h.mem_bindings _ hserves.bound⟩

end Graph

end ChipFabric
