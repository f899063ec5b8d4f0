/-
The inventory of a graph: the paths and kinds of its components, its ports
and its bindings, each in the order of their numbers. Child lists and port
lists are not part of it; nothing that builds or routes ever asks for them.
So a large graph can be written down as a sum of small inventories, and what
a building step does is to add one to it.

# The invariant

`Inventory.Sound`: ports have owners and bindings have ends, paths are
distinct, and so are the names of the ports of one component, and the tables
are sound. Distinct names make searching the same as indexing
(`lookup?_of_sound`, `findPort?_of_sound`).
-/
import ChipFabric.Proofs.Fabric.Closed

namespace ChipFabric

-- ======================================================= inventories

/-- A component as far as building and routing look at it. -/
structure Part where
  path : String
  kind : ComponentKind

/-- The parts, ports and bindings of a graph. -/
@[ext] structure Inventory where
  parts : List Part
  ports : List Port
  bindings : List Binding

def Graph.inventory (g : Graph) : Inventory where
  parts := g.components.toList.map fun c => ⟨c.path, c.kind⟩
  ports := g.ports.toList
  bindings := g.bindings.toList

namespace Inventory

/-- What stands in the second inventory has the numbers after the first. -/
instance : Append Inventory where
  append s t :=
    ⟨s.parts ++ t.parts, s.ports ++ t.ports, s.bindings ++ t.bindings⟩

@[simp] theorem parts_append (s t : Inventory) :
    (s ++ t).parts = s.parts ++ t.parts := rfl

@[simp] theorem ports_append (s t : Inventory) :
    (s ++ t).ports = s.ports ++ t.ports := rfl

@[simp] theorem bindings_append (s t : Inventory) :
    (s ++ t).bindings = s.bindings ++ t.bindings := rfl

/-- Sums of inventories need no brackets. -/
theorem append_assoc (s t u : Inventory) : s ++ t ++ u = s ++ (t ++ u) := by
  ext1 <;> simp

@[simp] theorem append_nil (s : Inventory) : s ++ ⟨[], [], []⟩ = s := by
  ext1 <;> simp

@[simp] theorem nil_append (s : Inventory) : ⟨[], [], []⟩ ++ s = s := rfl

/-- What stands in the second inventory is found after the first. -/
theorem getElem?_parts_append {s t : Inventory} {n k : Nat} {part : Part}
    (hn : s.parts.length = n) (h : t.parts[k]? = some part) :
    (s ++ t).parts[n + k]? = some part := by
  rw [parts_append, ← hn, List.getElem?_append_right (Nat.le_add_right _ _),
    Nat.add_sub_cancel_left, h]

/-- So are its ports. -/
theorem getElem?_ports_append {s t : Inventory} {p k : Nat} {port : Port}
    (hp : s.ports.length = p) (h : t.ports[k]? = some port) :
    (s ++ t).ports[p + k]? = some port := by
  rw [ports_append, ← hp, List.getElem?_append_right (Nat.le_add_right _ _),
    Nat.add_sub_cancel_left, h]

/-- The inventories of a row, one after the other. -/
def join (rows : List Inventory) : Inventory where
  parts := rows.flatMap (·.parts)
  ports := rows.flatMap (·.ports)
  bindings := rows.flatMap (·.bindings)

/-- Two rows one after the other are joined as one. -/
theorem join_append (rows more : List Inventory) :
    join (rows ++ more) = join rows ++ join more := by
  ext1 <;> simp [join]

@[simp] theorem join_singleton (s : Inventory) : join [s] = s := by
  ext1 <;> simp [join]

/-- The inventory with one component of another kind. -/
def withKind (s : Inventory) (id : ComponentId) (kind : ComponentKind) :
    Inventory :=
  { s with parts := s.parts.modify id.index fun part => { part with kind } }

@[simp] theorem length_parts_withKind (s : Inventory) (id : ComponentId)
    (kind : ComponentKind) :
    (s.withKind id kind).parts.length = s.parts.length :=
  List.length_modify _ _ _

/-- The component keeps its path and has the new kind. -/
theorem getElem?_withKind (s : Inventory) {id : ComponentId} {path : String}
    {old : ComponentKind} (h : s.parts[id.index]? = some ⟨path, old⟩)
    (kind : ComponentKind) :
    (s.withKind id kind).parts[id.index]? = some ⟨path, kind⟩ := by
  simp [withKind, h]

/-- Of two kinds that a component is given, the last one stays. -/
theorem withKind_withKind (s : Inventory) (id : ComponentId)
    (first last : ComponentKind) :
    (s.withKind id first).withKind id last = s.withKind id last := by
  ext1
  · exact List.modify_modify_eq _ _ _ _
  · rfl
  · rfl

/-- Ports and bindings that are added leave kinds alone. -/
theorem withKind_append (s : Inventory) (id : ComponentId)
    (kind : ComponentKind) (ports : List Port) (bindings : List Binding) :
    (s ++ ⟨[], ports, bindings⟩).withKind id kind =
      s.withKind id kind ++ ⟨[], ports, bindings⟩ := by
  ext1 <;> simp [withKind]

/-- Nor does what comes later change a component that was there. -/
theorem withKind_append_of_lt {s : Inventory} {id : ComponentId}
    (h : id.index < s.parts.length) (t : Inventory) (kind : ComponentKind) :
    (s ++ t).withKind id kind = s.withKind id kind ++ t := by
  ext1
  · refine List.ext_getElem? fun i => ?_
    simp only [withKind, parts_append, List.getElem?_modify,
      List.getElem?_append, List.length_modify]
    by_cases hi : i < s.parts.length
    · simp [hi]
    · have hne : id.index ≠ i := by omega
      simp [hi, hne]
  · rfl
  · rfl

/-- A component that came later is one of the later ones. -/
theorem withKind_append_of_le {s : Inventory} {n : Nat}
    (hn : s.parts.length = n) (k : Nat) (t : Inventory)
    (kind : ComponentKind) :
    (s ++ t).withKind ⟨n + k⟩ kind = s ++ t.withKind ⟨k⟩ kind := by
  ext1
  · refine List.ext_getElem? fun i => ?_
    simp only [withKind, parts_append, List.getElem?_modify,
      List.getElem?_append, hn]
    by_cases hi : i < n
    · have hne : n + k ≠ i := by omega
      simp [hi, hne]
    · have hiff : n + k = i ↔ k = i - n := by omega
      simp [hi, hiff]
  · rfl
  · rfl

/-- A change of kind is none of paths. -/
@[simp] theorem paths_withKind (s : Inventory) (id : ComponentId)
    (kind : ComponentKind) :
    (s.withKind id kind).parts.map (·.path) = s.parts.map (·.path) := by
  refine List.ext_getElem? fun i => ?_
  simp only [withKind, List.getElem?_map, List.getElem?_modify]
  cases s.parts[i]? with
  | none => rfl
  | some part => by_cases h : id.index = i <;> simp [h]

def targets (s : Inventory) (source : PortId) : List PortId :=
  (s.bindings.filter (·.source = source)).map (·.target)

/-- The bindings of either inventory count, the first ones first. -/
theorem targets_append (s t : Inventory) (source : PortId) :
    (s ++ t).targets source = s.targets source ++ t.targets source := by
  simp [targets]

/-- A port that starts no binding leads nowhere. -/
theorem targets_eq_nil {s : Inventory} {source : PortId}
    (h : ∀ b ∈ s.bindings, b.source.index ≠ source.index) :
    s.targets source = [] := by
  have hnone : s.bindings.filter (·.source = source) = [] := by
    rw [List.filter_eq_nil_iff]
    intro b hb
    rw [decide_eq_true_eq]
    rintro rfl
    exact h b hb rfl
  rw [targets, hnone, List.map_nil]

def LacksPath (s : Inventory) (path : String) : Prop :=
  ∀ part ∈ s.parts, part.path ≠ path

/-- The component has no port of that name. -/
def LacksPort (s : Inventory) (owner : ComponentId) (name : String) : Prop :=
  ∀ port ∈ s.ports, ¬ (port.owner = owner ∧ port.name = name)

/-- A path is free if both inventories lack it. -/
theorem lacksPath_append {s t : Inventory} {path : String} :
    (s ++ t).LacksPath path ↔ s.LacksPath path ∧ t.LacksPath path :=
  List.forall_mem_append

/-- A name is free on a component if both inventories lack it there. -/
theorem lacksPort_append {s t : Inventory} {owner : ComponentId}
    {name : String} :
    (s ++ t).LacksPort owner name ↔ s.LacksPort owner name
      ∧ t.LacksPort owner name :=
  List.forall_mem_append

/-- A device that answers, with its input. -/
def terminal (n : Nat) (path : String) (device : Device) : Inventory where
  parts := [⟨path, .device device⟩]
  ports := [⟨⟨n⟩, Router.defaultInput, .input, Signal.io.signature⟩]
  bindings := []

/-- A router as it is made, with its input. -/
def newRouter (n : Nat) (path name : String) (bandwidth : Nat) :
    Inventory where
  parts := [⟨path, .router (.new name bandwidth) []⟩]
  ports := [⟨⟨n⟩, Router.defaultInput, .input, Signal.io.signature⟩]
  bindings := []

-- ========================================================= invariant

/-- An inventory without loose ends, without double names, and with sound
tables. -/
structure Sound (s : Inventory) : Prop where
  owner : ∀ port ∈ s.ports, port.owner.index < s.parts.length
  ends : ∀ b ∈ s.bindings, b.source.index < s.ports.length
    ∧ b.target.index < s.ports.length
  paths_nodup : (s.parts.map (·.path)).Nodup
  ports_nodup : (s.ports.map fun port => (port.owner, port.name)).Nodup
  tables : ∀ part ∈ s.parts, ∀ table exits, part.kind = .router table exits →
    table.Sound

variable {s : Inventory}

/-- A component that is not there has no ports. -/
theorem Sound.lacksPort (h : s.Sound) (owner : ComponentId)
    (howner : s.parts.length ≤ owner.index) (name : String) :
    s.LacksPort owner name := by
  rintro port hport ⟨rfl, -⟩
  exact absurd (h.owner port hport) (Nat.not_lt.2 howner)

/-- A part may be added under a path that is free; a router needs a sound
table. -/
theorem Sound.pushPart (h : s.Sound) {part : Part}
    (hpath : s.LacksPath part.path)
    (htable : ∀ table exits, part.kind = .router table exits → table.Sound) :
    (s ++ ⟨[part], [], []⟩).Sound where
  owner port hport := by
    rw [ports_append, List.append_nil] at hport
    simpa using Nat.lt_succ_of_lt (h.owner port hport)
  ends := by simpa using h.ends
  paths_nodup := by
    have hnew : part.path ∉ s.parts.map (·.path) := by
      rintro hmem
      obtain ⟨other, hother, heq⟩ := List.mem_map.1 hmem
      exact hpath other hother heq
    simpa using List.Nodup.concat hnew h.paths_nodup
  ports_nodup := by simpa using h.ports_nodup
  tables other hother := by
    rcases List.mem_append.1 hother with hother | hother
    · exact h.tables other hother
    · rw [List.mem_singleton] at hother
      subst hother
      exact htable

/-- A port may be added to a component that is there, under a name that is
free on it. -/
theorem Sound.pushPort (h : s.Sound) {port : Port}
    (howner : port.owner.index < s.parts.length)
    (hname : s.LacksPort port.owner port.name) :
    (s ++ ⟨[], [port], []⟩).Sound where
  owner other hother := by
    rw [parts_append, List.append_nil]
    rcases List.mem_append.1 hother with hother | hother
    · exact h.owner other hother
    · rw [List.mem_singleton] at hother
      exact hother ▸ howner
  ends b hb := by
    rw [bindings_append, List.append_nil] at hb
    obtain ⟨hsource, htarget⟩ := h.ends b hb
    simp only [ports_append, List.length_append, List.length_singleton]
    omega
  paths_nodup := by simpa using h.paths_nodup
  ports_nodup := by
    have hnew : (port.owner, port.name) ∉ s.ports.map fun port =>
        (port.owner, port.name) := by
      intro hmem
      obtain ⟨other, hother, heq⟩ := List.mem_map.1 hmem
      exact hname other hother (Prod.mk.inj heq)
    simpa using List.Nodup.concat hnew h.ports_nodup
  tables := by simpa using h.tables

/-- A binding may be added between ports that are there. -/
theorem Sound.pushBinding (h : s.Sound) {b : Binding}
    (hsource : b.source.index < s.ports.length)
    (htarget : b.target.index < s.ports.length) :
    (s ++ ⟨[], [], [b]⟩).Sound where
  owner := by simpa using h.owner
  ends other hother := by
    rw [ports_append, List.append_nil]
    rcases List.mem_append.1 hother with hother | hother
    · exact h.ends other hother
    · rw [List.mem_singleton] at hother
      exact hother ▸ ⟨hsource, htarget⟩
  paths_nodup := by simpa using h.paths_nodup
  ports_nodup := by simpa using h.ports_nodup
  tables := by simpa using h.tables

/-- A component may be given another kind; a router needs a sound table. -/
theorem Sound.withKind (h : s.Sound) (id : ComponentId) {kind : ComponentKind}
    (htable : ∀ table exits, kind = .router table exits → table.Sound) :
    (s.withKind id kind).Sound where
  owner port hport := by
    rw [length_parts_withKind]
    exact h.owner port hport
  ends := h.ends
  paths_nodup := by
    rw [paths_withKind]
    exact h.paths_nodup
  ports_nodup := h.ports_nodup
  tables part hpart := by
    obtain ⟨i, hi⟩ := List.mem_iff_getElem?.1 hpart
    simp only [Inventory.withKind, List.getElem?_modify, Option.map_eq_map,
      Option.map_eq_some_iff] at hi
    obtain ⟨old, hold, rfl⟩ := hi
    by_cases hsame : id.index = i
    · rw [if_pos hsame]
      exact htable
    · rw [if_neg hsame]
      exact h.tables old (List.mem_of_getElem? hold)

end Inventory

-- ============================================================ graphs

namespace Graph

variable {g : Graph}

theorem size_components_eq : g.components.size = g.inventory.parts.length := by
  simp [inventory]

theorem size_ports_eq : g.ports.size = g.inventory.ports.length := rfl

/-- What the inventory says of a part is so. -/
theorem component_of_inventory (id : ComponentId) {part : Part}
    (h : g.inventory.parts[id.index]? = some part) :
    g.path id = part.path ∧ (g.component id).kind = part.kind := by
  simp only [inventory, List.getElem?_map, Array.getElem?_toList,
    Option.map_eq_some_iff] at h
  obtain ⟨c, hc, rfl⟩ := h
  simp [path, component, hc]

/-- A component that is there is a part of the inventory, under its number. -/
theorem part_of_lt {id : ComponentId} (h : id.index < g.components.size) :
    g.inventory.parts[id.index]? =
      some ⟨g.path id, (g.component id).kind⟩ := by
  simp [inventory, path, component, h]

/-- And of a port. -/
theorem port_of_inventory (id : PortId) {port : Port}
    (h : g.inventory.ports[id.index]? = some port) : g.port id = port := by
  simp only [inventory, Array.getElem?_toList] at h
  simp [Graph.port, h]

/-- Searches go the same way through an array and through its list. -/
theorem findIdx?_toList {α : Type} (p : α → Bool) (values : Array α) :
    values.toList.findIdx? p = values.findIdx? p := by
  rcases values with ⟨values⟩
  simp

/-- A list of distinct keys is searched by its positions. -/
theorem findIdx?_key {α β : Type} [DecidableEq β] {key : α → β}
    {values : List α} (h : (values.map key).Nodup) {i : Nat} {a : α}
    (hi : values[i]? = some a) :
    values.findIdx? (fun b => key b = key a) = some i := by
  obtain ⟨hlt, rfl⟩ := List.getElem?_eq_some_iff.1 hi
  refine List.findIdx?_eq_some_iff_getElem.2 ⟨hlt, by simp, fun j hj => ?_⟩
  have hne := List.pairwise_iff_getElem.1 h j i (by simp; omega)
    (by simpa using hlt) hj
  simpa using hne

/-- A path that the inventory lacks is not found. -/
theorem lookup?_eq_none {path : String} (h : g.inventory.LacksPath path) :
    g.lookup? path = none := by
  rw [lookup?, ← findIdx?_toList]
  simp only [Inventory.LacksPath, inventory, List.forall_mem_map] at h
  simpa only [Option.map_eq_none_iff, List.findIdx?_eq_none_iff,
    decide_eq_false_iff_not] using h

/-- A component is looked up under its path. -/
theorem lookup?_of_sound (hs : g.inventory.Sound) (id : ComponentId)
    {part : Part} (h : g.inventory.parts[id.index]? = some part) :
    g.lookup? part.path = some id := by
  have hfind := findIdx?_key hs.paths_nodup h
  simp only [inventory, List.findIdx?_map] at hfind
  rw [lookup?, ← findIdx?_toList]
  exact congrArg (Option.map ComponentId.mk) hfind

/-- Nor is a name that it lacks. -/
theorem findPort?_eq_none {owner : ComponentId} {name : String}
    (h : g.inventory.LacksPort owner name) :
    g.findPort? owner name = none := by
  rw [findPort?, ← findIdx?_toList]
  simp only [Option.map_eq_none_iff, List.findIdx?_eq_none_iff,
    decide_eq_false_iff_not]
  exact h

/-- A port is found under its owner and name. -/
theorem findPort?_of_sound (hs : g.inventory.Sound) (id : PortId) {port : Port}
    (h : g.inventory.ports[id.index]? = some port) :
    g.findPort? port.owner port.name = some id := by
  have hfind := findIdx?_key hs.ports_nodup h
  rw [findPort?, ← findIdx?_toList]
  simp only [Prod.mk.injEq] at hfind
  exact congrArg (Option.map PortId.mk) hfind

-- =========================================================== updates

/-- A change to child lists or port lists only is none to the inventory. -/
theorem inventory_modifyComponent_same (id : ComponentId)
    {change : Component → Component} (h : ∀ c, (change c).path = c.path
      ∧ (change c).kind = c.kind) :
    (g.modifyComponent id change).inventory = g.inventory := by
  ext1
  · refine List.ext_getElem? fun i => ?_
    simp only [inventory, modifyComponent, Array.toList_modify,
      List.getElem?_map, List.getElem?_modify]
    cases g.components.toList[i]? with
    | none => rfl
    | some c => by_cases hsame : id.index = i <;> simp [hsame, h c]
  · rfl
  · rfl

/-- A change to the kind of a component is the same to the inventory. -/
theorem inventory_modifyComponent (id : ComponentId)
    {change : Component → Component} {kind : ComponentKind}
    (h : (change (g.component id)).path = g.path id
      ∧ (change (g.component id)).kind = kind) :
    (g.modifyComponent id change).inventory = g.inventory.withKind id
      kind := by
  ext1
  · refine List.ext_getElem? fun i => ?_
    simp only [inventory, Inventory.withKind, modifyComponent,
      Array.toList_modify, List.getElem?_map, List.getElem?_modify]
    by_cases hsame : id.index = i
    · subst hsame
      cases hc : g.components[id.index]? with
      | none => simp [hc]
      | some c =>
        rw [path, component, hc, Option.getD_some] at h
        simp [hc, h]
    · simp [hsame]
  · rfl
  · rfl

/-- A child adds a part, whatever its parent. -/
theorem inventory_pushChild (parent : ComponentId) (name path : String)
    (kind : ComponentKind) :
    (g.pushChild parent name path kind).inventory = g.inventory
      ++ ⟨[⟨path, kind⟩], [], []⟩ := by
  refine (inventory_modifyComponent_same parent ?_).trans ?_
  · exact fun _ => ⟨rfl, rfl⟩
  · ext1 <;> simp [inventory]

/-- A port adds itself. -/
theorem inventory_pushPort (port : Port) :
    (g.pushPort port).inventory = g.inventory ++ ⟨[], [port], []⟩ := by
  refine (inventory_modifyComponent_same port.owner ?_).trans ?_
  · exact fun _ => ⟨rfl, rfl⟩
  · ext1 <;> simp [inventory]

/-- A binding adds itself. -/
theorem inventory_pushBinding (source target : PortId) :
    (g.pushBinding source target).inventory = g.inventory
      ++ ⟨[], [], [⟨source, target⟩]⟩ := by
  ext1 <;> simp [inventory, pushBinding]

/-- Another table is another kind, with the exits that were there. -/
theorem inventory_setTable {id : ComponentId} {table : Router}
    {exits : List PortId} (h : (g.component id).kind = .router table exits)
    (next : Router) :
    (g.setTable id next).inventory = g.inventory.withKind id
      (.router next exits) :=
  inventory_modifyComponent id (by simp [h, path])

/-- One more exit is another kind, with the table that was there. -/
theorem inventory_pushExit {id : ComponentId} {table : Router}
    {exits : List PortId} (h : (g.component id).kind = .router table exits)
    (exit : PortId) :
    (g.pushExit id exit).inventory = g.inventory.withKind id
      (.router table (exits ++ [exit])) :=
  inventory_modifyComponent id (by simp [h, path])

end Graph

end ChipFabric
