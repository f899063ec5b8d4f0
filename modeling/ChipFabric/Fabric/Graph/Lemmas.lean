/-
What growing a graph does to what stands in it. Components and ports that
are there keep their numbers; a new one gets the next number; and only the
component that is named changes.
-/
import ChipFabric.Fabric.Graph
import Mathlib.Tactic.ByContra

namespace ChipFabric

theorem Component.table?_of_kind {component : Component} {table : Router}
    {exits : List PortId} (h : component.kind = .router table exits) :
    component.table? = some table := by
  rw [table?, h]

theorem Component.exit?_of_kind {component : Component} {table : Router}
    {exits : List PortId} (h : component.kind = .router table exits)
    (port : RouterPort) : component.exit? port = exits[port.index]? := by
  rw [exit?, h]

/-- What has a table is a router with exits. -/
theorem Component.exists_kind_of_table? {component : Component}
    {table : Router} (h : component.table? = some table) :
    ∃ exits, component.kind = .router table exits := by
  rw [table?] at h
  cases hkind : component.kind with
  | router table' exits =>
    rw [hkind] at h
    obtain rfl := Option.some.inj h
    exact ⟨exits, rfl⟩
  | group => simp [hkind] at h
  | device device => simp [hkind] at h

/-- What routes has a table and exits. -/
theorem Component.exists_kind_of_isRouter {component : Component}
    (h : component.isRouter) :
    ∃ table exits, component.kind = .router table exits := by
  obtain ⟨table, htable⟩ := Option.isSome_iff_exists.1 h
  exact ⟨table, exists_kind_of_table? htable⟩

/-- What answers accesses is a device that does. -/
theorem Component.exists_kind_of_isTerminal {component : Component}
    (h : component.isTerminal) :
    ∃ device, component.kind = .device device ∧ device.isTerminal := by
  rw [Component.isTerminal, Component.device?] at h
  cases hkind : component.kind with
  | device device =>
    rw [hkind] at h
    exact ⟨device, rfl, h⟩
  | group =>
    rw [hkind] at h
    cases h
  | router table exits =>
    rw [hkind] at h
    cases h

namespace Graph

variable (g : Graph)

-- ============================================================= changes

/-- Only the component that is named changes, and only if it exists. -/
theorem component_modifyComponent (id other : ComponentId)
    (change : Component → Component) :
    (g.modifyComponent id change).component other =
      if id = other ∧ id.index < g.components.size then
        change (g.component other)
      else g.component other := by
  obtain ⟨i⟩ := id
  obtain ⟨j⟩ := other
  simp only [modifyComponent, component, Array.getElem?_modify,
    ComponentId.mk.injEq]
  by_cases hsame : i = j
  · subst hsame
    by_cases hin : i < g.components.size
    · simp [hin]
    · simp [hin]
  · simp [hsame]

@[simp] theorem ports_modifyComponent (id : ComponentId)
    (change : Component → Component) :
    (g.modifyComponent id change).ports = g.ports := rfl

@[simp] theorem bindings_modifyComponent (id : ComponentId)
    (change : Component → Component) :
    (g.modifyComponent id change).bindings = g.bindings := rfl

@[simp] theorem size_modifyComponent (id : ComponentId)
    (change : Component → Component) :
    (g.modifyComponent id change).components.size = g.components.size := by
  simp [modifyComponent]

@[simp] theorem ports_setTable (id : ComponentId) (table : Router) :
    (g.setTable id table).ports = g.ports := rfl

@[simp] theorem findPort?_setTable (id : ComponentId) (table : Router) :
    (g.setTable id table).findPort? = g.findPort? := rfl

@[simp] theorem size_setTable (id : ComponentId) (table : Router) :
    (g.setTable id table).components.size = g.components.size :=
  g.size_modifyComponent id _

@[simp] theorem size_pushExit (id : ComponentId) (exit : PortId) :
    (g.pushExit id exit).components.size = g.components.size :=
  g.size_modifyComponent id _

@[simp] theorem ports_pushExit (id : ComponentId) (exit : PortId) :
    (g.pushExit id exit).ports = g.ports := rfl

@[simp] theorem size_pushPort (port : Port) :
    (g.pushPort port).components.size = g.components.size :=
  size_modifyComponent _ port.owner _

@[simp] theorem ports_pushPort (port : Port) :
    (g.pushPort port).ports = g.ports.push port := rfl

@[simp] theorem size_pushChild (parent : ComponentId) (name path : String)
    (kind : ComponentKind) :
    (g.pushChild parent name path kind).components.size =
      g.components.size + 1 := by
  simp [pushChild]

@[simp] theorem ports_pushChild (parent : ComponentId) (name path : String)
    (kind : ComponentKind) : (g.pushChild parent name path kind).ports =
      g.ports := rfl

-- =============================================================== paths

/-- A change to anything but the path leaves all paths as they are. -/
theorem path_modifyComponent (id other : ComponentId)
    {change : Component → Component} (h : ∀ c, (change c).path = c.path) :
    (g.modifyComponent id change).path other = g.path other := by
  rw [path, component_modifyComponent]
  split
  · exact h _
  · rfl

@[simp] theorem path_setTable (id other : ComponentId) (table : Router) :
    (g.setTable id table).path other = g.path other :=
  g.path_modifyComponent id other fun c => by split <;> rfl

@[simp] theorem path_pushExit (id other : ComponentId) (exit : PortId) :
    (g.pushExit id exit).path other = g.path other :=
  g.path_modifyComponent id other fun c => by split <;> rfl

@[simp] theorem path_pushPort (id : ComponentId) (port : Port) :
    (g.pushPort port).path id = g.path id := by
  rw [pushPort, path_modifyComponent]
  · rfl
  · exact fun _ => rfl

@[simp] theorem path_pushBinding (id : ComponentId) (source target : PortId) :
    (g.pushBinding source target).path id = g.path id := rfl

/-- A new component leaves the paths of the others as they are. -/
theorem path_pushChild {id : ComponentId} (h : id.index < g.components.size)
    (parent : ComponentId) (name path : String) (kind : ComponentKind) :
    (g.pushChild parent name path kind).path id = g.path id := by
  have hold : id.index ≠ g.components.size := Nat.ne_of_lt h
  rw [pushChild, path_modifyComponent]
  · simp [Graph.path, component, Array.getElem?_push, hold]
  · exact fun _ => rfl

-- =============================================================== kinds

/-- A component has a table exactly if it is a router. -/
theorem router_eq_ok_iff {id : ComponentId} {table : Router} :
    g.router id = .ok table ↔
      ∃ exits, (g.component id).kind = .router table exits := by
  rw [router, Component.table?]
  cases (g.component id).kind <;> simp

/-- Only a component that exists is a router. -/
theorem lt_of_kind_eq_router {id : ComponentId} {table : Router}
    {exits : List PortId} (h : (g.component id).kind = .router table exits) :
    id.index < g.components.size := by
  by_contra hout
  rw [component, Array.getElem?_eq_none (Nat.le_of_not_lt hout)] at h
  cases h

/-- A new component leaves the kinds of the others as they are. -/
theorem kind_pushChild {id : ComponentId} (h : id.index < g.components.size)
    (parent : ComponentId) (name path : String) (kind : ComponentKind) :
    ((g.pushChild parent name path kind).component id).kind =
      (g.component id).kind := by
  have hold : id.index ≠ g.components.size := Nat.ne_of_lt h
  rw [pushChild, component_modifyComponent]
  split <;> simp [component, Array.getElem?_push, hold]

/-- Declaring a port leaves all kinds as they are. -/
@[simp] theorem kind_pushPort (id : ComponentId) (port : Port) :
    ((g.pushPort port).component id).kind = (g.component id).kind := by
  rw [pushPort, component_modifyComponent]
  split <;> rfl

@[simp] theorem kind_pushBinding (id : ComponentId) (source target : PortId) :
    ((g.pushBinding source target).component id).kind =
      (g.component id).kind := rfl

/-- A new table replaces the one of its router and no other. -/
theorem kind_setTable {id : ComponentId} {table : Router} {exits : List PortId}
    (h : (g.component id).kind = .router table exits) (other : ComponentId)
    (next : Router) :
    ((g.setTable id next).component other).kind =
      if id = other then .router next exits else (g.component other).kind := by
  rw [setTable, component_modifyComponent]
  by_cases hsame : id = other
  · subst hsame
    simp [h, g.lt_of_kind_eq_router h]
  · simp [hsame]

theorem kind_setTable_self {id : ComponentId} {table : Router}
    {exits : List PortId} (h : (g.component id).kind = .router table exits)
    (next : Router) :
    ((g.setTable id next).component id).kind = .router next exits :=
  (g.kind_setTable h id next).trans (if_pos rfl)

/-- A new exit is the last of its router, and no other router gets one. -/
theorem kind_pushExit {id : ComponentId} {table : Router} {exits : List PortId}
    (h : (g.component id).kind = .router table exits) (other : ComponentId)
    (exit : PortId) :
    ((g.pushExit id exit).component other).kind =
      if id = other then .router table (exits ++ [exit])
        else (g.component other).kind := by
  rw [pushExit, component_modifyComponent]
  by_cases hsame : id = other
  · subst hsame
    simp [h, g.lt_of_kind_eq_router h]
  · simp [hsame]

/-- Declaring an output with its port and exit changes one router only. -/
theorem kind_pushOutput {id : ComponentId} {table : Router}
    {exits : List PortId} (h : (g.component id).kind = .router table exits)
    (other : ComponentId) (next : Router) (port : Port) (exit : PortId) :
    ((((g.setTable id next).pushPort port).pushExit id exit).component
      other).kind =
      if id = other then .router next (exits ++ [exit])
        else (g.component other).kind := by
  have hset : (((g.setTable id next).pushPort port).component id).kind =
      .router next exits :=
    (kind_pushPort _ _ _).trans (g.kind_setTable_self h next)
  rw [kind_pushExit _ hset, kind_pushPort, g.kind_setTable h]
  by_cases hsame : id = other
  · rw [if_pos hsame, if_pos hsame]
  · rw [if_neg hsame, if_neg hsame, if_neg hsame]

-- ============================================================== search

/-- Nothing is found exactly if no port of that owner has that name. -/
theorem findPort?_eq_none_iff {owner : ComponentId} {name : String} :
    g.findPort? owner name = none ↔
      ∀ id : PortId, id.index < g.ports.size →
        ¬ ((g.port id).owner = owner ∧ (g.port id).name = name) := by
  simp only [findPort?, Option.map_eq_none_iff, Array.findIdx?_eq_none_iff,
    decide_eq_false_iff_not]
  constructor
  · intro h id hid
    simpa [Graph.port, hid] using h g.ports[id.index] (Array.getElem_mem hid)
  · intro h port hport
    obtain ⟨i, hi, rfl⟩ := Array.mem_iff_getElem.1 hport
    simpa [Graph.port, hi] using h ⟨i⟩ hi

/-- The port that is found is the first that has that owner and that name. -/
theorem findPort?_eq_some_iff {owner : ComponentId} {name : String}
    {id : PortId} :
    g.findPort? owner name = some id ↔
      id.index < g.ports.size
        ∧ ((g.port id).owner = owner ∧ (g.port id).name = name)
        ∧ ∀ other : PortId, other.index < id.index →
          ¬ ((g.port other).owner = owner ∧ (g.port other).name = name) := by
  obtain ⟨i⟩ := id
  simp only [findPort?, Option.map_eq_some_iff, PortId.mk.injEq,
    exists_eq_right, Array.findIdx?_eq_some_iff_getElem, decide_eq_true_eq]
  constructor
  · rintro ⟨hlt, hport, hbefore⟩
    refine ⟨hlt, by simpa [Graph.port, hlt] using hport,
      fun other hother => ?_⟩
    have hlt' : other.index < g.ports.size := Nat.lt_trans hother hlt
    simpa [Graph.port, hlt'] using hbefore other.index hother
  · rintro ⟨hlt, hport, hbefore⟩
    refine ⟨hlt, by simpa [Graph.port, hlt] using hport, fun j hj => ?_⟩
    have hlt' : j < g.ports.size := Nat.lt_trans hj hlt
    simpa [Graph.port, hlt'] using hbefore ⟨j⟩ hj

/-- A port that is found exists and has that owner and that name. -/
theorem port_of_findPort? {owner : ComponentId} {name : String} {id : PortId}
    (h : g.findPort? owner name = some id) :
    id.index < g.ports.size ∧ (g.port id).owner = owner
      ∧ (g.port id).name = name := by
  obtain ⟨hlt, hport, -⟩ := g.findPort?_eq_some_iff.1 h
  exact ⟨hlt, hport⟩

/-- The component that is looked up is the first at that path. -/
theorem lookup?_eq_some_iff {path : String} {id : ComponentId} :
    g.lookup? path = some id ↔
      id.index < g.components.size ∧ g.path id = path
        ∧ ∀ other : ComponentId, other.index < id.index →
          g.path other ≠ path := by
  obtain ⟨i⟩ := id
  simp only [lookup?, Option.map_eq_some_iff, ComponentId.mk.injEq,
    exists_eq_right, Array.findIdx?_eq_some_iff_getElem, decide_eq_true_eq]
  constructor
  · rintro ⟨hlt, hpath, hbefore⟩
    refine ⟨hlt, by simpa [Graph.path, component, hlt] using hpath,
      fun other hother => ?_⟩
    have hlt' : other.index < g.components.size := Nat.lt_trans hother hlt
    simpa [Graph.path, component, hlt'] using hbefore other.index hother
  · rintro ⟨hlt, hpath, hbefore⟩
    refine ⟨hlt, by simpa [Graph.path, component, hlt] using hpath,
      fun j hj => ?_⟩
    have hlt' : j < g.components.size := Nat.lt_trans hj hlt
    simpa [Graph.path, component, hlt'] using hbefore ⟨j⟩ hj

/-- Nothing is looked up exactly if no component is at that path. -/
theorem lookup?_eq_none_iff {path : String} :
    g.lookup? path = none ↔
      ∀ id : ComponentId, id.index < g.components.size → g.path id ≠ path := by
  simp only [lookup?, Option.map_eq_none_iff, Array.findIdx?_eq_none_iff,
    decide_eq_false_iff_not]
  constructor
  · intro h id hid
    simpa [Graph.path, component, hid] using h g.components[id.index]
      (Array.getElem_mem hid)
  · intro h c hc
    obtain ⟨i, hi, rfl⟩ := Array.mem_iff_getElem.1 hc
    simpa [Graph.path, component, hi] using h ⟨i⟩ hi

/-- Where there was no port of that owner and name, a new one may be it. -/
theorem findPort?_pushPort (owner : ComponentId) (name : String)
    (port : Port) :
    (g.pushPort port).findPort? owner name =
      (g.findPort? owner name).or
        (if port.owner = owner ∧ port.name = name then some ⟨g.ports.size⟩
          else none) := by
  show Option.map PortId.mk ((g.ports.push port).findIdx? _) = _
  rw [Array.findIdx?_push, findPort?]
  cases g.ports.findIdx? fun port => port.owner = owner ∧ port.name = name with
  | some i => rfl
  | none =>
    by_cases hport : port.owner = owner ∧ port.name = name <;> simp [hport]

-- ============================================================== growth

/-- The new port has the next number. -/
theorem port_pushPort_size (port : Port) :
    (g.pushPort port).port ⟨g.ports.size⟩ = port := by
  simp [pushPort, Graph.port]

/-- A port that exists is not touched by a new one. -/
theorem port_pushPort {id : PortId} (h : id.index < g.ports.size)
    (port : Port) : (g.pushPort port).port id = g.port id := by
  have hne : id.index ≠ g.ports.size := Nat.ne_of_lt h
  simp [pushPort, Graph.port, Array.getElem?_push, hne]

/-- The new component has the next number, and no children and no ports. -/
theorem component_pushChild_size {parent : ComponentId}
    (h : parent.index < g.components.size) (name path : String)
    (kind : ComponentKind) :
    (g.pushChild parent name path kind).component ⟨g.components.size⟩ =
      ⟨name, path, some parent, [], kind, []⟩ := by
  have hne : parent ≠ ⟨g.components.size⟩ := by
    rintro rfl
    exact Nat.lt_irrefl _ h
  rw [pushChild, component_modifyComponent, if_neg fun both => hne both.1]
  simp [component]

/-- The parent gets the new component as its last child. -/
theorem component_pushChild_parent {parent : ComponentId}
    (h : parent.index < g.components.size) (name path : String)
    (kind : ComponentKind) :
    (g.pushChild parent name path kind).component parent =
      { g.component parent with
        children := (g.component parent).children
          ++ [⟨g.components.size⟩] } := by
  have hne : parent.index ≠ g.components.size := Nat.ne_of_lt h
  have hin : parent.index < g.components.size + 1 := Nat.lt_succ_of_lt h
  rw [pushChild, component_modifyComponent, if_pos ⟨rfl, by simpa using hin⟩]
  simp [component, Array.getElem?_push, hne]

/-- Every other component that exists is not touched by a new one. -/
theorem component_pushChild {id parent : ComponentId}
    (h : id.index < g.components.size) (hne : parent ≠ id) (name path : String)
    (kind : ComponentKind) :
    (g.pushChild parent name path kind).component id = g.component id := by
  have hold : id.index ≠ g.components.size := Nat.ne_of_lt h
  rw [pushChild, component_modifyComponent, if_neg fun both => hne both.1]
  simp [component, Array.getElem?_push, hold]

end Graph

end ChipFabric
