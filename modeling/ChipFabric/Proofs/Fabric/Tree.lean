/-
The tree of components and the lists of ports. A graph says the same thing
more than once: a component has a parent, and the parent lists it among its
children; its path spells the way to it from the top; a port has an owner,
and the owner lists the port. `Tree` and `Listed` say that these agree, of
the components and of the ports, and that nothing is listed twice.

# The statement

New graphs are so, and each of the six changes keeps them so
(`Tree.change`, `Listed.change`), hence every graph that can be reached is
(`Reachable.tree`, `Reachable.listed`). Only the change that adds a component
touches the tree, and only those that declare a port touch the lists; the
others are kept out by `SameTree` and `SamePorts`. Where the paths are
distinct, to search for one is to ask whose it is (`Tree.lookup?_eq_some_iff`,
`Listed.findPort?_eq_some_iff`).
-/
import ChipFabric.Proofs.Fabric.Session

namespace ChipFabric

/-- Where a component stands in the tree, and the components below it. -/
@[ext] structure Place where
  name : String
  path : String
  parent : Option ComponentId
  children : List ComponentId

def Component.place (c : Component) : Place :=
  ⟨c.name, c.path, c.parent, c.children⟩

namespace Graph

variable {g g' : Graph}

-- ====================================================== nothing moves

/-- Of what a change does not touch, no component gets another. -/
theorem of_component_modifyComponent {α : Type} (part : Component → α)
    (id other : ComponentId) {change : Component → Component}
    (h : ∀ c, part (change c) = part c) :
    part ((g.modifyComponent id change).component other) = part
      (g.component other) := by
  rw [component_modifyComponent]
  split
  · exact h _
  · rfl

/-- What was not listed yet and is added at the end is listed once. -/
theorem count_concat {α : Type} [DecidableEq α] {values : List α} {last : α}
    (h : values.count last = 0) (a : α) :
    (values ++ [last]).count a = if a = last then 1 else values.count a := by
  rw [List.count_append]
  by_cases hlast : a = last
  · rw [if_pos hlast, hlast, h, List.count_singleton_self]
  · rw [if_neg hlast, List.count_singleton,
      if_neg fun heq => hlast (eq_of_beq heq).symm]
    rfl

/-- There are the same components, at the same places. -/
structure SameTree (g g' : Graph) : Prop where
  size_eq : g'.components.size = g.components.size
  place_eq : ∀ id, (g'.component id).place = (g.component id).place

section

variable (h : g.SameTree g') (id : ComponentId)

include h

/-- Names, paths, parents and children are the places of components. -/
theorem SameTree.name_eq : (g'.component id).name = (g.component id).name :=
  congrArg Place.name (h.place_eq id)

theorem SameTree.path_eq : g'.path id = g.path id :=
  congrArg Place.path (h.place_eq id)

theorem SameTree.parent_eq :
    (g'.component id).parent = (g.component id).parent :=
  congrArg Place.parent (h.place_eq id)

theorem SameTree.children_eq :
    (g'.component id).children = (g.component id).children :=
  congrArg Place.children (h.place_eq id)

end

theorem SameTree.trans {g'' : Graph} (h : g.SameTree g')
    (h' : g'.SameTree g'') : g.SameTree g'' :=
  ⟨h'.size_eq.trans h.size_eq, fun id => (h'.place_eq id).trans
    (h.place_eq id)⟩

/-- What keeps all places keeps the tree. -/
theorem sameTree_modifyComponent (id : ComponentId)
    {change : Component → Component} (h : ∀ c, (change c).place = c.place) :
    g.SameTree (g.modifyComponent id change) :=
  ⟨g.size_modifyComponent id change, fun other =>
    of_component_modifyComponent _ id other h⟩

/-- A table is no part of a place. -/
theorem sameTree_setTable (id : ComponentId) (table : Router) :
    g.SameTree (g.setTable id table) := by
  apply sameTree_modifyComponent
  intro c
  split <;> rfl

theorem sameTree_pushExit (id : ComponentId) (exit : PortId) :
    g.SameTree (g.pushExit id exit) := by
  apply sameTree_modifyComponent
  intro c
  split <;> rfl

/-- Neither is the list of ports. -/
theorem sameTree_pushPort (port : Port) : g.SameTree (g.pushPort port) := by
  refine ⟨g.size_pushPort port, fun id => ?_⟩
  unfold pushPort
  exact of_component_modifyComponent Component.place port.owner id fun _ => rfl

/-- There are the same ports, listed by the same components. -/
structure SamePorts (g g' : Graph) : Prop where
  ports_eq : g'.ports = g.ports
  listed_eq : ∀ id, (g'.component id).ports = (g.component id).ports

/-- A table is no part of the lists of ports either. -/
theorem samePorts_setTable (id : ComponentId) (table : Router) :
    g.SamePorts (g.setTable id table) := by
  refine ⟨rfl, fun other => ?_⟩
  unfold setTable
  apply of_component_modifyComponent
  intro c
  split <;> rfl

theorem samePorts_pushExit (id : ComponentId) (exit : PortId) :
    g.SamePorts (g.pushExit id exit) := by
  refine ⟨rfl, fun other => ?_⟩
  unfold pushExit
  apply of_component_modifyComponent
  intro c
  split <;> rfl

-- =========================================================== the tree

/-- What is not there has no place. -/
theorem component_of_size_le {id : ComponentId}
    (h : g.components.size ≤ id.index) : g.component id = default := by
  rw [component, Array.getElem?_eq_none h]
  rfl

/-- The next number has no component yet. -/
theorem component_next : g.component ⟨g.components.size⟩ = default :=
  component_of_size_le (Nat.le_refl _)

/-- Only what is there has a parent. -/
theorem lt_of_parent_eq_some {id parent : ComponentId}
    (h : (g.component id).parent = some parent) :
    id.index < g.components.size := by
  by_contra hout
  rw [component_of_size_le (Nat.le_of_not_lt hout)] at h
  cases h

/-- The components form one tree with the root at the top, the children of
each are those whose parent it is, and the paths spell the tree. -/
structure Tree (g : Graph) : Prop where
  root_exists : 0 < g.components.size
  parent_eq_none_iff : ∀ id : ComponentId, id.index < g.components.size →
    ((g.component id).parent = none ↔ id = root)
  /-- A parent was there before its children. -/
  parent_lt : ∀ id parent, (g.component id).parent = some parent →
    parent.index < id.index
  path_eq : ∀ id parent, (g.component id).parent = some parent →
    g.path id = g.path parent ++ "/" ++ (g.component id).name
  /-- A parent lists each of its children once, and nothing else. -/
  count_children : ∀ parent id, (g.component parent).children.count id =
    if (g.component id).parent = some parent then 1 else 0
  path_injective : ∀ id other : ComponentId, id.index < g.components.size →
    other.index < g.components.size → g.path id = g.path other → id = other

/-- The root alone is a tree. -/
theorem Tree.new (top : String) : (Graph.new top).Tree := by
  have hroot : ∀ id : ComponentId, id.index < (Graph.new top).components.size →
      id = root :=
    fun id hid => ComponentId.ext (Nat.lt_one_iff.1 hid)
  have hparent : ∀ id parent, ((Graph.new top).component id).parent ≠
      some parent := by
    intro id parent h
    rw [hroot id (lt_of_parent_eq_some h)] at h
    cases h
  constructor
  case root_exists => exact Nat.one_pos
  case parent_eq_none_iff =>
    intro id hid
    rw [hroot id hid]
    exact iff_of_true rfl rfl
  case parent_lt => exact fun id parent h => absurd h (hparent id parent)
  case path_eq => exact fun id parent h => absurd h (hparent id parent)
  case count_children =>
    intro parent id
    rw [if_neg (hparent id parent)]
    by_cases hin : parent.index < (Graph.new top).components.size
    · rw [hroot parent hin]
      rfl
    · rw [component_of_size_le (Nat.le_of_not_lt hin)]
      rfl
  case path_injective =>
    intro id other hid hother _
    exact (hroot id hid).trans (hroot other hother).symm

/-- Places are all that a tree is. -/
theorem Tree.of_same (h : g.Tree) (hsame : g.SameTree g') : g'.Tree := by
  constructor
  case root_exists => simpa only [hsame.size_eq] using h.root_exists
  case parent_eq_none_iff =>
    simpa only [hsame.size_eq, hsame.parent_eq] using h.parent_eq_none_iff
  case parent_lt => simpa only [hsame.parent_eq] using h.parent_lt
  case path_eq =>
    simpa only [hsame.parent_eq, hsame.path_eq, hsame.name_eq] using h.path_eq
  case count_children =>
    simpa only [hsame.parent_eq, hsame.children_eq] using h.count_children
  case path_injective =>
    simpa only [hsame.size_eq, hsame.path_eq] using h.path_injective

/-- What stands under a number once a component was added: the new one under
the next number, its parent with one more child, and what stood there. -/
theorem component_pushChild_eq {parent : ComponentId}
    (hparent : parent.index < g.components.size) (name path : String)
    (kind : ComponentKind) (id : ComponentId) :
    (g.pushChild parent name path kind).component id =
      if id = ⟨g.components.size⟩ then
        ⟨name, path, some parent, [], kind, []⟩
      else if id = parent then
        { g.component parent with
          children := (g.component parent).children ++ [⟨g.components.size⟩] }
      else g.component id := by
  by_cases hnew : id = ⟨g.components.size⟩
  · rw [if_pos hnew, hnew]
    exact g.component_pushChild_size hparent name path kind
  rw [if_neg hnew]
  by_cases hsame : id = parent
  · rw [if_pos hsame, hsame]
    exact g.component_pushChild_parent hparent name path kind
  rw [if_neg hsame]
  by_cases hin : id.index < g.components.size
  · exact g.component_pushChild hin (Ne.symm hsame) name path kind
  · have hout : (g.pushChild parent name path kind).components.size ≤
        id.index := by
      rw [size_pushChild]
      have hne : id.index ≠ g.components.size :=
        fun heq => hnew (ComponentId.ext heq)
      omega
    rw [component_of_size_le hout, component_of_size_le (Nat.le_of_not_lt hin)]

section

variable {parent : ComponentId} (hparent : parent.index < g.components.size)
  (name path : String) (kind : ComponentKind) (id : ComponentId)

include hparent

/-- The parent stays as it is but for its children. -/
theorem part_pushChild {α : Type} (part : Component → α)
    (hpart : ∀ c children, part { c with children := children } = part c) :
    part ((g.pushChild parent name path kind).component id) =
      if id = ⟨g.components.size⟩ then
        part ⟨name, path, some parent, [], kind, []⟩
      else part (g.component id) := by
  rw [component_pushChild_eq hparent]
  by_cases hnew : id = ⟨g.components.size⟩
  · rw [if_pos hnew, if_pos hnew]
  rw [if_neg hnew, if_neg hnew]
  by_cases hsame : id = parent
  · rw [if_pos hsame, hsame]
    exact hpart _ _
  · rw [if_neg hsame]

/-- Only the new component gets a parent. -/
theorem parent_pushChild :
    ((g.pushChild parent name path kind).component id).parent =
      if id = ⟨g.components.size⟩ then some parent
      else (g.component id).parent :=
  part_pushChild hparent name path kind id Component.parent fun _ _ => rfl

theorem name_pushChild :
    ((g.pushChild parent name path kind).component id).name =
    if id = ⟨g.components.size⟩ then name else (g.component id).name :=
  part_pushChild hparent name path kind id Component.name fun _ _ => rfl

theorem path_pushChild_eq : (g.pushChild parent name path kind).path id =
    if id = ⟨g.components.size⟩ then path else g.path id :=
  part_pushChild hparent name path kind id Component.path fun _ _ => rfl

/-- A new component has no ports, as what is not there has none. -/
theorem ports_component_pushChild :
    ((g.pushChild parent name path kind).component id).ports =
    (g.component id).ports := by
  rw [part_pushChild hparent name path kind id Component.ports fun _ _ => rfl]
  by_cases hnew : id = ⟨g.components.size⟩
  · rw [if_pos hnew, hnew, component_next]
    rfl
  · rw [if_neg hnew]

/-- Only the parent gets a child. -/
theorem children_pushChild :
    ((g.pushChild parent name path kind).component id).children =
    if id = parent then (g.component id).children ++ [⟨g.components.size⟩]
    else (g.component id).children := by
  rw [component_pushChild_eq hparent]
  by_cases hnew : id = ⟨g.components.size⟩
  · have hne : id ≠ parent := by
      rw [hnew]
      intro heq
      rw [← heq] at hparent
      exact Nat.lt_irrefl _ hparent
    rw [if_pos hnew, if_neg hne, hnew, component_next]
    rfl
  rw [if_neg hnew]
  by_cases hsame : id = parent
  · rw [if_pos hsame, if_pos hsame, hsame]
  · rw [if_neg hsame, if_neg hsame]

end

/-- A new component has no ports, and no other one gets any. -/
theorem samePorts_pushChild {parent : ComponentId}
    (hparent : parent.index < g.components.size) (name path : String)
    (kind : ComponentKind) : g.SamePorts (g.pushChild parent name path kind) :=
  ⟨rfl, fun id => ports_component_pushChild hparent name path kind id⟩

/-- A component that is there has not the next number. -/
theorem ne_next {id : ComponentId} (hid : id.index < g.components.size) :
    id ≠ ⟨g.components.size⟩ := by
  rintro rfl
  exact Nat.lt_irrefl _ hid

/-- Once there is one more, a component was there before or is the new one. -/
theorem lt_or_eq_next {id : ComponentId}
    (hid : id.index < g.components.size + 1) :
    id.index < g.components.size ∨ id = ⟨g.components.size⟩ :=
  (Nat.lt_succ_iff_lt_or_eq.1 hid).imp_right ComponentId.ext

/-- The parent lists the new child once, and all others what they listed. -/
theorem Tree.count_children_pushChild (h : g.Tree) {parent : ComponentId}
    (hparent : parent.index < g.components.size) (name path : String)
    (kind : ComponentKind) (above id : ComponentId) :
    ((g.pushChild parent name path kind).component above).children.count id =
      if ((g.pushChild parent name path kind).component id).parent =
        some above then 1 else 0 := by
  -- what is not there yet is nobody's child
  have hzero : (g.component above).children.count
      ⟨g.components.size⟩ = 0 := by
    rw [h.count_children, component_next]
    exact if_neg nofun
  rw [children_pushChild hparent, parent_pushChild hparent]
  by_cases hid : id = ⟨g.components.size⟩
  · rw [if_pos hid, hid]
    by_cases hsame : above = parent
    · rw [if_pos hsame, count_concat hzero, if_pos rfl,
        if_pos (by rw [hsame])]
    · rw [if_neg hsame, hzero,
        if_neg fun heq => hsame (Option.some.inj heq).symm]
  · rw [if_neg hid, ← h.count_children]
    by_cases hsame : above = parent
    · rw [if_pos hsame, count_concat hzero, if_neg hid]
    · rw [if_neg hsame]

/-- A path that no component has is that of the new one only. -/
theorem Tree.path_injective_pushChild (h : g.Tree) {parent : ComponentId}
    (hparent : parent.index < g.components.size) (name : String)
    {path : String} (kind : ComponentKind)
    (hfree : ∀ id : ComponentId, id.index < g.components.size →
      g.path id ≠ path) {id other : ComponentId}
    (hid : id.index < g.components.size + 1)
    (hother : other.index < g.components.size + 1)
    (heq : (g.pushChild parent name path kind).path id =
      (g.pushChild parent name path kind).path other) : id = other := by
  rw [path_pushChild_eq hparent, path_pushChild_eq hparent] at heq
  rcases lt_or_eq_next hid with hlt | rfl
  · rw [if_neg (ne_next hlt)] at heq
    rcases lt_or_eq_next hother with hlt' | rfl
    · rw [if_neg (ne_next hlt')] at heq
      exact h.path_injective id other hlt hlt' heq
    · rw [if_pos rfl] at heq
      exact absurd heq (hfree id hlt)
  · rw [if_pos rfl] at heq
    rcases lt_or_eq_next hother with hlt' | rfl
    · rw [if_neg (ne_next hlt')] at heq
      exact absurd heq.symm (hfree other hlt')
    · rfl

/-- A component is added under a name that is free on its parent, so its path
is new. -/
theorem Tree.pushChild (h : g.Tree) {parent : ComponentId}
    (hparent : parent.index < g.components.size) {name : String}
    (hfree : g.lookup? (g.path parent ++ "/" ++ name) = none)
    (kind : ComponentKind) :
    (g.pushChild parent name (g.path parent ++ "/" ++ name) kind).Tree := by
  have hfree := g.lookup?_eq_none_iff.1 hfree
  generalize hpath : g.path parent ++ "/" ++ name = path at hfree ⊢
  constructor
  case root_exists =>
    rw [size_pushChild]
    exact Nat.succ_pos _
  case parent_eq_none_iff =>
    intro id hid
    rw [size_pushChild] at hid
    rw [parent_pushChild hparent]
    rcases lt_or_eq_next hid with hlt | rfl
    · rw [if_neg (ne_next hlt)]
      exact h.parent_eq_none_iff id hlt
    · rw [if_pos rfl]
      exact iff_of_false nofun (ne_next h.root_exists).symm
  case parent_lt =>
    intro id above habove
    rw [parent_pushChild hparent] at habove
    split at habove
    · rename_i heq
      obtain rfl := Option.some.inj habove
      rw [heq]
      exact hparent
    · exact h.parent_lt id above habove
  case path_eq =>
    intro id above habove
    rw [parent_pushChild hparent] at habove
    rw [path_pushChild_eq hparent, path_pushChild_eq hparent,
      name_pushChild hparent]
    split at habove
    · rename_i heq
      obtain rfl := Option.some.inj habove
      rw [if_pos heq, if_pos heq, if_neg (ne_next hparent), hpath]
    · rename_i hne
      have hlt := Nat.lt_trans (h.parent_lt id above habove)
        (lt_of_parent_eq_some habove)
      rw [if_neg hne, if_neg hne, if_neg (ne_next hlt)]
      exact h.path_eq id above habove
  case count_children => exact h.count_children_pushChild hparent name path kind
  case path_injective =>
    intro id other hid hother
    rw [size_pushChild] at hid hother
    exact h.path_injective_pushChild hparent name kind hfree hid hother

/-- The one change of the tree is a new child, and it keeps the rules. -/
theorem Tree.change {admits : Router → Prop} (h : g.Tree)
    (hchange : g.Change admits g') : g'.Tree := by
  cases hchange with
  | child hparent hfree hkind => exact h.pushChild hparent hfree _
  | port _ _ => exact h.of_same (sameTree_pushPort _)
  | input _ _ => exact h.of_same (sameTree_setTable _ _)
  | output _ _ _ =>
    apply h.of_same
    exact ((sameTree_setTable _ _).trans (sameTree_pushPort _)).trans
      (sameTree_pushExit _ _)
  | mapping _ _ => exact h.of_same (sameTree_setTable _ _)
  | binding _ _ _ _ => exact h.of_same ⟨rfl, fun _ => rfl⟩

/-- Every graph that can be reached is one tree. -/
theorem Reachable.tree (h : g.Reachable) : g.Tree :=
  h.invariant Tree.new fun _ _ htree hchange => htree.change hchange

/-- A component is listed once by its parent, and by no other. -/
theorem Tree.listed_once (h : g.Tree) {id parent : ComponentId}
    (hparent : (g.component id).parent = some parent) :
    (g.component parent).children.count id = 1
      ∧ ∀ other, other ≠ parent → id ∉ (g.component other).children := by
  constructor
  · rw [h.count_children, if_pos hparent]
  · intro other hother
    rw [← List.count_eq_zero, h.count_children, hparent, if_neg]
    exact fun heq => hother (Option.some.inj heq).symm

/-- What is looked up is the one component of that path. -/
theorem Tree.lookup?_eq_some_iff (h : g.Tree) {path : String}
    {id : ComponentId} :
    g.lookup? path = some id ↔ id.index < g.components.size
      ∧ g.path id = path := by
  rw [Graph.lookup?_eq_some_iff]
  constructor
  · intro hfirst
    exact ⟨hfirst.1, hfirst.2.1⟩
  · intro hat
    obtain ⟨hlt, hpath⟩ := hat
    refine ⟨hlt, hpath, fun other hother hsame => ?_⟩
    have heq := h.path_injective other id (Nat.lt_trans hother hlt) hlt
      (hsame.trans hpath.symm)
    rw [heq] at hother
    exact Nat.lt_irrefl _ hother

-- ========================================================== the ports

/-- Each component lists each of its ports once, and nothing else, and has
one port of a name. -/
structure Listed (g : Graph) : Prop where
  count_ports : ∀ (owner : ComponentId) (id : PortId),
    (g.component owner).ports.count id =
    if id.index < g.ports.size ∧ (g.port id).owner = owner then 1 else 0
  name_injective : ∀ id other : PortId, id.index < g.ports.size →
    other.index < g.ports.size →
    (g.port id).owner = (g.port other).owner →
      (g.port id).name = (g.port other).name → id = other

theorem Listed.new (top : String) : (Graph.new top).Listed := by
  constructor
  case count_ports =>
    intro owner id
    rw [if_neg fun h => Nat.not_lt_zero _ h.1]
    by_cases hin : owner.index < (Graph.new top).components.size
    · rw [show owner = root from ComponentId.ext (Nat.lt_one_iff.1 hin)]
      rfl
    · rw [component_of_size_le (Nat.le_of_not_lt hin)]
      rfl
  case name_injective => exact fun id _ hid => absurd hid (Nat.not_lt_zero _)

/-- Lists and ports are all that this is about. -/
theorem Listed.of_same (h : g.Listed) (hsame : g.SamePorts g') :
    g'.Listed := by
  have hport : ∀ id, g'.port id = g.port id := fun id => by
    rw [port, hsame.ports_eq, port]
  constructor
  case count_ports =>
    simpa only [hsame.ports_eq, hsame.listed_eq, hport] using h.count_ports
  case name_injective =>
    simpa only [hsame.ports_eq, hport] using h.name_injective

/-- Only the owner lists the new port. -/
theorem ports_component_pushPort {port : Port}
    (howner : port.owner.index < g.components.size) (id : ComponentId) :
    ((g.pushPort port).component id).ports =
      if id = port.owner then (g.component id).ports ++ [⟨g.ports.size⟩]
      else (g.component id).ports := by
  rw [pushPort, component_modifyComponent]
  by_cases hsame : id = port.owner
  · rw [if_pos ⟨hsame.symm, howner⟩, if_pos hsame]
    rfl
  · rw [if_neg fun both => hsame both.1.symm, if_neg hsame]
    rfl

/-- Once there is one more, a port was there before or is the new one. -/
theorem port_lt_or_eq_next {id : PortId} (hid : id.index < g.ports.size + 1) :
    id.index < g.ports.size ∨ id = ⟨g.ports.size⟩ :=
  (Nat.lt_succ_iff_lt_or_eq.1 hid).imp_right PortId.ext

/-- The owner lists the new port once, and all others what they listed. -/
theorem Listed.count_ports_pushPort (h : g.Listed) {port : Port}
    (howner : port.owner.index < g.components.size) (owner : ComponentId)
    (id : PortId) :
    ((g.pushPort port).component owner).ports.count id =
      if id.index < g.ports.size + 1 ∧ ((g.pushPort port).port id).owner =
        owner then 1 else 0 := by
  -- what is not there yet is listed by nobody
  have hzero : (g.component owner).ports.count ⟨g.ports.size⟩ = 0 := by
    rw [h.count_ports]
    exact if_neg fun both => Nat.lt_irrefl _ both.1
  rw [ports_component_pushPort howner]
  by_cases hid : id = ⟨g.ports.size⟩
  · rw [hid, g.port_pushPort_size]
    by_cases hsame : owner = port.owner
    · rw [if_pos hsame, count_concat hzero, if_pos rfl,
        if_pos ⟨Nat.lt_succ_self _, hsame.symm⟩]
    · rw [if_neg hsame, hzero, if_neg fun both => hsame both.2.symm]
  · have hlisted :
        (if owner = port.owner then
          (g.component owner).ports ++ [⟨g.ports.size⟩]
        else (g.component owner).ports).count id =
          (g.component owner).ports.count id := by
      by_cases hsame : owner = port.owner
      · rw [if_pos hsame, count_concat hzero, if_neg hid]
      · rw [if_neg hsame]
    rw [hlisted, h.count_ports]
    by_cases hlt : id.index < g.ports.size
    · rw [g.port_pushPort hlt]
      simp only [hlt, Nat.lt_succ_of_lt hlt]
    · have hout : ¬ id.index < g.ports.size + 1 :=
        fun hin => (port_lt_or_eq_next hin).elim hlt hid
      rw [if_neg fun both => hlt both.1, if_neg fun both => hout both.1]

/-- A port is declared under a name that is free on its owner. -/
theorem Listed.pushPort (h : g.Listed) {port : Port}
    (howner : port.owner.index < g.components.size)
    (hfree : g.findPort? port.owner port.name = none) :
    (g.pushPort port).Listed := by
  have hfree := g.findPort?_eq_none_iff.1 hfree
  constructor
  case count_ports =>
    intro owner id
    rw [ports_pushPort, Array.size_push]
    exact h.count_ports_pushPort howner owner id
  case name_injective =>
    intro id other hid hother hsame hname
    rw [ports_pushPort, Array.size_push] at hid hother
    rcases port_lt_or_eq_next hid with hlt | rfl
    · rw [g.port_pushPort hlt] at hsame hname
      rcases port_lt_or_eq_next hother with hlt' | rfl
      · rw [g.port_pushPort hlt'] at hsame hname
        exact h.name_injective id other hlt hlt' hsame hname
      · rw [g.port_pushPort_size] at hsame hname
        exact absurd ⟨hsame, hname⟩ (hfree id hlt)
    · rw [g.port_pushPort_size] at hsame hname
      rcases port_lt_or_eq_next hother with hlt' | rfl
      · rw [g.port_pushPort hlt'] at hsame hname
        exact absurd ⟨hsame.symm, hname.symm⟩ (hfree other hlt')
      · rfl

/-- Ports come one at a time, each with its entry in the list of its owner. -/
theorem Listed.change {admits : Router → Prop} (h : g.Listed)
    (hchange : g.Change admits g') : g'.Listed := by
  cases hchange with
  | child hparent _ _ => exact h.of_same (samePorts_pushChild hparent _ _ _)
  | port howner hfree => exact h.pushPort howner hfree
  | input _ _ => exact h.of_same (samePorts_setTable _ _)
  | @output r _ extended _ name _ hkind hfree _ =>
    have howner : r.index < (g.setTable r extended).components.size := by
      rw [size_setTable]
      exact g.lt_of_kind_eq_router hkind
    have hset := h.of_same (samePorts_setTable r extended)
    have hpushed : ((g.setTable r extended).pushPort
        ⟨r, name, .output, Signal.io.signature⟩).Listed :=
          hset.pushPort howner hfree
    exact hpushed.of_same (samePorts_pushExit r _)
  | mapping _ _ => exact h.of_same (samePorts_setTable _ _)
  | binding _ _ _ _ => exact h.of_same ⟨rfl, fun _ => rfl⟩

/-- In every graph that can be reached, components list their ports. -/
theorem Reachable.listed (h : g.Reachable) : g.Listed :=
  h.invariant Listed.new fun _ _ hlisted hchange => hlisted.change hchange

/-- A port is listed once by its owner, and by no other component. -/
theorem Listed.listed_once (h : g.Listed) {id : PortId}
    (hid : id.index < g.ports.size) :
    (g.component (g.port id).owner).ports.count id = 1
      ∧ ∀ other, other ≠ (g.port id).owner →
        id ∉ (g.component other).ports := by
  constructor
  · rw [h.count_ports, if_pos ⟨hid, rfl⟩]
  · intro other hother
    rw [← List.count_eq_zero, h.count_ports,
      if_neg fun both => hother both.2.symm]

/-- What is found is the one port of that owner and that name. -/
theorem Listed.findPort?_eq_some_iff (h : g.Listed) {owner : ComponentId}
    {name : String} {id : PortId} : g.findPort? owner name = some id ↔
      id.index < g.ports.size ∧ (g.port id).owner = owner
        ∧ (g.port id).name = name := by
  rw [Graph.findPort?_eq_some_iff]
  constructor
  · intro hfirst
    exact ⟨hfirst.1, hfirst.2.1⟩
  · intro hat
    obtain ⟨hlt, howner, hname⟩ := hat
    refine ⟨hlt, ⟨howner, hname⟩, fun other hother hsame => ?_⟩
    have heq := h.name_injective other id (Nat.lt_trans hother hlt) hlt
      (hsame.1.trans howner.symm) (hsame.2.trans hname.symm)
    rw [heq] at hother
    exact Nat.lt_irrefl _ hother

end Graph

end ChipFabric
