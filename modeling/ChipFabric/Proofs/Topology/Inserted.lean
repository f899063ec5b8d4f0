/-
The standard cluster in any surroundings. Its builder is not only good for the
chip: in every graph that can be reached, below any component that has nothing
in the place of the cluster, it succeeds, and `Inserted` says what the graph
is then.

# Three arguments

What the steps make is known by the inventory (`build_makes`), and that comes
after the inventory that was there. So ports and bindings only grew, no port
that was there leads further, and validation has one more router to look at,
the crossbar. Inventories know nothing of children, so that the components
are as they were, but for the one child of the parent, is shown of the steps
themselves: the group is entered below the parent, and all that follows is
beside what was there. The routes of the crossbar are those it has in every
graph that holds the cluster.
-/
import ChipFabric.Proofs.Fabric.Added
import ChipFabric.Proofs.Fabric.Beside
import ChipFabric.Proofs.Topology.Crossbar

namespace ChipFabric.StandardCluster

-- ======================================================== statements

/-- Addresses that enter the crossbar of the cluster at `top` go to the memory
whose window holds them, in one hop and as they are, or nowhere. -/
structure CrossbarRoutes (g : Graph) (crossbar : ComponentId) (top : String)
    (layout : ClusterLayout) : Prop where
  memory : ∀ k place, (places layout)[k]? = some place →
    ∀ addr ∈ place.window, ∃ target,
      g.lookup? (top ++ "/" ++ place.name) = some target
      ∧ (g.component target).kind = .device place.device
      ∧ g.route crossbar addr = .ok {
          target
          targetPath := top ++ "/" ++ place.name
          localAddr := addr
          hops :=
            [⟨top ++ "/" ++ "xbar", ⟨place.window, ⟨k⟩, false, {}⟩,
              addr, addr⟩]
          attrs := {} }
  gap : ∀ addr, (∀ place ∈ places layout, addr ∉ place.window) →
    g.route crossbar addr = .error (.unmappedAddress "xbar" addr)

/-- The second graph is the first with a cluster of that layout below the
parent. -/
structure Inserted (g : Graph) (parent : ComponentId) (layout : ClusterLayout)
    (made : ClusterPorts) (g' : Graph) : Prop where
  coreCount : made.coreCount = layout.coreCount
  lookup_eq : g'.lookup? (g.path parent ++ "/" ++ clusterName layout.id) =
    some made.component
  /-- The parent has one child more, and nothing else is changed. -/
  component_eq : ∀ id : ComponentId, id.index < g.components.size →
    g'.component id =
    if id = parent then
      { g.component parent with
        children := (g.component parent).children ++ [made.component] }
    else g.component id
  ports : g.ports.toList <+: g'.ports.toList
  bindings : g.bindings.toList <+: g'.bindings.toList
  targets_eq : ∀ id : PortId, id.index < g.ports.size →
    g'.targets id = g.targets id
  validate : g.validate = .ok () → g'.validate = .ok ()
  crossbar : ∃ crossbar, g.components.size ≤ crossbar.index
    ∧ g'.lookup? (g.path parent ++ "/" ++ clusterName layout.id ++ "/"
      ++ "xbar") = some crossbar
    ∧ CrossbarRoutes g' crossbar
      (g.path parent ++ "/" ++ clusterName layout.id) layout

-- ============================================================= steps

section

variable {n : Nat}

/-- The crossbar is the one component of which later steps need the number. -/
theorem addCrossbar_keepsFirst {ports : ClusterPorts}
    (hcluster : n ≤ ports.component.index) :
    (addCrossbar ports).KeepsFirst n (n ≤ ·.1.index) :=
  (Build.addRouter_keepsFirst hcluster _).bind fun crossbar hcrossbar =>
    ((Build.routerInput_does crossbar _).keepsFirst trivial).bind fun narrow
        _ =>
      ((Build.addRouterInput_does _ _).keepsFirst hcrossbar).bind fun wide _ =>
        ((Build.bind_does _ narrow).keepsFirst trivial).bind fun _ _ =>
          ((Build.bind_does _ wide).keepsFirst trivial).bind fun _ _ =>
            .pure hcrossbar

/-- A memory is added to the cluster, its window to the crossbar. -/
theorem addMemory_keepsFirst {cluster crossbar : ComponentId}
    (hcluster : n ≤ cluster.index) (hcrossbar : n ≤ crossbar.index)
    (name : String) (window : Window) (device : Device) :
    (addMemory cluster crossbar name window device).KeepsFirst n
      fun _ => True :=
  ((Build.addTerminal_does _ name device).keepsFirst hcluster).bind fun _ _ =>
    ((Build.mapWindow_does _ _ _ _ _ _).keepsFirst hcrossbar).bind fun _ _ =>
      .pure trivial

theorem addMemories_keepsFirst {cluster crossbar : ComponentId}
    (hcluster : n ≤ cluster.index) (hcrossbar : n ≤ crossbar.index)
    (layout : ClusterLayout) :
    (addMemories cluster crossbar layout).KeepsFirst n fun _ => True :=
  (addMemory_keepsFirst hcluster hcrossbar _ _ _).bind fun _ _ =>
    (addMemory_keepsFirst hcluster hcrossbar _ _ _).bind fun _ _ =>
      addMemory_keepsFirst hcluster hcrossbar _ _ _

/-- The ports that a core is bound to may be anyone's, for bindings are no
part of components. -/
theorem addCore_keepsFirst {cluster : ComponentId}
    (hcluster : n ≤ cluster.index) (crossbar : InputPort .io)
    (narrowSoc : ForwardPort .io) (fetchEnable : ForwardPort .wire)
    (firstHart localId : Nat) :
    (addCore cluster crossbar narrowSoc fetchEnable firstHart
      localId).KeepsFirst n
      fun _ => True :=
  (Build.addDevice_keepsFirst hcluster _ _).bind fun _ hcore =>
    ((Build.declare_does _ _ _ _).keepsFirst hcore).bind fun data _ =>
      ((Build.declare_does _ _ _ _).keepsFirst hcore).bind fun soc _ =>
        ((Build.declare_does _ _ _ _).keepsFirst hcore).bind fun fetch _ =>
          ((Build.bind_does data _).keepsFirst trivial).bind fun _ _ =>
            ((Build.bind_does soc _).keepsFirst trivial).bind fun _ _ =>
              (Build.bind_does _ fetch).keepsFirst trivial

theorem addEngine_keepsFirst {cluster : ComponentId}
    (hcluster : n ≤ cluster.index) (wideSoc : ForwardPort .io) (id : Nat) :
    (addEngine cluster wideSoc id).KeepsFirst n fun _ => True :=
  (Build.addDevice_keepsFirst hcluster _ _).bind fun _ hengine =>
    ((Build.declare_does _ _ _ _).keepsFirst hengine).bind fun out _ =>
      (Build.bind_does out _).keepsFirst trivial

end

/-- The builder enters one child below the parent, and all else that it does
to components it does to its own. -/
theorem component_of_build {g g' : Graph} {parent : ComponentId}
    {layout : ClusterLayout} {made : ClusterPorts}
    (hparent : parent.index < g.components.size)
    (hon : (build parent layout).on g = (.ok made, g')) {id : ComponentId}
    (hid : id.index < g.components.size) :
    g'.component id =
      if id = parent then
        { g.component parent with
          children := (g.component parent).children ++ [⟨g.components.size⟩] }
      else g.component id := by
  rw [build, addBoundary, bind_assoc] at hon
  refine Build.component_of_addGroup_bind hparent (fun group hgroup => ?_)
    hon hid
  refine Build.KeepsFirst.bind
    (?_ : Build.KeepsFirst _ _ fun ports : ClusterPorts =>
      g.components.size ≤ ports.component.index) fun ports hcluster => ?_
  · have hdeclare : ∀ name d signal,
        (Build.declare group name d signal).KeepsFirst g.components.size
          fun _ => True :=
      fun name d signal =>
        (Build.declare_does group name d signal).keepsFirst hgroup
    exact (hdeclare _ _ _).bind fun _ _ => (hdeclare _ _ _).bind fun _ _ =>
      (hdeclare _ _ _).bind fun _ _ => (hdeclare _ _ _).bind fun _ _ =>
        (hdeclare _ _ _).bind fun _ _ => .pure hgroup
  · refine (addCrossbar_keepsFirst hcluster).bind fun crossbar hcrossbar => ?_
    refine (addMemories_keepsFirst hcluster hcrossbar layout).bind
      fun _ _ => ?_
    refine (Build.KeepsFirst.forM fun j _ =>
      addCore_keepsFirst hcluster _ _ _ _ j).bind fun _ _ => ?_
    exact (addEngine_keepsFirst hcluster _ _).bind fun _ _ => .pure trivial

-- ============================================================ graphs

/-- The routes of the crossbar are those of its table, wherever the cluster
stands. -/
theorem Holds.crossbarRoutes {g : Graph} {n p : Nat} {top : String}
    {layout : ClusterLayout} (h : Holds g n p top layout)
    (hs : g.inventory.Sound) : CrossbarRoutes g ⟨n + 1⟩ top layout where
  memory k _ hplace _ haddr :=
    ⟨⟨n + (2 + k)⟩,
      g.lookup?_of_sound hs ⟨n + (2 + k)⟩ (h.part (part_place hplace)),
      (h.component_place hplace).2, h.routeWithin_crossbar hs hplace haddr⟩
  gap _ hout := h.routeWithin_gap hs hout

/-- In every graph that can be reached, and below every component of it that
has nothing where the cluster is to stand, the cluster of a layout of the chip
is built: what was there stays, validation still passes, and the crossbar
routes to the memories of the cluster. -/
theorem inserted_of_reachable {g : Graph} (hg : g.Reachable)
    {parent : ComponentId} (hparent : parent.index < g.components.size)
    {config : Config} {chip : ChipLayout}
    (hplan : ChipLayout.plan config = .ok chip) {layout : ClusterLayout}
    (hlayout : layout ∈ chip.clusters)
    (hfree : ∀ id : ComponentId, id.index < g.components.size →
      ¬ Below (g.path parent ++ "/" ++ clusterName layout.id) (g.path id)) :
    ∃ made g', (build parent layout).on g = (.ok made, g')
      ∧ Inserted g parent layout made g' := by
  have hstacked := (ChipLayout.plan_sound hplan).stacked layout hlayout
  have hfree' : ∀ part ∈ g.inventory.parts,
      ¬ Below (g.path parent ++ "/" ++ clusterName layout.id) part.path := by
    intro part hpart
    obtain ⟨i, hi⟩ := List.mem_iff_getElem?.1 hpart
    obtain ⟨hlt, -⟩ := List.getElem?_eq_some_iff.1 hi
    rw [← (g.component_of_inventory ⟨i⟩ hi).1]
    exact hfree ⟨i⟩ (by rwa [Graph.size_components_eq])
  obtain ⟨hs', hmakes⟩ := build_makes (Graph.part_of_lt hparent)
    hfree' hstacked Graph.size_components_eq.symm rfl hg.inventory
  obtain ⟨g', hon, hg'⟩ := hmakes g rfl
  rw [← hg'] at hs'
  have hsources : ∀ b ∈ (inventory g.components.size g.ports.size
      (g.path parent ++ "/" ++ clusterName layout.id) layout).bindings,
      g.ports.size ≤ b.source.index :=
    fun b hb => (source_of_mem_inventory _ _ _ _ b hb).1
  have hholds := holds_append hg' Graph.size_components_eq.symm rfl fun b hb =>
    (hg.closed.ends b (Array.mem_toList_iff.1 hb)).1
  refine ⟨_, g', hon, ?_⟩
  constructor
  case coreCount => rfl
  case lookup_eq =>
    exact g'.lookup?_of_sound hs' ⟨g.components.size⟩
      (hholds.part (k := 0) rfl)
  case component_eq => exact fun id hid => component_of_build hparent hon hid
  case ports => exact ⟨_, congrArg (·.ports) hg'.symm⟩
  case bindings => exact ⟨_, congrArg (·.bindings) hg'.symm⟩
  case targets_eq => exact (Graph.extends_of_append hg' hsources).targets_eq
  case validate =>
    refine fun hvalid => Graph.validate_of_append hg' hsources
      hg.closed hvalid ?_
    intro r table exits hpart hkind m hm
    obtain ⟨hpath, rfl, rfl⟩ := router_of_mem hpart
    exact hholds.exists_beyond_mapping hpath hkind hm
  case crossbar =>
    exact ⟨_, Nat.le_add_right _ _,
      g'.lookup?_of_sound hs' ⟨_⟩ (hholds.part part_crossbar),
      hholds.crossbarRoutes hs'⟩

/-- A cluster of the default chip next to a router with a memory behind it:
the two are still the first children of the root, all windows lead somewhere,
and an address at the start of the cluster is one of its TCDM. -/
theorem servedSession_inserted : ∃ chip layout made g',
    servedSession.graph.Reachable ∧ ChipLayout.plan {} = .ok chip
      ∧ layout ∈ chip.clusters
      ∧ (∀ id : ComponentId, id.index < servedSession.graph.components.size →
        ¬ Below
          (servedSession.graph.path Graph.root ++ "/" ++ clusterName layout.id)
          (servedSession.graph.path id))
      ∧ (build Graph.root layout).on servedSession.graph = (.ok made, g')
      ∧ Inserted servedSession.graph Graph.root layout made g'
      ∧ (g'.component Graph.root).children = [⟨1⟩, ⟨2⟩, made.component]
      ∧ g'.validate = .ok ()
      ∧ ∃ crossbar, g'.lookup? "top/cluster_0/xbar" = some crossbar
        ∧ (g'.route crossbar 0x10).map (·.targetPath) =
          .ok "top/cluster_0/tcdm" := by
  have hrun : (Session.new "top").Run servedSession :=
    .step _ (.step _ (.step _ (.step _ (.step _
      .none ⟨show 0 < _ by decide, .new "r" 8⟩)
      (show 1 < _ by decide +kernel)) (show 1 < _ by decide +kernel))
      (show 0 < _ by decide +kernel))
      ⟨show 1 < _ by decide +kernel, show 2 < _ by decide +kernel⟩
  have hreach : servedSession.graph.Reachable := ⟨_, ⟨"top", hrun⟩, rfl⟩
  obtain ⟨chip, layout, hplan, hlayout, hid, htcdm⟩ : ∃ chip layout,
      ChipLayout.plan {} = .ok chip ∧ layout ∈ chip.clusters ∧ layout.id = 0
        ∧ 0x10 ∈ layout.tcdm :=
    ⟨_, _, rfl, List.mem_cons_self, rfl, by decide⟩
  have hsize : servedSession.graph.components.size = 3 := by decide +kernel
  have hnames : ∀ i < 3, (nameAfter (servedSession.graph.path Graph.root)
      (servedSession.graph.path ⟨i⟩)).head? ≠ some 'c' := by decide +kernel
  have hfree : ∀ id : ComponentId,
      id.index < servedSession.graph.components.size → ¬ Below
        (servedSession.graph.path Graph.root ++ "/" ++ clusterName layout.id)
        (servedSession.graph.path id) :=
    fun id hlt => not_below_cluster (hnames id.index (hsize ▸ hlt)) layout.id
  have hroot : Graph.root.index < servedSession.graph.components.size := by
    decide +kernel
  obtain ⟨made, g', hon, hinserted⟩ :=
    inserted_of_reachable hreach hroot hplan hlayout hfree
  have hpasses : servedSession.graph.validate = .ok () := by decide +kernel
  have hchildren : (servedSession.graph.component Graph.root).children =
      [⟨1⟩, ⟨2⟩] := by
    decide +kernel
  have htop : servedSession.graph.path Graph.root ++ "/" ++ clusterName
      layout.id = "top/cluster_0" := by
    rw [hid]
    decide +kernel
  obtain ⟨crossbar, -, hat, hroutes⟩ := hinserted.crossbar
  obtain ⟨target, -, -, hroute⟩ := hroutes.memory 0 _ rfl 0x10 htcdm
  rw [htop] at hat hroute
  refine ⟨chip, layout, made, g', hreach, hplan, hlayout, hfree, hon,
    hinserted, ?_, hinserted.validate hpasses, crossbar, hat, ?_⟩
  · rw [hinserted.component_eq Graph.root hroot, if_pos rfl, hchildren]
    rfl
  · have hpath : "top/cluster_0" ++ "/" ++ "tcdm" = "top/cluster_0/tcdm" := by
      decide
    rw [hroute]
    exact congrArg Except.ok hpath

end ChipFabric.StandardCluster
