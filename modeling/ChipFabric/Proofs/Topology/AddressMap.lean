/-
The address map and the routes. The map of a router lists its windows in the
order of their bases and finds the port of each by its name; routing looks an
address up in the table and takes the exit by its number. The two agree on the
routers of the chip, whoever built the clusters: nothing but the outputs that
the graph was asked for stands on those routers, so names and numbers line up,
and validation has followed every one of them.

# The statement

`addressMap_agrees`: of every topology that is built, for the narrow and the
wide router, the map exists and charts the router (`Charts`). Of the layout
nothing is asked, and of the builder of the clusters no more than that it acts
by operations (`ClusterBuilder.ActsOn`); what it gives back may be anything.
-/
import ChipFabric.Proofs.Fabric.Alignment
import ChipFabric.Proofs.Fabric.Index
import ChipFabric.Proofs.Topology.Collaborator
import ChipFabric.Proofs.Topology.Success
import ChipFabric.Topology.Query

namespace ChipFabric

open Edit

-- ====================================================== collaborators

/-- Called on the graph, the builder of a cluster acts by operations, with
whatever handles it has come by, and whether it then fails or not. -/
def ClusterBuilder.ActsOn (cluster : ClusterBuilder) (parent : ComponentId)
    (layout : ClusterLayout) (g : Graph) : Prop :=
  ∃ s t : Session, s.graph = g ∧ s.Run t
    ∧ t.graph = ((cluster parent layout).on g).2

namespace Topology

/-- Whenever it is called while the chip is built, the builder of the clusters
acts by operations; with what it gives back the chip may do what it does. -/
def Acts (chip : ChipLayout) (cluster : ClusterBuilder) : Prop :=
  ∀ before layout after, chip.clusters = before ++ layout :: after →
    ∀ parent g, CallsOn chip cluster before parent g →
      cluster.ActsOn parent layout g

variable {chip : ChipLayout} {cluster : ClusterBuilder}

theorem Collaborates.acts (h : Collaborates chip cluster) :
    Acts chip cluster :=
  fun before layout after hsplit parent g hcalls =>
    (h before layout after hsplit parent g hcalls).1

-- =========================================================== aligned

/-- A router that is added without outputs is aligned, and stays so. -/
theorem addRouter_new_aligned {parent id : ComponentId} {name : String}
    {bandwidth : Nat} {g g' : Graph}
    (hon : (Build.addRouter parent (.new name bandwidth)).on g =
      (.ok id, g')) :
    g'.Aligned id :=
  Build.addRouter_aligned (Router.Made.new name bandwidth).sound rfl hon

/-- Both routers are aligned once the planes are there. -/
theorem addPlanes_aligned {g g' : Graph} {planes : Planes}
    (hon : (addPlanes chip).on g = (.ok planes, g')) :
    g'.Aligned planes.narrow ∧ g'.Aligned planes.wide := by
  obtain ⟨top, g₁, -, hon⟩ := on_bind_eq_ok_iff.1 hon
  obtain ⟨soc, g₂, -, hon⟩ := on_bind_eq_ok_iff.1 hon
  obtain ⟨chipHbm, g₃, -, hon⟩ := on_bind_eq_ok_iff.1 hon
  obtain ⟨socHbm, g₄, -, hon⟩ := on_bind_eq_ok_iff.1 hon
  obtain ⟨narrow, g₅, hnarrow, hon⟩ := on_bind_eq_ok_iff.1 hon
  obtain ⟨wide, g₆, hwide, hon⟩ := on_bind_eq_ok_iff.1 hon
  have hnarrow₆ :=
    ((Build.addRouter_does _ _).keepsExits.of_on_eq hwide).aligned
    (addRouter_new_aligned hnarrow)
  have hwide₆ := addRouter_new_aligned hwide
  -- none of the steps after the routers takes an exit from them
  obtain ⟨narrowIn, g₇, h₇, hon⟩ := on_bind_eq_ok_iff.1 hon
  have hkeeps₇ := (Build.routerInput_does _ _).keepsExits.of_on_eq h₇
  obtain ⟨wideIn, g₈, h₈, hon⟩ := on_bind_eq_ok_iff.1 hon
  have hkeeps₈ := (Build.routerInput_does _ _).keepsExits.of_on_eq h₈
  obtain ⟨rom, g₉, h₉, hon⟩ := on_bind_eq_ok_iff.1 hon
  have hkeeps₉ := (Build.addTerminal_does _ _ _).keepsExits.of_on_eq h₉
  obtain ⟨romOut, g₁₀, h₁₀, hon⟩ := on_bind_eq_ok_iff.1 hon
  have hkeeps₁₀ := (Build.mapWindow_does _ _ _ _ _ _).keepsExits.of_on_eq h₁₀
  obtain ⟨hbmOut, g₁₁, h₁₁, hon⟩ := on_bind_eq_ok_iff.1 hon
  have hkeeps₁₁ := (Build.mapWindow_does _ _ _ _ _ _).keepsExits.of_on_eq h₁₁
  obtain ⟨passOut, g₁₂, h₁₂, hon⟩ := on_bind_eq_ok_iff.1 hon
  have hkeeps₁₂ := (Build.mapWindow_does _ _ _ _ _ _).keepsExits.of_on_eq h₁₂
  obtain ⟨hplanes, rfl⟩ := Prod.mk.inj hon
  obtain rfl := Except.ok.inj hplanes
  have haligned : ∀ {r}, g₆.Aligned r → g₁₂.Aligned r := fun hr =>
    hkeeps₁₂.aligned (hkeeps₁₁.aligned (hkeeps₁₀.aligned (hkeeps₉.aligned
      (hkeeps₈.aligned (hkeeps₇.aligned hr)))))
  exact ⟨haligned hnarrow₆, haligned hwide₆⟩

/-- Once the builder has acted, the chip attaches what it was given. -/
theorem addCluster_keepsExits {planes : Planes} {layout : ClusterLayout}
    {g g' : Graph} {outcome : Except Fault ClusterPorts}
    (hacts : cluster.ActsOn planes.soc layout g)
    (hon : (addCluster cluster planes layout).on g = (outcome, g')) :
    g.KeepsExits g' := by
  obtain ⟨s, t, rfl, hrun, ht⟩ := hacts
  have hcluster : s.graph.KeepsExits
      ((cluster planes.soc layout).on s.graph).2 := by
    rw [← ht]
    exact hrun.keepsExits
  rw [addCluster, on_bind] at hon
  generalize (cluster planes.soc layout).on s.graph = acted at hcluster hon
  obtain ⟨_ | ports, g₁⟩ := acted
  · obtain ⟨-, rfl⟩ := Prod.mk.inj hon
    exact hcluster
  · refine trans_of Graph.KeepsExits hcluster (Build.Within.of_on_eq ?_ hon)
    by_cases hcount : ports.coreCount = layout.coreCount
    · rw [if_neg (not_not.2 hcount)]
      refine (Build.bind_does _ _).keepsExits.bind fun _ => ?_
      refine (Build.bind_does _ _).keepsExits.bind fun _ => ?_
      exact (Build.mapWindow_does _ _ _ _ _ _).keepsExits.bind fun _ => .pure _
    · rw [if_pos hcount]
      exact fun g => refl_of Graph.KeepsExits g

/-- All clusters are built without a loss of exits, whatever their builder
does. -/
theorem clusters_keepExits (hacts : Acts chip cluster) {planes : Planes}
    {bare g : Graph}
    (hplanes : (addPlanes chip).on (Graph.new "board") = (.ok planes, bare))
    {before after : List ClusterLayout}
    (hsplit : chip.clusters = before ++ after) {built : List ClusterPorts}
    (hbuilt : (before.mapM (addCluster cluster planes)).on bare =
      (.ok built, g)) :
    bare.KeepsExits g := by
  induction before using List.reverseRecOn generalizing after built g with
  | nil =>
    obtain ⟨-, rfl⟩ : built = [] ∧ g = bare := by simpa [eq_comm] using hbuilt
    exact refl_of Graph.KeepsExits g
  | append_singleton before layout ih =>
    obtain ⟨init, last, g₁, hinit, hlast, -⟩ := on_mapM_concat_eq_ok hbuilt
    rw [List.append_assoc, List.singleton_append] at hsplit
    have hacted := hacts before layout after hsplit planes.soc g₁
      ⟨planes, bare, init, hplanes, rfl, hinit⟩
    exact trans_of Graph.KeepsExits (ih hsplit hinit)
      (addCluster_keepsExits hacted hlast)

theorem addLoader_keepsExits (planes : Planes) (clusters : List ClusterPorts)
    (device : Device) :
    (addLoader planes clusters device).Within Graph.KeepsExits := by
  refine (Build.addDevice_does _ _ _).keepsExits.bind fun loader => ?_
  refine (Build.declare_does _ _ _ _).keepsExits.bind fun out => ?_
  refine (Build.declare_does _ _ _ _).keepsExits.bind fun start => ?_
  refine (Build.bind_does _ _).keepsExits.bind fun _ => ?_
  refine Build.Within.bind (.forM (fun ports => ?_) clusters) fun _ => .pure _
  exact (Build.bind_does _ _).keepsExits

theorem addExternalMemory_keepsExits (planes : Planes) (layout : ChipLayout) :
    (addExternalMemory planes layout).Within Graph.KeepsExits := by
  refine (Build.addTerminal_does _ _ _).keepsExits.bind fun memory => ?_
  refine (Build.bind_does _ _).keepsExits.bind fun _ => ?_
  exact (Build.bindByName_does _ _ _ _).keepsExits

/-- A topology that was built is validated, and both its routers are
aligned. -/
theorem aligned_of_build (hacts : Acts chip cluster) {binary : Option String}
    {t : Topology} (hbuild : build chip cluster binary = .ok t) :
    t.graph.validate = .ok () ∧ t.graph.Aligned t.narrow
      ∧ t.graph.Aligned t.wide := by
  have hsteps : (steps chip cluster binary).on (Graph.new "board") =
      (.ok t, ((steps chip cluster binary).on (Graph.new "board")).2) :=
    Prod.ext hbuild rfl
  generalize
    ((steps chip cluster binary).on (Graph.new "board")).2 = g at hsteps
  obtain ⟨planes, bare, hplanes, hsteps⟩ := on_bind_eq_ok_iff.1 hsteps
  obtain ⟨clusters, g₁, hclusters, hsteps⟩ := on_bind_eq_ok_iff.1 hsteps
  obtain ⟨loader, g₂, hloader, hsteps⟩ := on_bind_eq_ok_iff.1 hsteps
  obtain ⟨_, g₃, hmemory, hsteps⟩ := on_bind_eq_ok_iff.1 hsteps
  obtain ⟨final, g₄, hget, hsteps⟩ := on_bind_eq_ok_iff.1 hsteps
  obtain rfl : g₃ = final := Except.ok.inj (Prod.mk.inj hget).1
  obtain ⟨_, g₅, hvalid, hsteps⟩ := on_bind_eq_ok_iff.1 hsteps
  obtain ⟨hvalid, -⟩ := Prod.mk.inj ((on_liftExcept _ _).symm.trans hvalid)
  obtain rfl := Except.ok.inj (Prod.mk.inj hsteps).1
  obtain ⟨hnarrow, hwide⟩ := addPlanes_aligned hplanes
  have hkeeps₁ :=
    clusters_keepExits hacts hplanes (List.append_nil _).symm hclusters
  have hkeeps₂ := (addLoader_keepsExits _ _ _).of_on_eq hloader
  have hkeeps₃ := (addExternalMemory_keepsExits _ _).of_on_eq hmemory
  have haligned : ∀ {r}, bare.Aligned r → g₃.Aligned r := fun hr =>
    hkeeps₃.aligned (hkeeps₂.aligned (hkeeps₁.aligned hr))
  exact ⟨hvalid, haligned hnarrow, haligned hwide⟩

-- ============================================================== rows

/-- What runs on each of a row gives back what it gives for each. -/
theorem mapM_eq_ok_map {α β : Type} {f : α → Except Fault β} {row : α → β}
    {as : List α} (h : ∀ a ∈ as, f a = .ok (row a)) :
    as.mapM f = .ok (as.map row) := by
  induction as with
  | nil => rfl
  | cons a as ih =>
    obtain ⟨ha, has⟩ := List.forall_mem_cons.1 h
    rw [List.mapM_cons, ha, ih has]
    rfl

/-- The row for a mapping whose output leads to that input. -/
def rowTo (t : Topology) (table : Router) (m : Mapping) (input : PortId) :
    MapRow where
  window := m.window
  port := (table.outputName? m.port).getD ""
  target := t.graph.portPath input
  rebase := m.rebase
  attrs := m.attrs

theorem mapRow_eq_rowTo {t : Topology} {r : ComponentId} {table : Router}
    {m : Mapping} {input : PortId}
    (h : ∃ name exit, table.outputName? m.port = some name
      ∧ t.graph.findPort? r name = some exit
      ∧ t.graph.follow exit = .ok input) :
    t.mapRow r table m = .ok (t.rowTo table m input) := by
  obtain ⟨name, exit, hname, hfound, hfollow⟩ := h
  have hrequire : t.graph.requirePort r name = .ok exit := by
    rw [Graph.requirePort, hfound]
  simp only [mapRow, rowTo, hname, Option.getD_some, hrequire,
    ok_bind, hfollow]
  rfl

-- ========================================================== statement

/-- The rows chart a router: the windows ascend and are disjoint, they hold the
addresses that the table resolves, and each row is true of the routes through
its window. -/
structure Charts (t : Topology) (r : ComponentId) (table : Router)
    (rows : List MapRow) : Prop where
  isTable : (t.graph.component r).table? = some table
  addressMap_eq : t.addressMap r = .ok rows
  ascending : rows.Pairwise fun a b => a.window.base < b.window.base
  disjoint : rows.Pairwise fun a b => a.window.Disjoint b.window
  resolves_iff : ∀ addr, (∃ resolved, table.resolve addr = .ok resolved)
    ↔ ∃! row, row ∈ rows ∧ addr ∈ row.window
  /-- The row is the mapping that the table resolves the address with. -/
  resolved : ∀ addr resolved, table.resolve addr = .ok resolved → ∀ row ∈ rows,
    addr ∈ row.window → row.window = resolved.mapping.window
      ∧ row.rebase = resolved.mapping.rebase
      ∧ row.attrs = resolved.mapping.attrs
      ∧ table.outputName? resolved.mapping.port = some row.port
  /-- The target is the input that the first hop arrives at; from its owner
  the route goes on if that is a router, and else it ends there. -/
  entered : ∀ addr, ∀ row ∈ rows, addr ∈ row.window →
    ∃ input step, t.graph.arrival r addr = .ok input
      ∧ row.target = t.graph.portPath input
      ∧ t.graph.hop r addr = .ok (step, (t.graph.port input).owner)
      ∧ t.graph.route r addr =
        if (t.graph.component (t.graph.port input).owner).isRouter then
          (t.graph.routeWithin addr (hopLimit - 1) (t.graph.port input).owner
            step.addrOut).map
            fun onward => { onward with hops := step :: onward.hops }
        else .ok {
          target := (t.graph.port input).owner
          targetPath := t.graph.path (t.graph.port input).owner
          localAddr := step.addrOut
          hops := [step]
          attrs := step.mapping.attrs }

/-- The map of an aligned router charts it. -/
theorem charts_of_aligned {t : Topology} {r : ComponentId}
    (hvalid : t.graph.validate = .ok ()) (h : t.graph.Aligned r) :
    ∃ table rows, t.Charts r table rows := by
  obtain ⟨table, htable, hsound, -⟩ := h.table
  choose! input hname harrive using fun m (hm : m ∈ table.mappings) =>
    h.arrives hvalid htable hm
  have hperm := hsound.decodes.byAddress_perm
  have hmem : ∀ row, row ∈ table.byAddress.map
      (fun m => t.rowTo table m (input m)) ↔
      ∃ m ∈ table.mappings, t.rowTo table m (input m) = row := by
    intro row
    rw [List.mem_map]
    simp only [hperm.mem_iff]
  refine ⟨table, table.byAddress.map fun m => t.rowTo table m (input m), ?_⟩
  constructor
  case isTable => exact htable
  case addressMap_eq =>
    have hrouter : t.graph.router r = .ok table := by rw [Graph.router, htable]
    rw [addressMap, hrouter, ok_bind]
    apply mapM_eq_ok_map
    intro m hm
    exact mapRow_eq_rowTo (hname m (hperm.mem_iff.1 hm))
  case ascending => exact List.pairwise_map.2 hsound.byAddress_ascending
  case disjoint =>
    refine List.pairwise_map.2
      ((hperm.pairwise_iff ?_).2 hsound.decodes.disjoint)
    intro a b hab addr hb ha
    exact hab addr ha hb
  case resolves_iff =>
    intro addr
    rw [hsound.decodes.ok_iff]
    constructor
    · intro hin
      obtain ⟨m, hm, haddr⟩ := hin
      refine ⟨t.rowTo table m (input m),
        ⟨(hmem _).2 ⟨m, hm, rfl⟩, haddr⟩, fun row hrow => ?_⟩
      obtain ⟨m', hm', rfl⟩ := (hmem row).1 hrow.1
      rw [hsound.eq_of_mem hm hm' haddr hrow.2]
    · intro hrow
      obtain ⟨row, ⟨hrow, haddr⟩, -⟩ := hrow
      obtain ⟨m, hm, rfl⟩ := (hmem row).1 hrow
      exact ⟨m, hm, haddr⟩
  case resolved =>
    intro addr resolved hresolve row hrow haddr
    obtain ⟨m, hm, rfl⟩ := (hmem row).1 hrow
    rw [← (hsound.decodes.only addr resolved hresolve m).1 ⟨hm, haddr⟩]
    obtain ⟨name, exit, hout, -, -⟩ := hname m hm
    exact ⟨rfl, rfl, rfl, by rw [rowTo, hout]; rfl⟩
  case entered =>
    intro addr row hrow haddr
    obtain ⟨m, hm, rfl⟩ := (hmem row).1 hrow
    obtain ⟨harrival, hhop⟩ :=
      harrive m hm addr (hsound.mappingAt?_eq_some_iff.2 ⟨hm, haddr⟩)
    exact ⟨input m, _, harrival, rfl, hhop, Graph.route_of_hop hhop⟩

/-- The address map and the routing agree: in every topology that is built,
whatever its layout and whatever operations its clusters were built by, the
maps of the narrow and the wide router exist and chart them. -/
theorem addressMap_agrees (hacts : Acts chip cluster) {binary : Option String}
    {t : Topology} (hbuild : build chip cluster binary = .ok t) :
    ∀ r, r = t.narrow ∨ r = t.wide → ∃ table rows, t.Charts r table rows := by
  obtain ⟨hvalid, hnarrow, hwide⟩ := aligned_of_build hacts hbuild
  intro r hr
  rcases hr with rfl | rfl
  · exact charts_of_aligned hvalid hnarrow
  · exact charts_of_aligned hvalid hwide

/-- The standard clusters, with one and two cores. -/
theorem pairConfig_charts : ∃ chip, ChipLayout.plan pairConfig = .ok chip
    ∧ chip.clusters.length = 2 ∧ Acts chip StandardCluster.build
    ∧ ∃ t, build chip StandardCluster.build none = .ok t
      ∧ ∀ r, r = t.narrow ∨ r = t.wide →
        ∃ table rows, t.Charts r table rows := by
  obtain ⟨chip, hplan, hlength⟩ : ∃ chip, ChipLayout.plan pairConfig = .ok chip
      ∧ chip.clusters.length = 2 := ⟨_, rfl, rfl⟩
  have hchip := ChipLayout.plan_sound hplan
  have hcluster : Collaborates chip StandardCluster.build :=
    collaborates_of_operatesOn hchip fun parent layout _ hparent =>
      StandardCluster.operatesOn parent layout hparent
  obtain ⟨graph, -, -, -, hbuild⟩ := build_of_sound hchip none
  exact ⟨chip, hplan, hlength, hcluster.acts, _, hbuild,
    addressMap_agrees hcluster.acts hbuild⟩

end Topology

end ChipFabric
