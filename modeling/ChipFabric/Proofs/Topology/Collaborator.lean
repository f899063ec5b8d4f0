/-
Clusters built by others. The builder of the clusters is a parameter of the
chip, and between two steps of the chip it has the whole graph in its hands.
All that is asked of it is `ClusterBuilder.OperatesOn`: it acts by operations,
and gives back handles of the graph. It may take names and windows, add
outputs and mappings to the routers of the chip, and bind any two ports.

# One cluster, and all

`addCluster_attached` and `clusters_attached` say what the chip has of a
cluster all the same. `StandardCluster.operatesOn` says that the standard
builder is one of those that are meant.
-/
import ChipFabric.Proofs.Fabric.Operates
import ChipFabric.Proofs.Topology.Standing
import Mathlib.Data.List.Forall2
import Mathlib.Data.List.Induction

namespace ChipFabric

open Edit

-- ===================================================== collaborators

/-- The handles at the boundary of a cluster are handles of the graph. -/
structure ClusterPorts.Fit (ports : ClusterPorts) (g : Graph) : Prop where
  narrowInput : ports.narrowInput.Fits g
  wideInput : ports.wideInput.Fits g
  fetchEnable : ports.fetchEnable.Fits g
  narrowSoc : ports.narrowSoc.Fits g
  wideSoc : ports.wideSoc.Fits g

/-- Called on the graph, the builder of a cluster acts by operations, with
whatever handles it has come by, and whether it then fails or not; the
handles it gives back are handles of the graph. -/
def ClusterBuilder.OperatesOn (cluster : ClusterBuilder) (parent : ComponentId)
    (layout : ClusterLayout) (g : Graph) : Prop :=
  (∃ s t : Session, s.graph = g ∧ s.Run t
    ∧ t.graph = ((cluster parent layout).on g).2)
    ∧ ∀ ports, ((cluster parent layout).on g).1 = .ok ports →
      ports.Fit ((cluster parent layout).on g).2

namespace StandardCluster

variable {s : Session}

/-- All handles at the boundary were handed out. -/
structure Issues (s : Session) (ports : ClusterPorts) : Prop where
  narrowInput : ports.narrowInput.issued ∈ s.issued
  wideInput : ports.wideInput.issued ∈ s.issued
  fetchEnable : ports.fetchEnable.issued ∈ s.issued
  narrowSoc : ports.narrowSoc.issued ∈ s.issued
  wideSoc : ports.wideSoc.issued ∈ s.issued

/-- Handles that were handed out remain so. -/
theorem Issues.run {t : Session} {ports : ClusterPorts} (h : Issues s ports)
    (hrun : s.Run t) : Issues t ports :=
  ⟨hrun.mem_issued h.narrowInput, hrun.mem_issued h.wideInput,
    hrun.mem_issued h.fetchEnable, hrun.mem_issued h.narrowSoc,
    hrun.mem_issued h.wideSoc⟩

/-- In a truthful session their ports are what they say. -/
theorem Issues.fit {ports : ClusterPorts} (h : Issues s ports)
    (htrue : s.Truthful) : ports.Fit s.graph :=
  ⟨htrue _ h.narrowInput, htrue _ h.wideInput, htrue _ h.fetchEnable,
    htrue _ h.narrowSoc, htrue _ h.wideSoc⟩

/-- The boundary hands out the ports that the chip will bind. -/
theorem addBoundary_operates {parent : ComponentId} (layout : ClusterLayout)
    (hparent : s.HasComponent parent) :
    (addBoundary parent layout).Operates s fun ports t =>
      t.HasComponent ports.component ∧ Issues t ports := by
  refine (Build.addGroup_operates _ hparent).bind fun component s₁ _ h₁ => ?_
  refine (Build.declare_operates _ _ _ h₁).bind
    fun narrowInput s₂ hrun₂ hnarrowInput => ?_
  have h₂ := hrun₂.hasComponent h₁
  refine (Build.declare_operates _ _ _ h₂).bind
    fun wideInput s₃ hrun₃ hwideInput => ?_
  have h₃ := hrun₃.hasComponent h₂
  refine (Build.declare_operates _ _ _ h₃).bind
    fun fetchEnable s₄ hrun₄ hfetchEnable => ?_
  have h₄ := hrun₄.hasComponent h₃
  refine (Build.declare_operates _ _ _ h₄).bind
    fun narrowSoc s₅ hrun₅ hnarrowSoc => ?_
  have h₅ := hrun₅.hasComponent h₄
  refine (Build.declare_operates _ _ _ h₅).bind
    fun wideSoc s₆ hrun₆ hwideSoc => ?_
  have hrun₄₆ := hrun₅.trans hrun₆
  have hrun₃₆ := hrun₄.trans hrun₄₆
  exact .pure ⟨hrun₆.hasComponent h₅,
    (hrun₃.trans hrun₃₆).mem_issued hnarrowInput, hrun₃₆.mem_issued hwideInput,
    hrun₄₆.mem_issued hfetchEnable, hrun₆.mem_issued hnarrowSoc,
    hwideSoc⟩

/-- The crossbar takes the ports of the boundary for its inputs. -/
theorem addCrossbar_operates {ports : ClusterPorts}
    (hcomponent : s.HasComponent ports.component) (hports : Issues s ports) :
    (addCrossbar ports).Operates s fun made t =>
      t.HasComponent made.1 ∧ made.2.issued ∈ t.issued := by
  refine (Build.addRouter_operates hcomponent (.new _ _)).bind
    fun crossbar s₁ hrun₁ h₁ => ?_
  refine (Build.routerInput_operates _ h₁).bind
    fun narrow s₂ hrun₂ hnarrow => ?_
  have h₂ := hrun₂.hasComponent h₁
  refine (Build.addRouterInput_operates _ h₂).bind
    fun wide s₃ hrun₃ hwide => ?_
  have hports₃ := ((hports.run hrun₁).run hrun₂).run hrun₃
  have hnarrow₃ := hrun₃.mem_issued hnarrow
  refine (Build.bind_operates hports₃.narrowInput hnarrow₃).bind
    fun _ s₄ hrun₄ _ => ?_
  refine (Build.bind_operates (hports₃.run hrun₄).wideInput
    (hrun₄.mem_issued hwide)).bind
    fun _ s₅ hrun₅ _ => ?_
  have hrun₃₅ := hrun₄.trans hrun₅
  exact .pure ⟨(hrun₃.trans hrun₃₅).hasComponent h₂,
    hrun₃₅.mem_issued hnarrow₃⟩

/-- A memory and its window are two operations. -/
theorem addMemory_operates {cluster crossbar : ComponentId} (name : String)
    (window : Window) (device : Device) (hcluster : s.HasComponent cluster)
    (hcrossbar : s.HasComponent crossbar) :
    (addMemory cluster crossbar name window device).Operates s fun _ _ =>
      True := by
  refine (Build.addTerminal_operates _ _ hcluster).bind
    fun made s₁ hrun₁ hinput => ?_
  refine (Build.mapWindow_operates _ _ _ _ (hrun₁.hasComponent hcrossbar)
    hinput).bind fun _ _ _ _ => .pure trivial

theorem addMemories_operates {cluster crossbar : ComponentId}
    (layout : ClusterLayout) (hcluster : s.HasComponent cluster)
    (hcrossbar : s.HasComponent crossbar) :
    (addMemories cluster crossbar layout).Operates s fun _ _ => True := by
  refine (addMemory_operates _ _ _ hcluster hcrossbar).bind
    fun _ s₁ hrun₁ _ => ?_
  have hcluster₁ := hrun₁.hasComponent hcluster
  have hcrossbar₁ := hrun₁.hasComponent hcrossbar
  refine (addMemory_operates _ _ _ hcluster₁ hcrossbar₁).bind
    fun _ s₂ hrun₂ _ => ?_
  exact addMemory_operates _ _ _ (hrun₂.hasComponent hcluster₁)
    (hrun₂.hasComponent hcrossbar₁)

/-- A core binds its own ports and those of the boundary. -/
theorem addCore_operates {ports : ClusterPorts} {crossbar : InputPort .io}
    (firstHart localId : Nat) (hcomponent : s.HasComponent ports.component)
    (hcrossbar : crossbar.issued ∈ s.issued) (hports : Issues s ports) :
    (addCore ports.component crossbar ports.narrowSoc ports.fetchEnable
      firstHart localId).Operates s
      fun _ _ => True := by
  refine (Build.addDevice_operates _ _ hcomponent).bind
    fun core s₁ hrun₁ h₁ => ?_
  refine (Build.declare_operates _ _ _ h₁).bind fun data s₂ hrun₂ hdata => ?_
  have h₂ := hrun₂.hasComponent h₁
  refine (Build.declare_operates _ _ _ h₂).bind fun soc s₃ hrun₃ hsoc => ?_
  refine (Build.declare_operates _ _ _ (hrun₃.hasComponent h₂)).bind
    fun fetch s₄ hrun₄ hfetch => ?_
  have hrun₁₄ := hrun₁.trans (hrun₂.trans (hrun₃.trans hrun₄))
  have hports₄ := hports.run hrun₁₄
  refine (Build.bind_operates ((hrun₃.trans hrun₄).mem_issued hdata)
    (hrun₁₄.mem_issued hcrossbar)).bind fun _ s₅ hrun₅ _ => ?_
  refine (Build.bind_operates ((hrun₄.trans hrun₅).mem_issued hsoc)
    (hports₄.run hrun₅).narrowSoc).bind fun _ s₆ hrun₆ _ => ?_
  have hrun₄₆ := hrun₅.trans hrun₆
  exact Build.bind_operates (hports₄.run hrun₄₆).fetchEnable
    (hrun₄₆.mem_issued hfetch)

/-- So does the engine, with the wide plane. -/
theorem addEngine_operates {ports : ClusterPorts} (id : Nat)
    (hcomponent : s.HasComponent ports.component) (hports : Issues s ports) :
    (addEngine ports.component ports.wideSoc id).Operates s fun _ _ =>
      True := by
  refine (Build.addDevice_operates _ _ hcomponent).bind
    fun idma s₁ hrun₁ h₁ => ?_
  refine (Build.declare_operates _ _ _ h₁).bind fun out s₂ hrun₂ hout => ?_
  exact Build.bind_operates hout ((hports.run hrun₁).run hrun₂).wideSoc

/-- The standard builder of clusters is a row of operations. -/
theorem build_operates {parent : ComponentId} (layout : ClusterLayout)
    (hparent : s.HasComponent parent) :
    (build parent layout).Operates s fun ports t => Issues t ports := by
  refine (addBoundary_operates layout hparent).bind
    fun ports s₁ _ hboundary => ?_
  obtain ⟨hcomponent, hports⟩ := hboundary
  refine (addCrossbar_operates hcomponent hports).bind
    fun made s₂ hrun₂ hmade => ?_
  obtain ⟨hcrossbar, hnarrow⟩ := hmade
  have hcomponent₂ := hrun₂.hasComponent hcomponent
  refine (addMemories_operates layout hcomponent₂ hcrossbar).bind
    fun _ s₃ hrun₃ _ => ?_
  have hrun₂₃ := hrun₂.trans hrun₃
  have hcores :
      ((List.range layout.coreCount).forM
        (addCore ports.component made.2 ports.narrowSoc ports.fetchEnable
          layout.firstHart)).Operates s₃ fun _ _ => True :=
    .forM fun localId _ t hrun => addCore_operates layout.firstHart localId
      ((hrun₂₃.trans hrun).hasComponent hcomponent)
      ((hrun₃.trans hrun).mem_issued hnarrow)
      (hports.run (hrun₂₃.trans hrun))
  refine hcores.bind fun _ s₄ hrun₄ _ => ?_
  have hrun₂₄ := hrun₂₃.trans hrun₄
  refine (addEngine_operates layout.id (hrun₂₄.hasComponent hcomponent)
    (hports.run hrun₂₄)).bind
    fun _ s₅ hrun₅ _ => ?_
  exact .pure (hports.run (hrun₂₄.trans hrun₅))

/-- The standard builder is one that acts by operations, below every component
that is there. -/
theorem operatesOn (parent : ComponentId) (layout : ClusterLayout) {g : Graph}
    (hparent : parent.index < g.components.size) :
    ClusterBuilder.OperatesOn build parent layout g := by
  have htrue : (⟨g, []⟩ : Session).Truthful := nofun
  obtain ⟨t, hrun, hgraph, hports⟩ :=
    build_operates (s := ⟨g, []⟩) layout hparent
  refine ⟨⟨_, t, rfl, hrun, hgraph⟩, fun ports hok => ?_⟩
  have hfit := (hports ports hok).fit (hrun.changes htrue).2
  rwa [hgraph] at hfit

end StandardCluster

namespace Topology

/-- While the chip is built, its clusters' builder is called under that
component on that graph, after it has built the clusters before. -/
def CallsOn (chip : ChipLayout) (cluster : ClusterBuilder)
    (before : List ClusterLayout) (parent : ComponentId) (g : Graph) : Prop :=
  ∃ planes bare built, (addPlanes chip).on (Graph.new "board") =
    (.ok planes, bare)
    ∧ parent = planes.soc
    ∧ (before.mapM (addCluster cluster planes)).on bare = (.ok built, g)

/-- Whenever it is called while the chip is built, the builder of the clusters
acts by operations. -/
def Collaborates (chip : ChipLayout) (cluster : ClusterBuilder) : Prop :=
  ∀ before layout after, chip.clusters = before ++ layout :: after →
    ∀ parent g, CallsOn chip cluster before parent g →
      cluster.OperatesOn parent layout g

-- ============================================================ steps

variable {chip : ChipLayout} {cluster : ClusterBuilder} {g g' bare : Graph}

/-- A cluster as the chip holds it: it has its cores, and its region is mapped
on the narrow router and bound to its input. -/
structure Attached (g : Graph) (layout : ClusterLayout)
    (ports : ClusterPorts) : Prop where
  coreCount : ports.coreCount = layout.coreCount
  narrowInput : ports.narrowInput.Fits g
  fetchEnable : ports.fetchEnable.Fits g
  serves : ∃ port exit,
    g.Serves ⟨3⟩ ⟨layout.region, port, true, {}⟩ exit ports.narrowInput.port

/-- What was attached stays attached. -/
theorem Attached.grows {layout : ClusterLayout} {ports : ClusterPorts}
    (h : Attached g layout ports) (hgrows : g.Grows g') :
    Attached g' layout ports := by
  obtain ⟨port, exit, hserves⟩ := h.serves
  exact ⟨h.coreCount, h.narrowInput.grows hgrows, h.fetchEnable.grows hgrows,
    port, exit, hgrows.serves hserves⟩

/-- The loader finds the ports that it is to start. -/
theorem Attached.fetchEnable_fits {layouts : List ClusterLayout}
    {built : List ClusterPorts} (h : List.Forall₂ (Attached g) layouts built) :
    ∀ ports ∈ built, ports.fetchEnable.Fits g := by
  induction h with
  | nil => exact nofun
  | cons hfirst _ ih => exact List.forall_mem_cons.2 ⟨hfirst.fetchEnable, ih⟩

/-- The chip binds a cluster to its planes and maps the region. -/
theorem attach_ensures (h : Standing chip g) {made : ClusterPorts}
    (hmade : made.Fit g) (layout : ClusterLayout) :
    (do
      Build.bind made.narrowSoc planeHandles.narrowIn
      Build.bind made.wideSoc planeHandles.wideIn
      let _ ← Build.mapWindow planeHandles.narrow (clusterName layout.id)
        made.narrowInput
        layout.region true {}
      return made : Build ClusterPorts).Ensures Router.Made g fun ports g' =>
        ports = made
        ∧ ∃ port exit, g'.Serves ⟨3⟩ ⟨layout.region, port, true, {}⟩ exit
          made.narrowInput.port := by
  have hnarrow : planeHandles.narrowIn.Fits g := h.narrowIn.fits rfl
  refine (Build.bind_ensures hmade.narrowSoc hnarrow).bind
    fun _ g₁ hchanges₁ _ => ?_
  have hwide : planeHandles.wideIn.Fits g₁ :=
    (h.grows hchanges₁.grows).wideIn.fits rfl
  refine (Build.bind_ensures (hmade.wideSoc.changes hchanges₁) hwide).bind
    fun _ g₂ hchanges₂ _ => ?_
  have hinput := (hmade.narrowInput.changes hchanges₁).changes hchanges₂
  have hstep := (h.grows (hchanges₁.grows.trans hchanges₂.grows)).narrow_inStep
  refine (Build.mapWindow_ensures _ _ _ _ _ hinput).bind
    fun exit g₃ _ hmapped => ?_
  obtain ⟨port, hserves⟩ := hmapped.2 hstep
  exact .pure ⟨rfl, port, exit.port, hserves⟩

/-- A cluster that was built by somebody else is attached to the planes. -/
theorem addCluster_attached (h : Standing chip g) {layout : ClusterLayout}
    {ports : ClusterPorts} (hoperates : cluster.OperatesOn ⟨2⟩ layout g)
    (hon : (addCluster cluster planeHandles layout).on g = (.ok ports, g')) :
    g.Grows g' ∧ Attached g' layout ports := by
  obtain ⟨⟨s, t, rfl, hrun, ht⟩, hfit⟩ := hoperates
  obtain ⟨made, g₁, hcluster, hrest⟩ := on_bind_eq_ok_iff.1 hon
  change (cluster ⟨2⟩ layout).on s.graph = _ at hcluster
  rw [hcluster] at ht hfit
  have hgrows : s.graph.Grows g₁ := by
    rw [← show t.graph = g₁ from ht]
    exact hrun.grows
  have hmade : made.Fit g₁ := hfit made rfl
  by_cases hcount : made.coreCount = layout.coreCount
  · simp only [hcount, ne_eq, not_true_eq_false, ↓reduceIte] at hrest
    obtain ⟨hchanges, hpost⟩ := attach_ensures (h.grows hgrows) hmade layout
    rw [hrest] at hchanges hpost
    obtain ⟨rfl, hserves⟩ := hpost ports rfl
    exact ⟨hgrows.trans hchanges.grows, hcount,
      hmade.narrowInput.changes hchanges, hmade.fetchEnable.changes hchanges,
      hserves⟩
  · simp [hcount] at hrest

/-- All clusters are attached, whatever was done while they were built. -/
theorem clusters_attached (hbare : Standing chip bare)
    (hon : (addPlanes chip).on (Graph.new "board") = (.ok planeHandles, bare))
    (hcluster : Collaborates chip cluster) {before after : List ClusterLayout}
    (hsplit : chip.clusters = before ++ after) {built : List ClusterPorts}
    (hbuilt : (before.mapM (addCluster cluster planeHandles)).on bare =
      (.ok built, g)) :
    bare.Grows g ∧ List.Forall₂ (Attached g) before built := by
  induction before using List.reverseRecOn generalizing after built g with
  | nil =>
    obtain ⟨rfl, rfl⟩ : built = []
      ∧ g = bare := by simpa [eq_comm] using hbuilt
    exact ⟨.refl g, .nil⟩
  | append_singleton before layout ih =>
    obtain ⟨init, last, g₁, hinit, hlast, rfl⟩ := on_mapM_concat_eq_ok hbuilt
    rw [List.append_assoc, List.singleton_append] at hsplit
    obtain ⟨hgrows, hattached⟩ := ih hsplit hinit
    have hoperates := hcluster before layout after hsplit ⟨2⟩ g₁
      ⟨planeHandles, bare, init, hon, rfl, hinit⟩
    obtain ⟨hgrows', hlast⟩ := addCluster_attached (hbare.grows hgrows)
      hoperates hlast
    exact ⟨hgrows.trans hgrows', List.rel_append
      (hattached.imp fun _ _ h => h.grows hgrows') (.cons hlast .nil)⟩

/-- A builder that acts by operations wherever there is the component to build
under collaborates. -/
theorem collaborates_of_operatesOn (hchip : chip.Sound)
    (h : ∀ parent layout (g : Graph), parent.index < g.components.size →
      cluster.OperatesOn parent layout g) : Collaborates chip cluster := by
  obtain ⟨bare, hon, hbare⟩ := addPlanes_stand hchip
  have hgrows : ∀ (before : List ClusterLayout) g built,
      (before.mapM (addCluster cluster planeHandles)).on bare =
        (.ok built, g) → bare.Grows g := by
    intro before
    induction before using List.reverseRecOn with
    | nil =>
      intro g built hbuilt
      obtain ⟨-, rfl⟩ : built = []
        ∧ g = bare := by simpa [eq_comm] using hbuilt
      exact .refl g
    | append_singleton before layout ih =>
      intro g built hbuilt
      obtain ⟨init, last, g₁, hinit, hlast, -⟩ := on_mapM_concat_eq_ok hbuilt
      have hstand := hbare.grows (ih g₁ init hinit)
      have hsoc := (g₁.lookup?_eq_some_iff.1 hstand.soc).1
      exact (ih g₁ init hinit).trans
        (addCluster_attached hstand (h _ layout g₁ hsoc) hlast).1
  rintro before layout after - parent g ⟨planes, bare', built, hon',
    rfl, hbuilt⟩
  obtain ⟨hplanes, rfl⟩ := Prod.mk.inj (hon'.symm.trans hon)
  obtain rfl := Except.ok.inj hplanes
  have hstand := hbare.grows (hgrows before g built hbuilt)
  exact h _ layout g (g.lookup?_eq_some_iff.1 hstand.soc).1

end Topology

end ChipFabric
