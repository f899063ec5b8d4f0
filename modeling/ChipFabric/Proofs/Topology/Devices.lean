/-
Devices and their windows. Sizes of devices and sizes of windows are written
in different places, and the external memory has windows on two routers; all
the same there is one entry of a router's table for each device that answers
accesses, and its window is as large as the device.

# The statement

`windows_fit_of_plan`: of every chip that is laid out, whatever the number of
its clusters, `WindowsFit` holds. An entry is a router and a place in its
table; what it leads to is what is beyond the mapping at that place.

# The entries

`Wired` lists them with what they lead to, by the numbers of the sites
(`ends_iff`). The planes, the sites and what is outside are blocks of numbers
that are apart (`Block.apart`), and a place in a block is led to by one entry
only (`Block.entry?`), so one entry leads to each device (`Wired.unique`).
-/
import ChipFabric.Proofs.Topology.Success

namespace ChipFabric

-- =========================================================== entries

/-- An entry of a router's table, by its place there. -/
structure Entry where
  router : ComponentId
  place : Nat
  deriving DecidableEq

namespace Graph

variable {g : Graph}

/-- The mapping stands at that place of the router's table. -/
def Holds (g : Graph) (e : Entry) (m : Mapping) : Prop :=
  ∃ table, (g.component e.router).table? = some table
    ∧ table.mappings[e.place]? = some m

/-- An access through the entry goes on to that component. -/
structure Ends (g : Graph) (e : Entry) (m : Mapping) (next : ComponentId) :
    Prop where
  holds : g.Holds e m
  beyond : g.beyond (g.component e.router) m.port = .ok next

theorem Ends.of_kind {e : Entry} {m : Mapping} {next : ComponentId}
    {table : Router} {exits : List PortId}
    (hkind : (g.component e.router).kind = .router table exits)
    (hm : table.mappings[e.place]? = some m)
    (hbeyond : g.beyond (g.component e.router) m.port = .ok next) :
    g.Ends e m next :=
  ⟨⟨table, Component.table?_of_kind hkind, hm⟩, hbeyond⟩

theorem lt_of_kind_eq_device {id : ComponentId} {device : Device}
    (h : (g.component id).kind = .device device) :
    id.index < g.components.size := by
  by_contra hout
  rw [component, Array.getElem?_eq_none (Nat.le_of_not_lt hout)] at h
  cases h

/-- Parts of one path are one part. -/
theorem eq_of_path_eq (hs : g.inventory.Sound) {id other : ComponentId}
    {part part' : Part} (h : g.inventory.parts[id.index]? = some part)
    (h' : g.inventory.parts[other.index]? = some part')
    (hpath : part.path = part'.path) : id = other := by
  have hid := g.lookup?_of_sound hs id h
  have hother := g.lookup?_of_sound hs other h'
  rw [hpath, hother] at hid
  exact (Option.some.inj hid).symm

end Graph

namespace StandardCluster

variable {n p : Nat} {top : String} {layout : ClusterLayout}

/-- At each place of the crossbar's table is the window of the memory of that
number. -/
theorem getElem?_crossbarTable {k : Nat} {m : Mapping}
    (h : (crossbarTable layout).mappings[k]? = some m) :
    ∃ place, (places layout)[k]? = some place
      ∧ m = ⟨place.window, ⟨k⟩, false, {}⟩ := by
  have hmappings : (crossbarTable layout).mappings =
      [⟨layout.tcdm, ⟨0⟩, false, {}⟩, ⟨layout.periph, ⟨1⟩, false, {}⟩,
        ⟨layout.zeroMem, ⟨2⟩, false, {}⟩] := rfl
  rw [hmappings] at h
  have hk : k < 3 := (List.getElem?_eq_some_iff.1 h).1
  rcases eq_of_lt_three hk with rfl | rfl | rfl
  all_goals
    obtain rfl := Option.some.inj h
    exact ⟨_, rfl, rfl⟩

theorem getElem?_crossbarTable_of_place {k : Nat} {place : Place}
    (h : (places layout)[k]? = some place) :
    (crossbarTable layout).mappings[k]? = some ⟨place.window, ⟨k⟩,
      false, {}⟩ := by
  rcases eq_of_lt_three (lt_of_places h) with rfl | rfl | rfl
    <;> cases h <;> rfl

/-- A memory is as large as its window. -/
theorem size?_of_mem_places {place : Place} (h : place ∈ places layout) :
    place.device.size? = some place.window.size := by
  simp only [places, List.mem_cons, List.not_mem_nil, or_false] at h
  rcases h with rfl | rfl | rfl <;> rfl

/-- The memories are the only parts of a cluster that answer. -/
theorem place_of_mem {path : String} {device : Device}
    (hterminal : device.isTerminal)
    (h : ⟨path, .device device⟩ ∈ (inventory n p top layout).parts) :
    ∃ place ∈ places layout, path = top ++ "/" ++ place.name
      ∧ device = place.device := by
  simp only [inventory, Inventory.parts_append, List.mem_append] at h
  rcases h with (h | h) | h
  · simpa [fixed, front, boundary, crossbar, memories, memory, places] using h
  · simp only [cores, Inventory.join, core, List.flatMap_map, List.mem_flatMap,
      List.mem_singleton, Part.mk.injEq, ComponentKind.device.injEq] at h
    obtain ⟨j, -, -, rfl⟩ := h
    cases hterminal
  · simp only [engine, List.mem_singleton, Part.mk.injEq,
      ComponentKind.device.injEq] at h
    obtain ⟨-, rfl⟩ := h
    cases hterminal

end StandardCluster

namespace Topology

open StandardCluster (places)

-- ============================================================= sites

/-- A site ends before the next one starts. -/
theorem pairwise_sites (n p : Nat) (clusters : List ClusterLayout) :
    (sites n p clusters).Pairwise fun a b => a.part + 6 ≤ b.part := by
  induction clusters generalizing n p with
  | nil => exact .nil
  | cons cluster rest ih =>
    refine List.pairwise_cons.2 ⟨fun site hsite => ?_, ih _ _⟩
    have hle := (mem_sites hsite).2.1
    show n + 6 ≤ site.part
    omega

/-- So does a site that stands earlier in their row. -/
theorem part_add_le {n p : Nat} {clusters : List ClusterLayout} {a b : Site}
    {i j : Nat} (ha : (sites n p clusters)[i]? = some a)
    (hb : (sites n p clusters)[j]? = some b) (hij : i < j) :
    a.part + 6 ≤ b.part := by
  obtain ⟨hi, rfl⟩ := List.getElem?_eq_some_iff.1 ha
  obtain ⟨hj, rfl⟩ := List.getElem?_eq_some_iff.1 hb
  exact List.pairwise_iff_getElem.1 (pairwise_sites n p clusters) i j hi hj hij

/-- All sites are after the ROM and before the loader. -/
theorem part_bounds {clusters : List ClusterLayout} {site : Site}
    (h : site ∈ sites 6 8 clusters) :
    6 ≤ site.part ∧ site.part + 6 ≤ partCount clusters := by
  obtain ⟨before, after, heq, hpart, -⟩ := joined_of_mem h
  refine ⟨(mem_sites h).2.1, ?_⟩
  simp only [partCount, heq, Inventory.parts_append, List.length_append,
    Site.length_parts_inventory]
  omega

-- ============================================================ wiring

variable {layout : ChipLayout}

/-- The entries of the chip's routers with what they lead to. -/
inductive Wired (layout : ChipLayout) : Entry → Mapping → ComponentId → Prop
  | rom : Wired layout ⟨⟨3⟩, 0⟩ (romMapping layout) ⟨5⟩
  | pass : Wired layout ⟨⟨3⟩, 1⟩ (passMapping layout) ⟨4⟩
  | cluster {i : Nat} {site : Site}
      (h : (sites 6 8 layout.clusters)[i]? = some site) :
      Wired layout ⟨⟨3⟩, 2 + i⟩ (clusterMapping site.cluster) ⟨site.part + 1⟩
  | external :
      Wired layout ⟨⟨4⟩, 0⟩ (hbmMapping layout) ⟨partCount layout.clusters + 1⟩
  | place {site : Site} {k : Nat} {place : StandardCluster.Place}
      (h : site ∈ sites 6 8 layout.clusters)
      (hplace : (places site.cluster)[k]? = some place) :
      Wired layout ⟨⟨site.part + 1⟩, k⟩ ⟨place.window, ⟨k⟩, false, {}⟩
        ⟨site.part + (2 + k)⟩

/-- The devices of the chip that answer accesses. -/
inductive Terminal (layout : ChipLayout) : ComponentId → Part → Prop
  | rom : Terminal layout ⟨5⟩
      ⟨"board/chip/soc/rom", .device (.bootRom layout.bootrom.size)⟩
  | external : Terminal layout ⟨partCount layout.clusters + 1⟩
      ⟨externalPath layout, .device (.hbm layout.hbmModel layout.hbm.size)⟩
  | place {site : Site} {k : Nat} {place : StandardCluster.Place}
      (h : site ∈ sites 6 8 layout.clusters)
      (hplace : (places site.cluster)[k]? = some place) :
      Terminal layout ⟨site.part + (2 + k)⟩
        ⟨site.top ++ "/" ++ place.name, .device place.device⟩

/-- Numbers that belong together: those of the planes and the ROM, the first
ones of a site, and those of what is outside the chip. -/
inductive Block where
  | planes
  | cluster (i : Nat) (site : Site)
  | outside

namespace Block

def start (layout : ChipLayout) : Block → Nat
  | planes => 0
  | cluster _ site => site.part
  | outside => partCount layout.clusters

/-- A block of a site is one of the chip's sites. -/
def Stands (layout : ChipLayout) : Block → Prop
  | cluster i site => (sites 6 8 layout.clusters)[i]? = some site
  | _ => True

theorem apart {a b : Block} (ha : a.Stands layout) (hb : b.Stands layout)
    (hne : a ≠ b) : a.start layout + 6 ≤ b.start layout
      ∨ b.start layout + 6 ≤ a.start layout := by
  have hcount : 6 ≤ partCount layout.clusters := Nat.le_add_right _ _
  have hsite : ∀ {i site}, (Block.cluster i site).Stands layout →
      6 ≤ site.part ∧ site.part + 6 ≤ partCount layout.clusters :=
    fun h => part_bounds (List.mem_of_getElem? h)
  cases a with
  | planes =>
    cases b with
    | planes => exact absurd rfl hne
    | cluster j other => exact .inl (by simpa [start] using (hsite hb).1)
    | outside => exact .inl (by simpa [start] using hcount)
  | cluster i site =>
    cases b with
    | planes => exact .inr (by simpa [start] using (hsite ha).1)
    | cluster j other =>
      rcases Nat.lt_trichotomy i j with hij | rfl | hji
      · exact .inl (part_add_le ha hb hij)
      · obtain rfl := Option.some.inj (ha.symm.trans hb)
        exact absurd rfl hne
      · exact .inr (part_add_le hb ha hji)
    | outside => exact .inl (hsite ha).2
  | outside =>
    cases b with
    | planes => exact .inr (by simpa [start] using hcount)
    | cluster j other => exact .inr (hsite hb).2
    | outside => exact absurd rfl hne

/-- No two places of the blocks have one number. -/
theorem eq_of_start_add {a b : Block} (ha : a.Stands layout)
    (hb : b.Stands layout) {j k : Nat} (hj : j < 6) (hk : k < 6)
    (h : a.start layout + j = b.start layout + k) : a = b ∧ j = k := by
  by_cases hne : a = b
  · subst hne
    exact ⟨rfl, Nat.add_left_cancel h⟩
  · have happart := apart ha hb hne
    omega

/-- The entry that leads to the place of the block, if one does. -/
def entry? (layout : ChipLayout) : Block → Nat → Option (Entry × Mapping)
  | planes, 4 => some (⟨⟨3⟩, 1⟩, passMapping layout)
  | planes, 5 => some (⟨⟨3⟩, 0⟩, romMapping layout)
  | cluster i site, 1 => some (⟨⟨3⟩, 2 + i⟩, clusterMapping site.cluster)
  | cluster _ site, k + 2 => (places site.cluster)[k]?.map fun place =>
      (⟨⟨site.part + 1⟩, k⟩, ⟨place.window, ⟨k⟩, false, {}⟩)
  | outside, 1 => some (⟨⟨4⟩, 0⟩, hbmMapping layout)
  | _, _ => none

end Block

/-- What an entry leads to has a place in a block, which is led to by that
entry. -/
theorem Wired.exists_block {e : Entry} {m : Mapping} {next : ComponentId}
    (h : Wired layout e m next) : ∃ block : Block, ∃ j, block.Stands layout
      ∧ j < 6 ∧ next.index = block.start layout + j
      ∧ block.entry? layout j = some (e, m) := by
  cases h with
  | rom => exact ⟨.planes, 5, trivial, by decide, rfl, rfl⟩
  | pass => exact ⟨.planes, 4, trivial, by decide, rfl, rfl⟩
  | cluster hsite => exact ⟨.cluster _ _, 1, hsite, by decide, rfl, rfl⟩
  | external => exact ⟨.outside, 1, trivial, by decide, rfl, rfl⟩
  | @place site k place hsite hplace =>
    obtain ⟨i, hi⟩ := List.mem_iff_getElem?.1 hsite
    have hk := StandardCluster.lt_of_places hplace
    refine ⟨.cluster i site, k + 2, hi, by omega, ?_, ?_⟩
    · rw [Nat.add_comm k 2]
      rfl
    · simp [Block.entry?, hplace]

/-- One entry leads to a component, with one mapping. -/
theorem Wired.unique {e e' : Entry} {m m' : Mapping} {next : ComponentId}
    (h : Wired layout e m next) (h' : Wired layout e' m' next) :
    e' = e ∧ m' = m := by
  obtain ⟨a, j, ha, hj, hindex, hentry⟩ := h.exists_block
  obtain ⟨b, k, hb, hk, hindex', hentry'⟩ := h'.exists_block
  obtain ⟨rfl, rfl⟩ :=
    Block.eq_of_start_add ha hb hj hk (hindex.symm.trans hindex')
  exact Prod.mk.inj (Option.some.inj (hentry'.symm.trans hentry))

/-- Each device that answers is led to by an entry whose window is as large
as the device. -/
theorem Terminal.entry {id : ComponentId} {part : Part}
    (h : Terminal layout id part) : ∃ e m, Wired layout e m id
      ∧ ∀ device, part.kind = .device device →
        device.size? = some m.window.size := by
  cases h with
  | rom =>
    refine ⟨_, _, .rom, fun device hdevice => ?_⟩
    cases hdevice
    rfl
  | external =>
    refine ⟨_, _, .external, fun device hdevice => ?_⟩
    cases hdevice
    rfl
  | place hsite hplace =>
    refine ⟨_, _, .place hsite hplace, fun device hdevice => ?_⟩
    cases hdevice
    exact StandardCluster.size?_of_mem_places (List.mem_of_getElem? hplace)

-- ============================================================= graph

section

variable {binary : Option String} {graph : Graph}
  (hg : graph.inventory = inventory layout binary)
include hg

/-- A router of the chip is one of the planes or a crossbar. -/
theorem router_cases (hs : graph.inventory.Sound) {r : ComponentId}
    {table : Router} {exits : List PortId}
    (hkind : (graph.component r).kind = .router table exits) :
    (r = ⟨3⟩ ∧ table = narrowTable layout layout.clusters)
    ∨ (r = ⟨4⟩ ∧ table = wideTable layout)
    ∨ ∃ site ∈ sites 6 8 layout.clusters, r = ⟨site.part + 1⟩
      ∧ table = StandardCluster.crossbarTable site.cluster := by
  have hpart := Graph.part_of_lt (graph.lt_of_kind_eq_router hkind)
  rw [hkind] at hpart
  have hmem := List.mem_of_getElem? hpart
  rw [hg] at hmem
  rcases router_of_mem hmem with ⟨hpath, rfl, -⟩ | ⟨hpath, rfl, -⟩
    | ⟨site, hsite, hpath, rfl, -⟩
  · have hnarrow : graph.inventory.parts[3]? = some _ :=
      congrArg (·.parts[3]?) hg
    exact .inl ⟨Graph.eq_of_path_eq hs hpart hnarrow hpath, rfl⟩
  · have hwide : graph.inventory.parts[4]? = some _ :=
      congrArg (·.parts[4]?) hg
    exact .inr (.inl ⟨Graph.eq_of_path_eq hs hpart hwide hpath, rfl⟩)
  · have hcrossbar := part_site hg hsite StandardCluster.part_crossbar
    exact .inr (.inr
      ⟨site, hsite, Graph.eq_of_path_eq hs hpart hcrossbar hpath, rfl⟩)

/-- What the list says of an entry is so. -/
theorem Wired.ends (hlayout : layout.Sound) {e : Entry} {m : Mapping}
    {next : ComponentId} (h : Wired layout e m next) :
    graph.Ends e m next := by
  cases h with
  | rom => exact .of_kind (component_narrow hg).2 rfl (beyond_rom hg)
  | pass => exact .of_kind (component_narrow hg).2 rfl (beyond_pass hg)
  | @cluster i site hsite =>
    have hcluster : layout.clusters[i]? = some site.cluster := by
      rw [← map_cluster_sites 6 8 layout.clusters, List.getElem?_map, hsite]
      rfl
    refine .of_kind (component_narrow hg).2 ?_ ?_
    · show ([romMapping layout, passMapping layout]
        ++ layout.clusters.map clusterMapping)[2 + i]? = _
      rw [List.getElem?_append_right (Nat.le_add_right 2 i)]
      simp [hcluster]
    · rw [clusterMapping, hlayout.id_eq i site.cluster hcluster]
      exact beyond_cluster hg hsite
  | external => exact .of_kind (component_wide hg).2 rfl (beyond_external hg)
  | place hsite hplace =>
    exact .of_kind (component_crossbar hg hsite).2
      (StandardCluster.getElem?_crossbarTable_of_place hplace)
      (beyond_place hg hsite hplace)

/-- The list of entries is complete, and what it says is so. -/
theorem ends_iff (hs : graph.inventory.Sound) (hlayout : layout.Sound)
    {e : Entry} {m : Mapping} {next : ComponentId} :
    graph.Ends e m next ↔ Wired layout e m next := by
  -- at an entry there is one mapping, and beyond it one component
  have honly : ∀ {m'} {next'}, graph.Ends e m next →
      Wired layout e m' next' → m' = m → Wired layout e m next := by
    intro m' next' hends h hm
    subst hm
    have hbeyond := (h.ends hg hlayout).beyond
    rw [hends.beyond] at hbeyond
    exact Except.ok.inj hbeyond ▸ h
  refine ⟨fun hends => ?_, fun h => h.ends hg hlayout⟩
  obtain ⟨⟨table, htable, hm⟩, -⟩ := id hends
  obtain ⟨exits, hkind⟩ := Component.exists_kind_of_table? htable
  obtain ⟨r, place⟩ := e
  rcases router_cases hg hs hkind with ⟨rfl, rfl⟩ | ⟨rfl, rfl⟩
    | ⟨site, hsite, rfl, rfl⟩
  · change ([romMapping layout, passMapping layout]
      ++ layout.clusters.map clusterMapping)[place]? = some m at hm
    rcases place with _ | _ | i
    · exact honly hends .rom (Option.some.inj hm)
    · exact honly hends .pass (Option.some.inj hm)
    · obtain ⟨cluster, hcluster, hmap⟩ := Option.map_eq_some_iff.1
        ((List.getElem?_map ..).symm.trans hm)
      obtain ⟨site, hsite, rfl⟩ := getElem?_sites (n := 6) (p := 8) hcluster
      have hwindow : Wired layout ⟨⟨3⟩, i + 2⟩ (clusterMapping site.cluster)
          ⟨site.part + 1⟩ := by
        rw [Nat.add_comm i 2]
        exact .cluster hsite
      exact honly hends hwindow hmap
  · rcases place with _ | i
    · exact honly hends .external (Option.some.inj hm)
    · cases hm
  · obtain ⟨memory, hmemory, rfl⟩ := StandardCluster.getElem?_crossbarTable hm
    exact honly hends (.place hsite hmemory) rfl

/-- What answers is looked up under its path. -/
theorem Terminal.lookup? (hs : graph.inventory.Sound) {id : ComponentId}
    {part : Part} (h : Terminal layout id part) :
    graph.lookup? part.path = some id
      ∧ (graph.component id).kind = part.kind := by
  have hpart : graph.inventory.parts[id.index]? = some part := by
    cases h with
    | rom => exact congrArg (·.parts[5]?) hg
    | external =>
      rw [hg]
      exact part_external
    | place hsite hplace =>
      exact part_site hg hsite (StandardCluster.part_place hplace)
  exact ⟨graph.lookup?_of_sound hs id hpart,
    (graph.component_of_inventory id hpart).2⟩

/-- A device that answers is in the list of those. -/
theorem terminal_of_kind (hs : graph.inventory.Sound) {id : ComponentId}
    {device : Device} (hkind : (graph.component id).kind = .device device)
    (hterminal : device.isTerminal) :
    ∃ part, Terminal layout id part ∧ part.kind = .device device := by
  have hpart := Graph.part_of_lt (Graph.lt_of_kind_eq_device hkind)
  rw [hkind] at hpart
  -- the entry of the list that has the path has the number
  have hnumber : ∀ {other part}, Terminal layout other part →
      part.path = graph.path id →
      part.kind = .device device → ∃ part, Terminal layout id part
        ∧ part.kind = .device device := by
    intro other part hanswers hpath hdevice
    have hother := (hanswers.lookup? hg hs).1
    have hid := graph.lookup?_of_sound hs id hpart
    rw [hpath, hid] at hother
    obtain rfl := Option.some.inj hother
    exact ⟨part, hanswers, hdevice⟩
  have hmem := List.mem_of_getElem? hpart
  rw [hg] at hmem
  simp only [inventory, withLoader, withClusters, Inventory.parts_append,
    List.mem_append] at hmem
  rcases hmem with ((hmem | hmem) | hmem) | hmem
  · simp only [planes, List.mem_cons, List.not_mem_nil, or_false,
      Part.mk.injEq, reduceCtorEq, and_false, false_or,
      ComponentKind.device.injEq] at hmem
    obtain ⟨hpath, rfl⟩ := hmem
    exact hnumber .rom hpath.symm rfl
  · obtain ⟨site, hsite, hmem⟩ := mem_parts_joined.1 hmem
    rw [Site.inventory, Inventory.parts_append, List.append_nil] at hmem
    obtain ⟨place, hplace, hpath, rfl⟩ :=
      StandardCluster.place_of_mem hterminal hmem
    obtain ⟨k, hk⟩ := List.mem_iff_getElem?.1 hplace
    exact hnumber (.place hsite hk) hpath.symm rfl
  · simp only [loader, List.mem_singleton, Part.mk.injEq,
      ComponentKind.device.injEq] at hmem
    obtain ⟨-, rfl⟩ := hmem
    cases hterminal
  · simp only [external, List.mem_singleton, Part.mk.injEq,
      ComponentKind.device.injEq] at hmem
    obtain ⟨hpath, rfl⟩ := hmem
    exact hnumber .external hpath.symm rfl

end

-- ========================================================= statement

/-- The devices that answer accesses, with their paths: the boot ROM, the
external memory, and the memories of the clusters. -/
def answering (chip : ChipLayout) : List Part :=
  ⟨"board/chip/soc/rom", .device (.bootRom chip.bootrom.size)⟩
    :: ⟨externalPath chip, .device (.hbm chip.hbmModel chip.hbm.size)⟩
    :: chip.clusters.flatMap fun cluster => (places cluster).map fun place =>
      ⟨clusterPath cluster.id ++ "/" ++ place.name, .device place.device⟩

theorem mem_answering {chip : ChipLayout} {part : Part} :
    part ∈ answering chip ↔ ∃ id, Terminal chip id part := by
  constructor
  · intro h
    rcases List.mem_cons.1 h with rfl | h
    · exact ⟨_, .rom⟩
    rcases List.mem_cons.1 h with rfl | h
    · exact ⟨_, .external⟩
    obtain ⟨cluster, hcluster, h⟩ := List.mem_flatMap.1 h
    obtain ⟨place, hplace, rfl⟩ := List.mem_map.1 h
    rw [← map_cluster_sites 6 8 chip.clusters] at hcluster
    obtain ⟨site, hsite, rfl⟩ := List.mem_map.1 hcluster
    obtain ⟨k, hk⟩ := List.mem_iff_getElem?.1 hplace
    exact ⟨_, .place hsite hk⟩
  · intro h
    obtain ⟨id, hid⟩ := h
    cases hid with
    | rom => exact List.mem_cons_self ..
    | external => exact List.mem_cons_of_mem _ (List.mem_cons_self ..)
    | place hsite hplace =>
      refine List.mem_cons_of_mem _
        (List.mem_cons_of_mem _ (List.mem_flatMap.2 ?_))
      exact ⟨_, (mem_sites hsite).1,
        List.mem_map.2 ⟨_, List.mem_of_getElem? hplace, rfl⟩⟩

/-- Devices that answer and the windows that lead to them are one to one, and
of one size. -/
structure WindowsFit (chip : ChipLayout) (g : Graph) : Prop where
  present : ∀ part ∈ answering chip,
    ∃ id, g.lookup? part.path = some id ∧ (g.component id).kind = part.kind
  /-- No other component answers. -/
  only : ∀ id, (g.component id).isTerminal → ∃ part ∈ answering chip,
    g.lookup? part.path = some id ∧ (g.component id).kind = part.kind
  /-- Of all entries of all routers, one leads to the device. -/
  one : ∀ id, (g.component id).isTerminal → ∃! e : Entry, ∃ m, g.Ends e m id
  size : ∀ id device, (g.component id).kind = .device device → ∀ e m,
    g.Ends e m id →
    device.size? = some m.window.size
  /-- Every entry leads to one of the devices, or on to a router. -/
  onward : ∀ e m, g.Holds e m → ∃ next, g.Ends e m next
    ∧ ((g.component next).isTerminal ∨ (g.component next).isRouter)

theorem windowsFit_of_sound {chip : ChipLayout} {binary : Option String}
    {graph : Graph} (hg : graph.inventory = inventory chip binary)
    (hs : graph.inventory.Sound) (hchip : chip.Sound)
    (hvalid : graph.validate = .ok ()) : WindowsFit chip graph := by
  constructor
  case present =>
    intro part hpart
    obtain ⟨id, hid⟩ := mem_answering.1 hpart
    exact ⟨id, hid.lookup? hg hs⟩
  case only =>
    intro id hterminal
    obtain ⟨device, hkind, hdevice⟩ :=
      Component.exists_kind_of_isTerminal hterminal
    obtain ⟨part, hpart, -⟩ := terminal_of_kind hg hs hkind hdevice
    exact ⟨part, mem_answering.2 ⟨id, hpart⟩, hpart.lookup? hg hs⟩
  case one =>
    intro id hterminal
    obtain ⟨device, hkind, hdevice⟩ :=
      Component.exists_kind_of_isTerminal hterminal
    obtain ⟨part, hpart, -⟩ := terminal_of_kind hg hs hkind hdevice
    obtain ⟨e, m, hwired, -⟩ := hpart.entry
    refine ⟨e, ⟨m, (ends_iff hg hs hchip).2 hwired⟩, fun e' he' => ?_⟩
    obtain ⟨m', hends⟩ := he'
    exact (hwired.unique ((ends_iff hg hs hchip).1 hends)).1
  case size =>
    intro id device hkind e m hends
    obtain ⟨-, -, -, -, -, hgoes⟩ := Graph.beyond_eq_ok_iff.1 hends.beyond
    have hterminal : (graph.component id).isTerminal := by
      refine hgoes.resolve_left fun hrouter => ?_
      obtain ⟨table, exits, hrouter⟩ :=
        Component.exists_kind_of_isRouter hrouter
      rw [hkind] at hrouter
      cases hrouter
    obtain ⟨device', hkind', hdevice⟩ :=
      Component.exists_kind_of_isTerminal hterminal
    obtain rfl := ComponentKind.device.inj (hkind.symm.trans hkind')
    obtain ⟨part, hpart, hsame⟩ := terminal_of_kind hg hs hkind hdevice
    obtain ⟨e', m', hwired, hsize⟩ := hpart.entry
    obtain ⟨-, rfl⟩ := hwired.unique ((ends_iff hg hs hchip).1 hends)
    exact hsize device hsame
  case onward =>
    intro e m hholds
    obtain ⟨table, htable, hm⟩ := id hholds
    obtain ⟨next, hbeyond⟩ := Graph.validate_eq_ok_iff.1 hvalid _
      (Graph.component_mem_of_table? htable) table htable m
      (List.mem_of_getElem? hm)
    obtain ⟨-, -, -, -, -, hgoes⟩ := Graph.beyond_eq_ok_iff.1 hbeyond
    exact ⟨next, ⟨hholds, hbeyond⟩, hgoes.symm⟩

/-- Whatever configuration the layout is of and whatever the loader loads, the
devices that answer accesses are one to one with the windows that lead to
them, and as large as these. -/
theorem windows_fit_of_plan {config : Config} {chip : ChipLayout}
    (h : ChipLayout.plan config = .ok chip) (binary : Option String) :
    ∃ t, build chip StandardCluster.build binary = .ok t
      ∧ WindowsFit chip t.graph := by
  have hchip := ChipLayout.plan_sound h
  obtain ⟨graph, hg, hs, hvalid, hbuild⟩ := build_of_sound hchip binary
  exact ⟨_, hbuild, windowsFit_of_sound hg hs hchip hvalid⟩

/-- With two clusters there are eight of them. -/
theorem pairConfig_windows_fit : ∃ chip, ChipLayout.plan pairConfig = .ok chip
    ∧ (answering chip).length = 8
    ∧ ∃ t, build chip StandardCluster.build none = .ok t
      ∧ WindowsFit chip t.graph := by
  obtain ⟨chip, hplan, hlength⟩ : ∃ chip, ChipLayout.plan pairConfig = .ok chip
      ∧ (answering chip).length = 8 := ⟨_, rfl, rfl⟩
  exact ⟨chip, hplan, hlength, windows_fit_of_plan hplan none⟩

end Topology

end ChipFabric
