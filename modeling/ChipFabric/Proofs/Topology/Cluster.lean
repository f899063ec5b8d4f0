/-
The standard cluster, written out. `StandardCluster.inventory n p top layout`
is what the builder adds to a graph of `n` components and `p` ports: the
group at `top`, its crossbar with the three memories, the cores, and the DMA
engine. `build_makes` says that it adds just that, to every sound graph that
has nothing at or below `top` yet.

# The numbers

Everything is numbered in the order it is made. The five ports at the
boundary come first, from `p` to `p + 4`, and then the two inputs of the
crossbar; the memories have two ports each, their own input and the
crossbar's output to it, and the cores three; the DMA engine's output is the
last.
-/
import ChipFabric.Proofs.Fabric.Makes
import ChipFabric.Proofs.Layout.Plan
import ChipFabric.Proofs.Topology.Names

namespace ChipFabric

namespace StandardCluster

-- ========================================================= inventory

/-- The table of the crossbar before there are memories. -/
def bareTable : Router :=
  (Router.new "xbar" crossbarBandwidth).withInput "wide"

@[simp] theorem outputs_bareTable : bareTable.outputs = [] := rfl

@[simp] theorem mappings_bareTable : bareTable.mappings = [] := rfl

/-- The table of the crossbar when all memories are there. -/
def crossbarTable (layout : ClusterLayout) : Router :=
  ((bareTable.withWindow "tcdm" layout.tcdm false {}).withWindow
    "periph" layout.periph false {}).withWindow
    "zero_mem" layout.zeroMem false {}

/-- The group with the ports at its boundary. -/
def boundary (n : Nat) (top : String) : Inventory where
  parts := [⟨top, .group⟩]
  ports := [
    ⟨⟨n⟩, "narrow_input", .forward, Signal.io.signature⟩,
    ⟨⟨n⟩, "wide_input", .forward, Signal.io.signature⟩,
    ⟨⟨n⟩, "fetch_enable", .forward, Signal.wire.signature⟩,
    ⟨⟨n⟩, "narrow_soc", .forward, Signal.io.signature⟩,
    ⟨⟨n⟩, "wide_soc", .forward, Signal.io.signature⟩]
  bindings := []

/-- The crossbar with its two inputs. -/
def crossbar (n p : Nat) (top : String) (narrowInput wideInput : PortId)
    (kind : ComponentKind) : Inventory where
  parts := [⟨top ++ "/" ++ "xbar", kind⟩]
  ports := [
    ⟨⟨n⟩, Router.defaultInput, .input, Signal.io.signature⟩,
    ⟨⟨n⟩, "wide", .input, Signal.io.signature⟩]
  bindings := [⟨narrowInput, ⟨p⟩⟩, ⟨wideInput, ⟨p + 1⟩⟩]

/-- The crossbar as it is made. -/
def newCrossbar (n : Nat) (top : String) : Inventory :=
  .newRouter n (top ++ "/" ++ "xbar") "xbar" crossbarBandwidth

/-- The part of a cluster that all its memories and cores are bound to. -/
def front (n p : Nat) (top : String) (kind : ComponentKind) : Inventory :=
  boundary n top ++ crossbar (n + 1) (p + 5) top ⟨p⟩ ⟨p + 1⟩ kind

/-- A memory and the output of the crossbar that leads to it. -/
def memory (n p : Nat) (top : String) (crossbar : ComponentId) (name : String)
    (device : Device) : Inventory where
  parts := [⟨top ++ "/" ++ name, .device device⟩]
  ports := [
    ⟨⟨n⟩, Router.defaultInput, .input, Signal.io.signature⟩,
    ⟨crossbar, name, .output, Signal.io.signature⟩]
  bindings := [⟨⟨p + 1⟩, ⟨p⟩⟩]

/-- The three memories of a cluster. -/
def memories (n p : Nat) (top : String) (crossbar : ComponentId)
    (layout : ClusterLayout) : Inventory :=
  memory n p top crossbar "tcdm" (.memory layout.tcdm.size false)
    ++ memory (n + 1) (p + 2) top crossbar "periph"
      (.peripherals layout.periph.size)
    ++ memory (n + 2) (p + 4) top crossbar "zero_mem"
      (.memory layout.zeroMem.size true)

/-- What a cluster has apart from its cores and its DMA engine. -/
def fixed (n p : Nat) (top : String) (layout : ClusterLayout) : Inventory :=
  front n p top (.router (crossbarTable layout) [⟨p + 8⟩, ⟨p + 10⟩, ⟨p + 12⟩])
    ++ memories (n + 2) (p + 7) top ⟨n + 1⟩ layout

@[simp] theorem length_parts_fixed (n p : Nat) (top : String)
    (layout : ClusterLayout) :
    (fixed n p top layout).parts.length = 5 := rfl

@[simp] theorem length_ports_fixed (n p : Nat) (top : String)
    (layout : ClusterLayout) :
    (fixed n p top layout).ports.length = 13 := rfl

/-- The boundary leads to the crossbar, and the crossbar to the memories. -/
theorem bindings_fixed (n p : Nat) (top : String) (layout : ClusterLayout) :
    (fixed n p top layout).bindings = [⟨⟨p⟩, ⟨p + 5⟩⟩, ⟨⟨p + 1⟩, ⟨p + 6⟩⟩,
      ⟨⟨p + 8⟩, ⟨p + 7⟩⟩, ⟨⟨p + 10⟩, ⟨p + 9⟩⟩, ⟨⟨p + 12⟩, ⟨p + 11⟩⟩] := rfl

/-- A core, bound to the crossbar, the narrow plane and the start signal. -/
def core (n p : Nat) (top : String) (crossbar narrowSoc fetchEnable : PortId)
    (firstHart localId : Nat) : Inventory where
  parts := [⟨top ++ "/" ++ ("pe" ++ Numeral.decimal localId),
    .device (.core (firstHart + localId) localId)⟩]
  ports := [
    ⟨⟨n⟩, "data", .output, Signal.io.signature⟩,
    ⟨⟨n⟩, "soc", .output, Signal.io.signature⟩,
    ⟨⟨n⟩, "fetch_enable", .input, Signal.wire.signature⟩]
  bindings := [⟨⟨p⟩, crossbar⟩, ⟨⟨p + 1⟩, narrowSoc⟩, ⟨fetchEnable, ⟨p + 2⟩⟩]

/-- That many cores. -/
def cores (n p : Nat) (top : String) (crossbar narrowSoc fetchEnable : PortId)
    (firstHart count : Nat) : Inventory :=
  .join ((List.range count).map fun j =>
    core (n + j) (p + 3 * j) top crossbar narrowSoc fetchEnable firstHart j)

/-- The DMA engine, bound to the wide plane. -/
def engine (n p : Nat) (top : String) (wideSoc : PortId) (cluster : Nat) :
    Inventory where
  parts := [⟨top ++ "/" ++ "idma", .device (.dma cluster)⟩]
  ports := [⟨⟨n⟩, "out", .output, Signal.io.signature⟩]
  bindings := [⟨⟨p⟩, wideSoc⟩]

/-- All of the cluster. -/
def inventory (n p : Nat) (top : String) (layout : ClusterLayout) :
    Inventory :=
  fixed n p top layout
    ++ cores (n + 5) (p + 13) top ⟨p + 5⟩ ⟨p + 3⟩ ⟨p + 2⟩
      layout.firstHart layout.coreCount
    ++ engine (n + 5 + layout.coreCount) (p + 13 + 3 * layout.coreCount) top
      ⟨p + 4⟩ layout.id

/-- What the builder hands out. -/
def handles (n p : Nat) (layout : ClusterLayout) : ClusterPorts where
  component := ⟨n⟩
  coreCount := layout.coreCount
  narrowInput := ⟨⟨p⟩⟩
  wideInput := ⟨⟨p + 1⟩⟩
  fetchEnable := ⟨⟨p + 2⟩⟩
  narrowSoc := ⟨⟨p + 3⟩⟩
  wideSoc := ⟨⟨p + 4⟩⟩

-- ============================================================= steps

variable {s : Inventory}

/-- The group is added with its ports. -/
theorem addBoundary_makes {parent : ComponentId} {part : Part}
    {layout : ClusterLayout} {n p : Nat}
    (hparent : s.parts[parent.index]? = some part)
    (hpath : s.LacksPath (part.path ++ "/" ++ clusterName layout.id))
    (hn : s.parts.length = n) (hp : s.ports.length = p) :
    (addBoundary parent layout).Makes s (handles n p layout)
      (s ++ boundary n (part.path ++ "/" ++ clusterName layout.id)) := by
  apply Build.Makes.of_sound
  intro hs
  refine (Build.addGroup_makes hparent hpath hn).bind ?_
  refine (Build.declare_last_makes (q := p) hs hn hp (by simp)
    (by simp [Inventory.LacksPort]) (by simp)).bind ?_
  refine (Build.declare_last_makes (q := p + 1) hs hn hp (by simp)
    (by simp [Inventory.LacksPort]) (by simp)).bind ?_
  refine (Build.declare_last_makes (q := p + 2) hs hn hp (by simp)
    (by simp [Inventory.LacksPort]) (by simp)).bind ?_
  refine (Build.declare_last_makes (q := p + 3) hs hn hp (by simp)
    (by simp [Inventory.LacksPort]) (by simp)).bind ?_
  refine (Build.declare_last_makes (q := p + 4) hs hn hp (by simp)
    (by simp [Inventory.LacksPort]) (by simp)).bind (.pure _ _)

/-- The crossbar is added with its inputs, bound to the boundary. -/
theorem addCrossbar_makes {ports : ClusterPorts} {part : Part} {n p : Nat}
    (hcluster : s.parts[ports.component.index]? = some part)
    (hpath : s.LacksPath (part.path ++ "/" ++ "xbar"))
    (hnarrow : ports.narrowInput.port.index < p)
    (hwide : ports.wideInput.port.index < p) (hn : s.parts.length = n)
    (hp : s.ports.length = p) :
    (addCrossbar ports).Makes s (⟨n⟩, ⟨⟨p⟩⟩)
      (s ++ crossbar n p part.path ports.narrowInput.port ports.wideInput.port
        (.router bareTable [])) := by
  apply Build.Makes.of_sound
  intro hs
  have hrouter : (s ++ newCrossbar n part.path).parts[n]? =
      some ⟨part.path ++ "/" ++ "xbar",
        .router (.new "xbar" crossbarBandwidth) []⟩ := by
    simp [hn, newCrossbar, Inventory.newRouter]
  have hinput : (s ++ newCrossbar n part.path).ports[p]? =
      some ⟨⟨n⟩, Router.defaultInput, .input, Signal.io.signature⟩ := by
    simp [hp, newCrossbar, Inventory.newRouter]
  have hwideName : (s ++ newCrossbar n part.path).LacksPort ⟨n⟩ "wide" := by
    refine Inventory.lacksPort_append.2
      ⟨hs.lacksPort _ (Nat.le_of_eq hn) _, ?_⟩
    simp [Inventory.LacksPort, newCrossbar, Inventory.newRouter,
      Router.defaultInput]
  have hwideInput := Build.addRouterInput_makes (p := p + 1) hrouter hwideName
    (by simp [hp, newCrossbar, Inventory.newRouter])
  have hkind := Inventory.withKind_append_of_le hn 0
    (newCrossbar n part.path)
    (.router ((Router.new "xbar" crossbarBandwidth).withInput "wide") [])
  rw [Nat.add_zero] at hkind
  rw [hkind] at hwideInput
  refine (Build.addRouter_makes hcluster hpath hn hp).bind ?_
  refine (Build.routerInput_makes hrouter hinput).bind ?_
  refine hwideInput.append.bind ?_
  refine (Build.bind_makes ?_ ?_).append.bind ?_
  · simp [hp, newCrossbar, Inventory.newRouter, Inventory.withKind]
    omega
  · simp [hp, newCrossbar, Inventory.newRouter, Inventory.withKind]
  refine (Build.bind_makes ?_ ?_).append.bind (.pure _ _)
  · simp [hp, newCrossbar, Inventory.newRouter, Inventory.withKind]
    omega
  · simp [hp, newCrossbar, Inventory.newRouter, Inventory.withKind]

/-- A memory is added with its output and its window. -/
theorem addMemory_makes {cluster crossbar : ComponentId} {part : Part}
    {path name : String} {table : Router} {exits : List PortId}
    {window : Window} {device : Device} {n p : Nat}
    (hcluster : s.parts[cluster.index]? = some part)
    (hcrossbar : s.parts[crossbar.index]? = some ⟨path, .router table exits⟩)
    (hpath : s.LacksPath (part.path ++ "/" ++ name))
    (hfree : ∀ m ∈ table.mappings, ¬ m.window.Overlaps window)
    (hout : name ∉ table.outputs) (hname : s.LacksPort crossbar name)
    (hn : s.parts.length = n) (hp : s.ports.length = p) :
    (addMemory cluster crossbar name window device).Makes s ⟨⟩
      (s.withKind crossbar
        (.router (table.withWindow name window false {}) (exits ++ [⟨p + 1⟩]))
        ++ memory n p part.path crossbar name device) := by
  have hlt := (List.getElem?_eq_some_iff.1 hcrossbar).1
  have hcrossbar' : (s ++ .terminal n (part.path ++ "/" ++ name)
      device).parts[crossbar.index]? = some ⟨path, .router table exits⟩ := by
    rw [Inventory.parts_append, List.getElem?_append_left hlt, hcrossbar]
  have hname' : (s ++ .terminal n (part.path ++ "/" ++ name) device).LacksPort
      crossbar name := by
    have hne : (⟨n⟩ : ComponentId) ≠ crossbar := by
      rintro rfl
      exact absurd hn (Nat.ne_of_gt hlt)
    refine Inventory.lacksPort_append.2 ⟨hname, ?_⟩
    simp [Inventory.LacksPort, Inventory.terminal, hne]
  have htarget :
      (s ++ .terminal n (part.path ++ "/" ++ name) device).ports[p]? =
      some ⟨⟨n⟩, Router.defaultInput, .input, Signal.io.signature⟩ := by
    simp [Inventory.terminal, hp]
  have hwindow :
      (Build.mapWindow crossbar name (⟨⟨p⟩⟩ : InputPort .io)
        window false {}).Makes
      (s ++ .terminal n (part.path ++ "/" ++ name) device) ⟨⟨p + 1⟩⟩ _ :=
    Build.mapWindow_makes hcrossbar' hfree hout hname' htarget rfl
      (by simp [Inventory.terminal, hp])
  rw [Inventory.withKind_append_of_lt hlt, Inventory.append_assoc] at hwindow
  exact (Build.addTerminal_makes hcluster hpath hn hp).bind
    (hwindow.bind (.pure _ _))

/-- A core is added with its three ports and their bindings. -/
theorem addCore_makes {cluster : ComponentId} {part : Part}
    {crossbar : InputPort .io} {narrowSoc : ForwardPort .io}
    {fetchEnable : ForwardPort .wire} {firstHart localId n p : Nat}
    (hcluster : s.parts[cluster.index]? = some part)
    (hpath :
      s.LacksPath (part.path ++ "/" ++ ("pe" ++ Numeral.decimal localId)))
    (hcrossbar : crossbar.port.index < p) (hnarrow : narrowSoc.port.index < p)
    (hfetch : fetchEnable.port.index < p) (hn : s.parts.length = n)
    (hp : s.ports.length = p) :
    (addCore cluster crossbar narrowSoc fetchEnable firstHart localId).Makes
      s ⟨⟩ (s ++ core n p part.path crossbar.port narrowSoc.port
        fetchEnable.port firstHart localId) := by
  apply Build.Makes.of_sound
  intro hs
  refine (Build.addDevice_makes hcluster hpath hn).bind ?_
  refine (Build.declare_last_makes (q := p) hs hn hp (by simp)
    (by simp [Inventory.LacksPort]) (by simp)).bind ?_
  refine (Build.declare_last_makes (q := p + 1) hs hn hp (by simp)
    (by simp [Inventory.LacksPort]) (by simp)).bind ?_
  refine (Build.declare_last_makes (q := p + 2) hs hn hp (by simp)
    (by simp [Inventory.LacksPort]) (by simp)).bind ?_
  refine (Build.bind_makes ?_ ?_).append.bind ?_
  · simp [hp]
  · simp [hp]
    omega
  refine (Build.bind_makes ?_ ?_).append.bind ?_
  · simp [hp]
  · simp [hp]
    omega
  refine (Build.bind_makes ?_ ?_).append
  · simp [hp]
    omega
  · simp [hp]

/-- The DMA engine is added with its output. -/
theorem addEngine_makes {cluster : ComponentId} {part : Part}
    {wideSoc : ForwardPort .io} {id n p : Nat}
    (hcluster : s.parts[cluster.index]? = some part)
    (hpath : s.LacksPath (part.path ++ "/" ++ "idma"))
    (hwide : wideSoc.port.index < p) (hn : s.parts.length = n)
    (hp : s.ports.length = p) :
    (addEngine cluster wideSoc id).Makes s ⟨⟩
      (s ++ engine n p part.path wideSoc.port id) := by
  apply Build.Makes.of_sound
  intro hs
  refine (Build.addDevice_makes hcluster hpath hn).bind ?_
  refine (Build.declare_last_makes (q := p) hs hn hp (by simp)
    (by simp [Inventory.LacksPort]) (by simp)).bind ?_
  refine (Build.bind_makes ?_ ?_).append
  · simp [hp]
  · simp [hp]
    omega

-- ============================================================= cores

section

variable {n p : Nat} {top : String} {crossbar narrowSoc fetchEnable : PortId}
  {firstHart : Nat}

theorem cores_succ (count : Nat) :
    cores n p top crossbar narrowSoc fetchEnable firstHart (count + 1) =
      cores n p top crossbar narrowSoc fetchEnable firstHart count
        ++ core (n + count) (p + 3 * count) top crossbar narrowSoc fetchEnable
          firstHart count := by
  rw [cores, List.range_succ, List.map_append, Inventory.join_append,
    List.map_singleton, Inventory.join_singleton]
  rfl

@[simp] theorem length_parts_cores (count : Nat) :
    (cores n p top crossbar narrowSoc fetchEnable firstHart
      count).parts.length = count := by
  induction count with
  | zero => rfl
  | succ count ih =>
    rw [cores_succ, Inventory.parts_append, List.length_append, ih]; rfl

@[simp] theorem length_ports_cores (count : Nat) :
    (cores n p top crossbar narrowSoc fetchEnable firstHart
      count).ports.length = 3 * count := by
  induction count with
  | zero => rfl
  | succ count ih =>
    rw [cores_succ, Inventory.ports_append, List.length_append, ih]; rfl

/-- A port of the cores is one of a core. -/
theorem mem_ports_cores {count : Nat} {port : Port}
    (h : port ∈ (cores n p top crossbar narrowSoc fetchEnable firstHart
      count).ports) :
    ∃ j < count, port ∈ (core (n + j) (p + 3 * j) top crossbar narrowSoc
      fetchEnable firstHart j).ports := by
  simpa only [cores, Inventory.join, List.flatMap_map, List.mem_flatMap,
    List.mem_range] using h

/-- A binding of the cores is one of the start signal or starts at their own
ports. -/
theorem source_of_mem_cores {count : Nat} {b : Binding}
    (h : b ∈ (cores n p top crossbar narrowSoc fetchEnable firstHart
      count).bindings) :
    b.source = fetchEnable ∨ p ≤ b.source.index
      ∧ b.source.index < p + 3 * count := by
  simp only [cores, core, Inventory.join, List.flatMap_map, List.mem_flatMap,
    List.mem_range, List.mem_cons, List.not_mem_nil, or_false] at h
  obtain ⟨j, hj, rfl | rfl | rfl⟩ := h
  · exact .inr ⟨Nat.le_add_right _ _, by simp only; omega⟩
  · exact .inr ⟨by simp only; omega, by simp only; omega⟩
  · exact .inl rfl

/-- The paths of the cores are those of their numbers. -/
theorem lacksPath_cores {count : Nat} {path : String}
    (h : ∀ j < count, path ≠ top ++ "/" ++ ("pe" ++ Numeral.decimal j)) :
    (cores n p top crossbar narrowSoc fetchEnable firstHart count).LacksPath
      path := by
  induction count with
  | zero => exact nofun
  | succ count ih =>
    rw [cores_succ, Inventory.lacksPath_append]
    refine ⟨ih fun j hj => h j (Nat.lt_succ_of_lt hj), fun part hpart => ?_⟩
    obtain rfl := List.mem_singleton.1 hpart
    exact (h count (Nat.lt_succ_self count)).symm

end

/-- All cores are added, one after the other. -/
theorem addCores_makes {cluster : ComponentId} {part : Part}
    {crossbar : InputPort .io} {narrowSoc : ForwardPort .io}
    {fetchEnable : ForwardPort .wire} {firstHart count n p : Nat}
    (hcluster : s.parts[cluster.index]? = some part)
    (hpath : ∀ j,
      s.LacksPath (part.path ++ "/" ++ ("pe" ++ Numeral.decimal j)))
    (hcrossbar : crossbar.port.index < p) (hnarrow : narrowSoc.port.index < p)
    (hfetch : fetchEnable.port.index < p) (hn : s.parts.length = n)
    (hp : s.ports.length = p) :
    ((List.range count).forM
      (addCore cluster crossbar narrowSoc fetchEnable firstHart)).Makes s ⟨⟩
      (s ++ cores n p part.path crossbar.port narrowSoc.port fetchEnable.port
        firstHart count) := by
  have hnil : s ++ cores n p part.path crossbar.port narrowSoc.port
      fetchEnable.port firstHart 0 =
      s := by
    ext1 <;> simp [cores, Inventory.join]
  have hloop :=
    @Build.Makes.forM Nat
      (addCore cluster crossbar narrowSoc fetchEnable firstHart)
    (List.range count) fun before => s ++ cores n p part.path crossbar.port
      narrowSoc.port fetchEnable.port firstHart before.length
  rw [List.length_nil, hnil, List.length_range] at hloop
  apply hloop
  intro before a after hvalues
  -- the number of a core is the number of cores before it
  have ha : a = before.length := by
    have hat := congrArg (·[before.length]?) hvalues
    simp only [List.getElem?_append_right (Nat.le_refl _), Nat.sub_self,
      List.getElem?_cons_zero] at hat
    obtain ⟨_, hlt⟩ := List.getElem?_eq_some_iff.1 hat
    rw [← hlt, List.getElem_range]
  subst ha
  rw [List.length_append, List.length_singleton, cores_succ,
    ← Inventory.append_assoc]
  apply addCore_makes
  · rw [Inventory.parts_append,
      List.getElem?_append_left (List.getElem?_eq_some_iff.1 hcluster).1,
      hcluster]
  · refine Inventory.lacksPath_append.2
      ⟨hpath _, lacksPath_cores fun j hj heq => ?_⟩
    rw [String.append_right_inj, String.append_right_inj,
      Numeral.decimal_inj] at heq
    exact Nat.ne_of_gt hj heq
  · omega
  · omega
  · omega
  · simp [hn]
  · simp [hp]

-- =========================================================== cluster

/-- The crossbar has the numbers after the group. -/
theorem withKind_front {n : Nat} (hn : s.parts.length = n) (p : Nat)
    (top : String) (old kind : ComponentKind) (t : Inventory) :
    (s ++ front n p top old ++ t).withKind ⟨n + 1⟩ kind = s ++ front n p top
      kind ++ t := by
  rw [Inventory.append_assoc, Inventory.withKind_append_of_le hn,
    Inventory.append_assoc]
  rfl

/-- One more memory behind the crossbar, after the components and ports of
`t`. -/
theorem addMemory_front_makes {top name : String} {table : Router}
    {exits : List PortId} {window : Window} {device : Device} {t : Inventory}
    {n p m q : Nat} (hpath : s.LacksPath (top ++ "/" ++ name))
    (hpath' : t.LacksPath (top ++ "/" ++ name))
    (hport : s.LacksPort ⟨n + 1⟩ name) (hport' : t.LacksPort ⟨n + 1⟩ name)
    (hnew : name ∉ ["xbar", Router.defaultInput, "wide"])
    (hout : name ∉ table.outputs)
    (hfree : ∀ m ∈ table.mappings, ¬ m.window.Overlaps window)
    (hn : s.parts.length = n) (hp : s.ports.length = p)
    (hm : n + 2 + t.parts.length = m) (hq : p + 7 + t.ports.length = q) :
    (addMemory ⟨n⟩ ⟨n + 1⟩ name window device).Makes
      (s ++ front n p top (.router table exits) ++ t) ⟨⟩
      (s ++ front n p top
        (.router (table.withWindow name window false {}) (exits ++ [⟨q + 1⟩]))
        ++ (t ++ memory m q top ⟨n + 1⟩ name device)) := by
  simp only [List.mem_cons, List.not_mem_nil, or_false, not_or] at hnew
  obtain ⟨hxbar, hinput, hwide⟩ := hnew
  have hgroup : (s ++ front n p top (.router table exits) ++ t).parts[n]? =
      some ⟨top, .group⟩ := by
    simp [hn, front, boundary, crossbar]
  have hrouter :
      (s ++ front n p top (.router table exits) ++ t).parts[n + 1]? =
      some ⟨top ++ "/" ++ "xbar", .router table exits⟩ := by
    simp [hn, front, boundary, crossbar]
  have hfront : (front n p top (.router table exits)).LacksPath
      (top ++ "/" ++ name) := by
    have hne : "xbar" ≠ name := fun heq => hxbar heq.symm
    simp [Inventory.LacksPath, front, boundary, crossbar, ne_child,
      String.append_right_inj, hne]
  have hfrontPort : (front n p top (.router table exits)).LacksPort ⟨n + 1⟩
      name := by
    have hne : Router.defaultInput ≠ name := fun heq => hinput heq.symm
    have hne' : "wide" ≠ name := fun heq => hwide heq.symm
    simp [Inventory.LacksPort, front, boundary, crossbar, hne, hne']
  have hmakes : (addMemory ⟨n⟩ ⟨n + 1⟩ name window device).Makes
      (s ++ front n p top (.router table exits) ++ t) ⟨⟩ _ :=
    addMemory_makes (n := m) (p := q) hgroup hrouter
      (Inventory.lacksPath_append.2
        ⟨Inventory.lacksPath_append.2 ⟨hpath, hfront⟩, hpath'⟩)
      hfree hout
      (Inventory.lacksPort_append.2
        ⟨Inventory.lacksPort_append.2 ⟨hport, hfrontPort⟩, hport'⟩)
      (by simp [hn, ← hm, front, boundary, crossbar]; omega)
      (by simp [hp, ← hq, front, boundary, crossbar]; omega)
  rw [withKind_front hn] at hmakes
  exact hmakes.append

/-- The memories are added one after the other, each window after the last
one. -/
theorem addMemories_makes {top : String} {layout : ClusterLayout} {n p : Nat}
    (hpath : ∀ name, s.LacksPath (top ++ "/" ++ name))
    (hport : ∀ name, s.LacksPort ⟨n + 1⟩ name) (hlayout : layout.Stacked)
    (hn : s.parts.length = n) (hp : s.ports.length = p) :
    (addMemories ⟨n⟩ ⟨n + 1⟩ layout).Makes
      (s ++ front n p top (.router bareTable [])) ⟨⟩
      (s ++ fixed n p top layout) := by
  obtain ⟨hperiph, hzeroMem, hzeroMem'⟩ := hlayout.disjoint
  have htcdm :
      (addMemory ⟨n⟩ ⟨n + 1⟩ "tcdm" layout.tcdm
        (.memory layout.tcdm.size false)).Makes
        (s ++ front n p top (.router bareTable []) ++ ⟨[], [], []⟩) ⟨⟩ _ :=
    addMemory_front_makes (m := n + 2) (q := p + 7) (hpath _) nofun (hport _)
      nofun (by decide) (by simp) (by simp) hn hp rfl rfl
  rw [Inventory.append_nil, List.nil_append, Inventory.nil_append] at htcdm
  have hperiph : (addMemory ⟨n⟩ ⟨n + 1⟩ "periph" layout.periph
      (.peripherals layout.periph.size)).Makes
      (s ++ front n p top
        (.router (bareTable.withWindow "tcdm" layout.tcdm false {}) [⟨p + 8⟩])
        ++ memory (n + 2) (p + 7) top ⟨n + 1⟩ "tcdm"
          (.memory layout.tcdm.size false)) ⟨⟩ _ :=
    addMemory_front_makes (m := n + 3) (q := p + 9) (hpath _)
      (by simp [Inventory.LacksPath, memory, String.append_right_inj])
      (hport _)
      (by simp [Inventory.LacksPort, memory]) (by decide) (by simp)
        (by simpa using hperiph)
      hn hp rfl rfl
  have hzeroMem : (addMemory ⟨n⟩ ⟨n + 1⟩ "zero_mem" layout.zeroMem
      (.memory layout.zeroMem.size true)).Makes
      (s ++ front n p top
        (.router ((bareTable.withWindow "tcdm" layout.tcdm false {}).withWindow
          "periph" layout.periph false {}) [⟨p + 8⟩, ⟨p + 10⟩])
        ++ (memory (n + 2) (p + 7) top ⟨n + 1⟩ "tcdm"
          (.memory layout.tcdm.size false) ++ memory (n + 3) (p + 9) top
          ⟨n + 1⟩ "periph" (.peripherals layout.periph.size))) ⟨⟩ _ :=
    addMemory_front_makes (m := n + 4) (q := p + 11) (hpath _)
      (by simp [Inventory.LacksPath, memory, String.append_right_inj])
      (hport _)
      (by simp [Inventory.LacksPort, memory]) (by decide) (by simp)
      (by simpa using ⟨hzeroMem, hzeroMem'⟩) hn hp rfl rfl
  exact htcdm.bind (hperiph.bind hzeroMem.append)

theorem lacksPath_fixed {n p : Nat} {top name : String}
    {layout : ClusterLayout}
    (h : name ∉ ["xbar", "tcdm", "periph", "zero_mem"]) :
    (fixed n p top layout).LacksPath (top ++ "/" ++ name) := by
  simp only [List.mem_cons, List.not_mem_nil, or_false, not_or,
    eq_comm (a := name)] at h
  simp [Inventory.LacksPath, fixed, front, boundary, crossbar, memories,
    memory, ne_child, String.append_right_inj, h]

/-- The standard cluster is built, whatever else there is in the graph, if
there is nothing in its place. -/
theorem build_makes {parent : ComponentId} {part : Part}
    {layout : ClusterLayout} {n p : Nat}
    (hparent : s.parts[parent.index]? = some part)
    (hfree : ∀ other ∈ s.parts,
      ¬ Below (part.path ++ "/" ++ clusterName layout.id) other.path)
    (hlayout : layout.Stacked) (hn : s.parts.length = n)
    (hp : s.ports.length = p) :
    (build parent layout).Makes s (handles n p layout)
      (s ++ inventory n p (part.path ++ "/" ++ clusterName layout.id)
        layout) := by
  apply Build.Makes.of_sound
  intro hs
  refine (addBoundary_makes hparent ?_ hn hp).bind ?_
  · exact fun other hother heq => hfree other hother (heq ▸ .refl _)
  generalize part.path ++ "/" ++ clusterName layout.id = top at hfree ⊢
  have hpath : ∀ name, s.LacksPath (top ++ "/" ++ name) :=
    fun name other hother heq => hfree other hother (heq ▸ .child top name)
  have hport : ∀ name, s.LacksPort ⟨n + 1⟩ name :=
    hs.lacksPort _ (by simp [hn])
  have hgroup : (s ++ boundary n top).parts[n]? = some ⟨top, .group⟩ := by
    simp [hn, boundary]
  refine (addCrossbar_makes (p := p + 5) (n := n + 1) hgroup ?_ ?_ ?_ ?_
    ?_).append.bind ?_
  · exact Inventory.lacksPath_append.2
      ⟨hpath _, by simp [Inventory.LacksPath, boundary, ne_child]⟩
  · simp [handles]
  · simp [handles]
  · simp [hn, boundary]
  · simp [hp, boundary]
  refine (addMemories_makes hpath hport hlayout hn hp).bind ?_
  -- the cores, the DMA engine, and then nothing more
  have hcluster : (s ++ fixed n p top layout).parts[n]? =
      some ⟨top, .group⟩ := by
    simp [hn, fixed, front, boundary, crossbar]
  refine (addCores_makes (n := n + 5) (p := p + 13) hcluster ?_ ?_ ?_ ?_ ?_
    ?_).bind ?_
  · refine fun j => Inventory.lacksPath_append.2
      ⟨hpath _, lacksPath_fixed fun hmem => ?_⟩
    exact coreName_ne j _ (List.mem_append_left ["idma"] hmem) rfl
  · simp
  · simp [handles]
  · simp [handles]
  · simp [hn]
  · simp [hp]
  have hcluster' :
      (s ++ fixed n p top layout ++ cores (n + 5) (p + 13) top ⟨p + 5⟩ ⟨p + 3⟩
        ⟨p + 2⟩ layout.firstHart layout.coreCount).parts[n]? =
        some ⟨top, .group⟩ :=
    (List.getElem?_append_left (List.getElem?_eq_some_iff.1 hcluster).1).trans
      hcluster
  refine (addEngine_makes (n := n + 5 + layout.coreCount)
    (p := p + 13 + 3 * layout.coreCount) hcluster' ?_ ?_ ?_ ?_).bind ?_
  · refine Inventory.lacksPath_append.2 ⟨Inventory.lacksPath_append.2
      ⟨hpath _, lacksPath_fixed (by decide)⟩, lacksPath_cores
        fun j _ heq => ?_⟩
    rw [String.append_right_inj] at heq
    exact coreName_ne j _ (by decide) heq.symm
  · simp [handles]
    omega
  · simp [hn]
    omega
  · simp [hp]
    omega
  simp only [inventory, ← Inventory.append_assoc]
  exact .pure _ _

-- ============================================================ bounds

section

variable (n p : Nat) (top : String) (layout : ClusterLayout)

@[simp] theorem length_parts_inventory :
    (inventory n p top layout).parts.length = 6 + layout.coreCount := by
  simp [inventory, engine]
  omega

@[simp] theorem length_ports_inventory :
    (inventory n p top layout).ports.length = 14 + 3 * layout.coreCount := by
  simp [inventory, engine]
  omega

/-- Everything in a cluster is below it. -/
theorem below_of_mem_inventory {part : Part}
    (h : part ∈ (inventory n p top layout).parts) : Below top part.path := by
  simp only [inventory, fixed, front, boundary, crossbar, memories, memory,
    cores, core, engine, Inventory.join, Inventory.parts_append,
    List.flatMap_map, List.mem_append, List.mem_flatMap,
    List.mem_singleton] at h
  rcases h with (((rfl | rfl) | (rfl | rfl) | rfl) | ⟨j, -, rfl⟩) | rfl
  · exact .refl top
  all_goals exact .child top _

/-- Its ports are on its own components. -/
theorem le_owner_of_mem_inventory :
    ∀ port ∈ (inventory n p top layout).ports, n ≤ port.owner.index := by
  refine List.forall_mem_append.2 ⟨List.forall_mem_append.2 ⟨?_, ?_⟩, ?_⟩
  · simp [fixed, front, boundary, crossbar, memories, memory, Nat.add_assoc]
  · intro port hport
    obtain ⟨j, -, hport⟩ := mem_ports_cores hport
    simp only [core, List.mem_cons, List.not_mem_nil, or_false] at hport
    rcases hport with rfl | rfl | rfl <;> show n ≤ n + 5 + j <;> omega
  · simp [engine, Nat.add_assoc]

/-- Its bindings start at its own ports. -/
theorem source_of_mem_inventory :
    ∀ b ∈ (inventory n p top layout).bindings,
      p ≤ b.source.index ∧ b.source.index < p + 14 + 3 * layout.coreCount := by
  refine List.forall_mem_append.2 ⟨List.forall_mem_append.2 ⟨?_, ?_⟩, ?_⟩
  · simp [fixed, front, boundary, crossbar, memories, memory]
    omega
  · intro b hb
    rcases source_of_mem_cores hb with hsource | ⟨hle, hlt⟩
    · simp only [hsource]
      omega
    · omega
  · simp [engine]
    omega

end

end StandardCluster

end ChipFabric
