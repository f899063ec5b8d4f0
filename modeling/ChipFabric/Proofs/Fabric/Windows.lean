/-
What a window adds. A window that is added brings an output with its exit, a
mapping and a binding, and nothing else; `outcome_of_mapWindow` writes the
graph out that is left. From then on the router sends the addresses of the
window out by the new exit, which leads where the target leads, and for all
other addresses and all other ports nothing is different.

# The exit of the new window

The table counts its outputs and the graph its exits, and the mapping names the
new output by the first count. That the new exit is the one of that number
takes a router that was added without outputs; `presetSession` shows one where
it is not so.

# What was found before

A search goes no further than before from a port that was there, because the
one new binding starts at the new output (`Operation.edit_extends`). It may go
deeper, which makes no difference: what it lists it lists at any depth that is
enough, and in a circle no depth is (`Extends.reachableInputs_eq_ok_iff`).
-/
import ChipFabric.Proofs.Fabric.Chains
import ChipFabric.Proofs.Fabric.Exits
import ChipFabric.Proofs.Fabric.Extension
import ChipFabric.Proofs.Fabric.Makes

namespace ChipFabric

open Edit

-- ============================================================== tables

namespace Router

variable {table : Router} {name : String} {window : Window} {rebase : Bool}
  {attrs : MappingAttrs}

/-- Over a window that is free, an output that was just declared can be
mapped. -/
theorem addMapping_withOutput (hfree : table.checkFree window = .ok ()) :
    (table.withOutput name).addMapping ⟨window, ⟨table.outputs.length⟩,
      rebase, attrs⟩ =
      .ok (table.withWindow name window rebase attrs) := by
  refine addMapping_eq_ok_iff.2 ⟨?_, hfree, rfl⟩
  simp [withOutput]

theorem Sound.withWindow (h : table.Sound) (hname : name ∉ table.outputs)
    (hfree : table.checkFree window = .ok ()) :
    (table.withWindow name window rebase attrs).Sound :=
  (h.declareOutput (declareOutput_eq_ok_iff.2 ⟨hname, rfl, rfl⟩)).addMapping
    (addMapping_withOutput hfree)

/-- The addresses of the new window are the new mapping's. -/
theorem Sound.resolve_withWindow_of_mem
    (h : (table.withWindow name window rebase attrs).Sound) {addr : Nat}
    (haddr : addr ∈ window) :
    (table.withWindow name window rebase attrs).resolve addr =
      .ok ⟨⟨window, ⟨table.outputs.length⟩, rebase, attrs⟩,
        if rebase then addr - window.base else addr⟩ := by
  have hat : (table.withWindow name window rebase attrs).mappingAt? addr =
      some ⟨window, ⟨table.outputs.length⟩, rebase, attrs⟩ :=
    h.mappingAt?_eq_some_iff.2 ⟨by simp, haddr⟩
  rw [resolve, hat]
  rfl

/-- All other addresses are whose they were. -/
theorem Sound.resolve_withWindow_of_not_mem (hold : table.Sound)
    (h : (table.withWindow name window rebase attrs).Sound) {addr : Nat}
    (haddr : addr ∉ window) :
    (table.withWindow name window rebase attrs).resolve addr =
      table.resolve addr := by
  rw [hold.resolve_concat h (mappings_withWindow ..) rfl, if_neg haddr]

end Router

-- =============================================================== steps

namespace Graph

variable {g : Graph} {router : ComponentId} {table : Router}
  {exits : List PortId} {name : String}

/-- The graph with one more output of a router, its port and its exit. -/
def withOutput (g : Graph) (router : ComponentId) (table : Router)
    (name : String) : Graph :=
  ((g.setTable router (table.withOutput name)).pushPort
    ⟨router, name, .output, Signal.io.signature⟩).pushExit router
      ⟨g.ports.size⟩

/-- The graph with one more window of a router, which leads to that port. -/
def withWindow (g : Graph) (router : ComponentId) (table : Router)
    (name : String) (window : Window) (rebase : Bool) (attrs : MappingAttrs)
    (target : PortId) : Graph :=
  ((g.withOutput router table name).setTable router
    (table.withWindow name window rebase attrs)).pushBinding
      ⟨g.ports.size⟩ target

theorem kind_withOutput (h : (g.component router).kind = .router table exits)
    (name : String) :
    ((g.withOutput router table name).component router).kind =
      .router (table.withOutput name) (exits ++ [⟨g.ports.size⟩]) :=
  (g.kind_pushOutput h _ _ _ _).trans (if_pos rfl)

theorem kind_withWindow (h : (g.component router).kind = .router table exits)
    (name : String) (window : Window) (rebase : Bool) (attrs : MappingAttrs)
    (target : PortId) :
    ((g.withWindow router table name window rebase attrs target).component
      router).kind =
      .router (table.withWindow name window rebase attrs)
        (exits ++ [⟨g.ports.size⟩]) := by
  rw [withWindow, kind_pushBinding,
    kind_setTable_self _ (kind_withOutput h name)]

end Graph

namespace Build

variable {g g' : Graph} {router : ComponentId} {table : Router}
  {exits : List PortId} {name : String}

/-- Under a name that neither the ports nor the table have, an output is
declared. -/
theorem on_addRouterOutput_of_free
    (hkind : (g.component router).kind = .router table exits)
    (hfree : g.findPort? router name = none) (hname : name ∉ table.outputs) :
    (addRouterOutput router name).on g =
      (.ok (⟨table.outputs.length⟩, ⟨⟨g.ports.size⟩⟩),
        g.withOutput router table name) := by
  have hstep : table.declareOutput name = .ok (⟨table.outputs.length⟩,
      table.withOutput name) :=
    Router.declareOutput_eq_ok_iff.2 ⟨hname, rfl, rfl⟩
  rw [on_addRouterOutput, hfree, g.router_eq_ok_iff.2 ⟨exits, hkind⟩,
    ok_bind, hstep]
  rfl

/-- An output is declared under no other name. -/
theorem free_of_addRouterOutput {made : RouterPort × OutputPort .io}
    (h : ((addRouterOutput router name).on g).1 = .ok made) :
    ∃ table exits, (g.component router).kind = .router table exits
      ∧ g.findPort? router name = none ∧ name ∉ table.outputs := by
  rw [on_addRouterOutput] at h
  cases hfind : g.findPort? router name with
  | some id => simp [hfind] at h
  | none =>
    cases htable : g.router router with
    | error fault => simp [hfind, htable] at h
    | ok table =>
      obtain ⟨exits, hkind⟩ := g.router_eq_ok_iff.1 htable
      refine ⟨table, exits, hkind, rfl, fun hname => ?_⟩
      simp [hfind, htable, Router.declareOutput, hname] at h

variable {direction : Direction} {target : Handle direction .io}
  {window : Window} {rebase : Bool} {attrs : MappingAttrs}

/-- Once its output is declared, a window that is free can be mapped. -/
theorem on_addMapping_withOutput
    (hkind : (g.component router).kind = .router table exits)
    (hwindow : table.checkFree window = .ok ()) :
    (addMapping router ⟨window, ⟨table.outputs.length⟩, rebase, attrs⟩).on
      (g.withOutput router table name) =
        (.ok (), (g.withOutput router table name).setTable router
          (table.withWindow name window rebase attrs)) := by
  have htable : (g.withOutput router table name).router router = .ok
      (table.withOutput name) :=
    (Graph.router_eq_ok_iff _).2 ⟨_, Graph.kind_withOutput hkind name⟩
  rw [on_addMapping, htable, ok_bind, Router.addMapping_withOutput hwindow]

/-- So from then on nothing fails; the output is bound last. -/
theorem on_addWindow_of_free
    (hkind : (g.component router).kind = .router table exits)
    (hfree : g.findPort? router name = none) (hname : name ∉ table.outputs)
    (hwindow : table.checkFree window = .ok ()) :
    (addWindow router name target window rebase attrs).on g =
      (.ok ⟨⟨g.ports.size⟩⟩,
        g.withWindow router table name window rebase attrs target.port) := by
  simp only [addWindow, on_bind, on_addRouterOutput_of_free hkind hfree hname,
    on_addMapping_withOutput hkind hwindow, on_modify, on_pure]
  rfl

/-- What a window that is added leaves. -/
theorem outcome_of_mapWindow {output : OutputPort .io}
    (h : (mapWindow router name target window rebase attrs).on g =
      (.ok output, g')) :
    ∃ table exits, (g.component router).kind = .router table exits
      ∧ name ∉ table.outputs ∧ table.checkFree window = .ok ()
      ∧ output.port = ⟨g.ports.size⟩
      ∧ g' = g.withWindow router table name window rebase attrs
        target.port := by
  rw [on_mapWindow] at h
  cases htable : g.router router with
  | error fault => simp [htable] at h
  | ok table =>
    cases hwindow : table.checkFree window with
    | error fault => simp [htable, hwindow] at h
    | ok _ =>
      by_cases hsink : (g.port target.port).direction.isSink
      · simp only [htable, ok_bind, hwindow, hsink, not_true_eq_false,
          ↓reduceIte] at h
        obtain ⟨made, g₁, hout, -⟩ := on_bind_eq_ok_iff.1 h
        obtain ⟨table', exits, hkind, hfree, hname⟩ :=
          free_of_addRouterOutput (congrArg Prod.fst hout)
        obtain rfl : table' = table :=
          Except.ok.inj
            ((g.router_eq_ok_iff.2 ⟨exits, hkind⟩).symm.trans htable)
        rw [on_addWindow_of_free hkind hfree hname hwindow] at h
        cases h
        exact ⟨table', exits, hkind, hname, hwindow, rfl, rfl⟩
      · simp [htable, hwindow, hsink] at h

end Build

-- ============================================================== search

namespace Graph

variable {g g' : Graph}

/-- From a port that was there, an extended graph lists what was listed and
nothing where nothing was. -/
theorem Extends.reachableInputs_eq_ok_iff (h : g.Extends g') (hg : g.Reachable)
    {source : PortId} (hsource : source.index < g.ports.size)
    {found : List PortId} :
    g'.reachableInputs source = .ok found ↔
      g.reachableInputs source = .ok found := by
  rw [Graph.reachableInputs_eq_ok_iff, Graph.reachableInputs_eq_ok_iff,
    h.inputsWithin_eq hg.closed _ hsource]
  have hle : g.ports.size + 1 ≤ g'.ports.size + 1 :=
    Nat.succ_le_succ h.grows.ports_size_le
  constructor
  · intro hfound
    have hcircle : ¬ g.LeadsToCircle source := by
      intro h
      rw [h.inputsWithin_eq_none hg] at hfound
      cases hfound
    obtain ⟨before, hbefore⟩ := hg.exists_reachableInputs_iff.2 hcircle
    rw [Graph.reachableInputs_eq_ok_iff] at hbefore
    rw [hbefore, ← inputsWithin_mono hbefore hle, hfound]
  · exact fun hfound => inputsWithin_mono hfound hle

variable {router : ComponentId} {table : Router} {exits : List PortId}
  {name : String} {window : Window} {rebase : Bool} {attrs : MappingAttrs}
  {target : PortId}

@[simp] theorem ports_withWindow :
    (g.withWindow router table name window rebase attrs target).ports =
      g.ports.push ⟨router, name, .output, Signal.io.signature⟩ := rfl

@[simp] theorem bindings_withWindow :
    (g.withWindow router table name window rebase attrs target).bindings =
      g.bindings.push ⟨⟨g.ports.size⟩, target⟩ := rfl

/-- The new output leads to the target of its window and nowhere else. -/
theorem Closed.targets_withWindow (h : g.Closed) :
    (g.withWindow router table name window rebase attrs target).targets
      ⟨g.ports.size⟩ = [target] := by
  have hnone : (g.bindings.toList.filter (·.source = ⟨g.ports.size⟩)).map
      (·.target) = [] :=
    h.targets_eq_nil (Nat.le_refl _)
  rw [targets, bindings_withWindow, Array.toList_push, List.filter_append,
    List.map_append, hnone]
  simp

/-- A window to an input leads to that input. -/
theorem Extends.reachableInputs_of_input (h : g.Extends g')
    (htarget : target.index < g.ports.size) {output : PortId}
    (htargets : g'.targets output = [target])
    (hinput : (g.port target).direction = .input) :
    g'.reachableInputs output = .ok [target] := by
  rw [Graph.reachableInputs_eq_ok_iff, ← htargets]
  refine inputsWithin_of_inputs (fun id hid => ?_) _
  rw [htargets, List.mem_singleton] at hid
  rw [hid, isForward, (h.grows.port_eq target htarget).2, hinput]
  rfl

/-- A window to a forward port leads where that port leads. -/
theorem Extends.reachableInputs_of_forward (h : g.Extends g')
    (hclosed : g.Closed) (htarget : target.index < g.ports.size)
    (hsize : g.ports.size < g'.ports.size) {output : PortId}
    (htargets : g'.targets output = [target])
    (hforward : (g.port target).direction = .forward) {found : List PortId}
    (hfound : g.reachableInputs target = .ok found) :
    g'.reachableInputs output = .ok found := by
  rw [Graph.reachableInputs_eq_ok_iff,
    ← h.inputsWithin_eq hclosed _ htarget] at hfound
  have hwithin : g'.inputsWithin (g'.ports.size + 1) output =
      some ((g'.targets output).reverse.flatMap fun _ => found) := by
    refine inputsWithin_of_forwards fun id hid => ?_
    rw [htargets, List.mem_singleton] at hid
    rw [hid, isForward_eq_true_iff, (h.grows.port_eq target htarget).2]
    exact ⟨hforward, inputsWithin_mono hfound hsize⟩
  rw [Graph.reachableInputs_eq_ok_iff, hwithin, htargets]
  simp

-- =========================================================== statement

/-- Between the first graph and the second a window of the router was added,
with that output, to that target. -/
structure WindowAdded (g g' : Graph) (router : ComponentId)
    (output target : PortId)
    (window : Window) (rebase : Bool) (attrs : MappingAttrs) : Prop where
  /-- An address in the window is the new mapping's, and leaves by the
  output. -/
  inside : ∃ table port, (g'.component router).table? = some table
    ∧ (∀ addr ∈ window, table.resolve addr =
      .ok ⟨⟨window, port, rebase, attrs⟩,
        if rebase then addr - window.base else addr⟩)
    ∧ (g'.component router).exit? port = some output
  /-- Any other address is what it was. -/
  outside : ∃ table table', (g.component router).table? = some table
    ∧ (g'.component router).table? = some table'
    ∧ ∀ addr, addr ∉ window → table'.resolve addr = table.resolve addr
  /-- The output leads to the target if that is an input, -/
  to_input : (g.port target).direction = .input →
    g'.reachableInputs output = .ok [target]
  /-- and where the target leads if that passes on. -/
  to_forward : (g.port target).direction = .forward → ∀ found,
    g.reachableInputs target = .ok found →
      g'.reachableInputs output = .ok found
  /-- Ports that were there lead where they led. -/
  others : ∀ id : PortId, id.index < g.ports.size → ∀ found,
    g'.reachableInputs id = .ok found ↔ g.reachableInputs id = .ok found

end Graph

namespace Session

variable {t : Session} {router : ComponentId}

/-- A router has so many outputs as it was added with, and one for each
exit. -/
theorem Added.length_outputs {made : Router} (h : t.Added router made)
    {table : Router} {exits : List PortId}
    (hkind : (t.graph.component router).kind = .router table exits) :
    table.outputs.length = made.outputs.length + exits.length := by
  obtain ⟨table', exits', late, hkind', -, houtputs, hexits⟩ := h.trailing
  obtain ⟨rfl, rfl⟩ := ComponentKind.router.inj (hkind.symm.trans hkind')
  rw [houtputs, List.length_append, hexits.length_eq]

/-- Where a router was added without outputs, a window that is added to a port
of the graph takes the addresses it should to where it should, and nothing else
is different. -/
theorem windowAdded_of_mapWindow (ht : t.Reachable)
    (hbare : ∀ made, t.Added router made → made.outputs = [])
    {direction : Direction} {target : Handle direction .io}
    (htarget : t.HasPort target.port) {name : String} {window : Window}
    {rebase : Bool} {attrs : MappingAttrs} {output : OutputPort .io}
    {g' : Graph}
    (hon : (Build.mapWindow router name target window rebase attrs).on
      t.graph = (.ok output, g')) :
    t.graph.WindowAdded g' router output.port target.port window rebase
      attrs := by
  have hextends : t.graph.Extends g' := by
    have hedit :=
      (Operation.mapWindow router name target window rebase attrs).edit_extends
        id t.graph
    rwa [Operation.edit, snd_on_bind_pure, hon] at hedit
  obtain ⟨table, exits, hkind, hname, hwindow, hout, rfl⟩ :=
    Build.outcome_of_mapWindow hon
  have hclosed := ht.graph.closed
  have hsound := (ht.graph.made hkind).sound
  have hsound' : (table.withWindow name window rebase attrs).Sound :=
    hsound.withWindow hname hwindow
  have hkind' :=
    Graph.kind_withWindow hkind name window rebase attrs target.port
  have hexits : table.outputs.length = exits.length := by
    obtain ⟨made, hadded⟩ := ht.added hkind
    rw [hadded.length_outputs hkind, hbare made hadded, List.length_nil,
      Nat.zero_add]
  have htargets :
      (t.graph.withWindow router table name window rebase attrs
        target.port).targets output.port = [target.port] := by
    rw [hout]
    exact hclosed.targets_withWindow
  have htable := Component.table?_of_kind hkind'
  constructor
  case inside =>
    refine ⟨_, _, htable, fun addr => hsound'.resolve_withWindow_of_mem, ?_⟩
    rw [Component.exit?_of_kind hkind', hexits, hout]
    simp
  case outside =>
    refine ⟨table, _, Component.table?_of_kind hkind, htable, fun addr => ?_⟩
    exact hsound.resolve_withWindow_of_not_mem hsound'
  case to_input => exact hextends.reachableInputs_of_input htarget htargets
  case to_forward =>
    intro hforward found
    exact hextends.reachableInputs_of_forward hclosed htarget (by simp)
      htargets hforward
  case others =>
    exact fun id hid found => hextends.reachableInputs_eq_ok_iff ht.graph hid

end Session

/-- A router without outputs, and a memory behind a forward port. -/
def gateSession : Session :=
  ((((Session.new "top").after
    (.addRouter Graph.root (.new "r" 8))).after
    (.addTerminal Graph.root "mem" (.memory 0x1c0 false))).after
    (.declarePort Graph.root "gate" .forward Signal.io.signature)).after
    (.bindPorts ⟨2⟩ ⟨1⟩)

def gateWindow : Window := ⟨0x9000, 0x1c0, by decide, by decide⟩

/-- A window to the forward port leads to the memory. -/
theorem gateSession_windowAdded :
    ∃ g', gateSession.Reachable ∧ gateSession.HasPort ⟨2⟩
      ∧ (∀ made, gateSession.Added ⟨1⟩ made → made.outputs = [])
      ∧ (Build.mapWindow ⟨1⟩ "out" (⟨⟨2⟩⟩ : ForwardPort .io)
        gateWindow true {}).on
        gateSession.graph = (.ok ⟨⟨3⟩⟩, g')
      ∧ gateSession.graph.WindowAdded g' ⟨1⟩ ⟨3⟩ ⟨2⟩ gateWindow true {}
      ∧ g'.reachableInputs ⟨3⟩ = .ok [⟨1⟩] := by
  have hrun : (Session.new "top").Run gateSession :=
    .step _ (.step _ (.step _ (.step _
      .none ⟨show 0 < _ by decide, .new "r" 8⟩)
      (show 0 < _ by decide +kernel)) (show 0 < _ by decide +kernel))
      ⟨show 2 < _ by decide +kernel, show 1 < _ by decide +kernel⟩
  have hreach : gateSession.Reachable := ⟨"top", hrun⟩
  have hkind : (gateSession.graph.component ⟨1⟩).kind = .router
      (.new "r" 8) [] := by
    decide +kernel
  have hbare : ∀ made, gateSession.Added ⟨1⟩ made → made.outputs = [] := by
    intro made hadded
    have hlength := hadded.length_outputs hkind
    exact List.length_eq_zero_iff.1 hlength.symm
  obtain ⟨g', hon⟩ : ∃ g',
    (Build.mapWindow ⟨1⟩ "out" (⟨⟨2⟩⟩ : ForwardPort .io) gateWindow true
      {}).on gateSession.graph = (.ok ⟨⟨3⟩⟩, g') :=
        ⟨_, Prod.ext (by decide +kernel) rfl⟩
  have hport : gateSession.HasPort ⟨2⟩ := by decide +kernel
  have hadded := Session.windowAdded_of_mapWindow hreach hbare hport hon
  exact ⟨g', hreach, hport, hbare, hon, hadded,
    hadded.to_forward (by decide +kernel) [⟨1⟩] (by decide +kernel)⟩

end ChipFabric
