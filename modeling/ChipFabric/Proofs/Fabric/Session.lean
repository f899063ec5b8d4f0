/-
What a graph can become from outside. A session is a graph together with the
port handles it has handed out. An operation may name the components and
ports that exist and the handles that were handed out, and nothing else; it
may fail, and the session goes on from the graph it left. Queries change
nothing and are no operations here, except the one that hands out a handle.

`Session.Reachable.changes` takes every reachable session back to a row of
`Graph.Change`, so that an invariant of reachable graphs needs one lemma for
each change. Routers are only ever added by `addRouter`, as they stand then;
`Session.Added` names the router a component was added as, and
`Session.Reachable.added` finds it.
-/
import ChipFabric.Proofs.Fabric.Closed
import ChipFabric.Proofs.Fabric.Steps

namespace ChipFabric

-- ======================================================== operations

/-- A handle that was handed out. -/
structure Issued where
  direction : Direction
  signal : Signal
  handle : Handle direction signal
  deriving DecidableEq

def Handle.issued {d : Direction} {s : Signal} (handle : Handle d s) :
    Issued := ⟨d, s, handle⟩

/-- A way to change a graph or to be given a handle. -/
inductive Operation where
  | addGroup (parent : ComponentId) (name : String)
  | addDevice (parent : ComponentId) (name : String) (device : Device)
  | addTerminal (parent : ComponentId) (name : String) (device : Device)
  | addRouter (parent : ComponentId) (router : Router)
  | declarePort (owner : ComponentId) (name : String) (direction : Direction)
      (signature : String)
  | declare (owner : ComponentId) (name : String) (direction : Direction)
    (signal : Signal)
  | routerInput (router : ComponentId) (name : String)
  | addRouterInput (router : ComponentId) (name : String)
  | addRouterOutput (router : ComponentId) (name : String)
  | addMapping (router : ComponentId) (mapping : Mapping)
  | mapWindow {direction : Direction} (router : ComponentId) (name : String)
      (target : Handle direction .io) (window : Window) (rebase : Bool)
      (attrs : MappingAttrs)
  | bind {signal : Signal} {d e : Direction} [d.Source] [e.Sink]
      (source : Handle d signal) (target : Handle e signal)
  | bindPorts (source target : PortId)
  | bindByName (source : ComponentId) (sourcePort : String)
      (target : ComponentId) (targetPort : String)

namespace Operation

/-- The operation as a building step that gives back the handles it hands
out. -/
def edit : Operation → Build (List Issued)
  | addGroup parent name => do
    let _ ← Build.addGroup parent name
    return []
  | addDevice parent name device => do
    let _ ← Build.addDevice parent name device
    return []
  | addTerminal parent name device => do
    let (_, input) ← Build.addTerminal parent name device
    return [input.issued]
  | addRouter parent router => do
    let _ ← Build.addRouter parent router
    return []
  | declarePort owner name direction signature => do
    let _ ← Build.declarePort owner name direction signature
    return []
  | declare owner name direction signal => do
    let handle ← Build.declare owner name direction signal
    return [handle.issued]
  | routerInput router name => do
    let input ← Build.routerInput router name
    return [input.issued]
  | addRouterInput router name => do
    let input ← Build.addRouterInput router name
    return [input.issued]
  | addRouterOutput router name => do
    let (_, output) ← Build.addRouterOutput router name
    return [output.issued]
  | addMapping router mapping => do
    Build.addMapping router mapping
    return []
  | mapWindow router name target window rebase attrs => do
    let output ← Build.mapWindow router name target window rebase attrs
    return [output.issued]
  | bind source target => do
    Build.bind source target
    return []
  | bindPorts source target => do
    Build.bindPorts source target
    return []
  | bindByName source sourcePort target targetPort => do
    Build.bindByName source sourcePort target targetPort
    return []

/-- The routers that the operation adds. -/
def admits : Operation → Router → Prop
  | addRouter _ router, table => table = router
  | _, _ => False

end Operation

-- ========================================================== sessions

/-- A graph and the handles it has handed out. -/
structure Session where
  graph : Graph
  issued : List Issued

namespace Session

/-- The session that starts with a root of that name. -/
def new (root : String) : Session := ⟨Graph.new root, []⟩

/-- The session after an operation, whether it succeeded or failed. -/
def after (s : Session) (op : Operation) : Session :=
  match op.edit.on s.graph with
  | (.ok handles, graph) => ⟨graph, s.issued ++ handles⟩
  | (.error _, graph) => ⟨graph, s.issued⟩

def HasComponent (s : Session) (id : ComponentId) : Prop :=
  id.index < s.graph.components.size

def HasPort (s : Session) (id : PortId) : Prop := id.index < s.graph.ports.size

instance (s : Session) (id : PortId) : Decidable (s.HasPort id) :=
  inferInstanceAs (Decidable (_ < _))

/-- The operation names only what exists and what was handed out, and a
router it adds is one that can be made. -/
def Allows (s : Session) : Operation → Prop
  | .addGroup parent _ => s.HasComponent parent
  | .addDevice parent _ _ => s.HasComponent parent
  | .addTerminal parent _ _ => s.HasComponent parent
  | .addRouter parent router => s.HasComponent parent ∧ router.Made
  | .declarePort owner _ _ _ => s.HasComponent owner
  | .declare owner _ _ _ => s.HasComponent owner
  | .routerInput router _ => s.HasComponent router
  | .addRouterInput router _ => s.HasComponent router
  | .addRouterOutput router _ => s.HasComponent router
  | .addMapping router _ => s.HasComponent router
  | .mapWindow router _ target _ _ _ =>
    s.HasComponent router ∧ target.issued ∈ s.issued
  | @Operation.bind _ _ _ _ _ source target =>
    source.issued ∈ s.issued ∧ target.issued ∈ s.issued
  | .bindPorts source target => s.HasPort source ∧ s.HasPort target
  | .bindByName source _ target _ =>
    s.HasComponent source ∧ s.HasComponent target

inductive Run (s : Session) : Session → Prop
  | none : Run s s
  | step {t : Session} (op : Operation) (h : Run s t) (hallows : t.Allows op) :
      Run s (t.after op)

/-- The session comes from a new graph. -/
def Reachable (t : Session) : Prop := ∃ root, (new root).Run t

def Truthful (s : Session) : Prop := ∀ h ∈ s.issued, h.handle.Fits s.graph

end Session

/-- The graph comes from a new one by operations. -/
def Graph.Reachable (g : Graph) : Prop :=
  ∃ s : Session, s.Reachable ∧ s.graph = g

-- ======================================================== one operation

variable {s t : Session}

theorem Build.Ensures.noHandles {α : Type} {admits : Router → Prop}
    {step : Build α} {g : Graph} {post : α → Graph → Prop}
    (h : step.Ensures admits g post) :
    (do let _ ← step; return [] : Build (List Issued)).Ensures admits g
      fun handles g' => ∀ h ∈ handles, h.handle.Fits g' :=
  h.bind fun _ _ _ _ => .pure nofun

theorem Build.Ensures.oneHandle {d : Direction} {signal : Signal}
    {admits : Router → Prop} {step : Build (Handle d signal)} {g : Graph}
    (h : step.Ensures admits g fun handle g' => handle.Fits g') :
    (do let handle ← step; return [handle.issued] :
      Build (List Issued)).Ensures admits g
      fun handles g' => ∀ h ∈ handles, h.handle.Fits g' := by
  refine h.bind fun handle g' _ hfits => .pure fun h hmem => ?_
  obtain rfl := List.mem_singleton.1 hmem
  exact hfits

/-- What an operation does: changes that add no routers but its own, and
handles that fit. -/
theorem Operation.edit_ensures {op : Operation} (htrue : s.Truthful)
    (hallows : s.Allows op) :
    op.edit.Ensures op.admits s.graph fun handles g' => ∀ h ∈ handles,
      h.handle.Fits g' := by
  cases op with
  | addGroup parent name =>
    exact (Build.addComponent_ensures name hallows .group).noHandles
  | addDevice parent name device =>
    exact (Build.addComponent_ensures name hallows (.device device)).noHandles
  | addTerminal parent name device =>
    refine (Build.addTerminal_ensures name device hallows).bind
      fun made g' _ hmade => ?_
    refine .pure fun h hmem => ?_
    obtain rfl := List.mem_singleton.1 hmem
    exact hmade.1
  | addRouter parent router =>
    have hadmits : (addRouter parent router).admits router := rfl
    exact (Build.addRouter_ensures hadmits hallows.1).noHandles
  | declarePort owner name d signature =>
    exact (Build.declarePort_ensures name d signature hallows).noHandles
  | declare owner name d signal =>
    exact ((Build.declare_ensures name d signal hallows).imp fun _ _ _ h =>
      h.1).oneHandle
  | routerInput router name =>
    exact (Build.routerInput_ensures router name).oneHandle
  | addRouterInput router name =>
    exact (Build.addRouterInput_ensures name hallows).oneHandle
  | addRouterOutput router name =>
    refine (Build.addRouterOutput_ensures name).bind fun made g' _ hmade => ?_
    refine .pure fun h hmem => ?_
    obtain rfl := List.mem_singleton.1 hmem
    exact hmade.1
  | addMapping router mapping =>
    exact (Build.addMapping_ensures router mapping).noHandles
  | mapWindow router name target window rebase attrs =>
    have hfits := htrue _ hallows.2
    exact ((Build.mapWindow_ensures router name window rebase attrs hfits).imp
      fun _ _ _ h => h.1).oneHandle
  | bind source target =>
    have hsource : source.Fits s.graph := htrue _ hallows.1
    have htarget : target.Fits s.graph := htrue _ hallows.2
    exact (Build.bind_ensures hsource htarget).noHandles
  | bindPorts source target =>
    exact (Build.bindPorts_ensures hallows.1 hallows.2).noHandles
  | bindByName source sourcePort target targetPort =>
    exact (Build.bindByName_ensures source sourcePort target
      targetPort).noHandles

namespace Session

/-- What an operation does to a session. -/
theorem after_changes {op : Operation} (htrue : s.Truthful)
    (hallows : s.Allows op) :
    s.graph.Changes op.admits (s.after op).graph ∧ (s.after op).Truthful := by
  obtain ⟨hchanges, hhandles⟩ := op.edit_ensures htrue hallows
  have hold : ∀ h ∈ s.issued, h.handle.Fits (op.edit.on s.graph).2 :=
    fun h hmem => (htrue h hmem).changes hchanges
  unfold after
  generalize op.edit.on s.graph = outcome at hchanges hhandles hold
  obtain ⟨_ | handles, g'⟩ := outcome
  · exact ⟨hchanges, hold⟩
  · refine ⟨hchanges, fun h hmem => ?_⟩
    rcases List.mem_append.1 hmem with hmem | hmem
    · exact hold h hmem
    · exact hhandles handles rfl h hmem

/-- Operations that are allowed add only routers that can be made. -/
theorem made_of_admits {op : Operation} (hallows : s.Allows op)
    {table : Router} (h : op.admits table) : table.Made := by
  cases op with
  | addRouter parent router =>
    obtain rfl : table = router := h
    exact hallows.2
  | _ => exact h.elim

-- =============================================================== runs

theorem Run.trans {u : Session} (h : s.Run t) (h' : t.Run u) : s.Run u := by
  induction h' with
  | none => exact h
  | step op _ hallows ih => exact .step op ih hallows

/-- What a row of operations does to a session. -/
theorem Run.changes (h : s.Run t) (htrue : s.Truthful) :
    s.graph.Changes Router.Made t.graph ∧ t.Truthful := by
  induction h with
  | none => exact ⟨.refl, htrue⟩
  | step op _ hallows ih =>
    obtain ⟨hchanges, htrue'⟩ := ih
    obtain ⟨hop, hafter⟩ := after_changes htrue' hallows
    exact ⟨hchanges.trans (hop.mono fun _ => made_of_admits hallows), hafter⟩

theorem truthful_new (root : String) : (new root).Truthful := nofun

/-- Every reachable graph comes from a new one by changes, and the handles
it has handed out fit. -/
theorem Reachable.changes (h : s.Reachable) :
    (∃ root, (Graph.new root).Changes Router.Made s.graph) ∧ s.Truthful := by
  obtain ⟨root, hrun⟩ := h
  obtain ⟨hchanges, htrue⟩ := hrun.changes (truthful_new root)
  exact ⟨⟨root, hchanges⟩, htrue⟩

end Session

theorem Session.Reachable.graph (h : s.Reachable) : s.graph.Reachable :=
  ⟨s, h, rfl⟩

/-- What holds of new graphs and survives each change holds of every graph
that can be reached. -/
theorem Graph.Reachable.invariant {P : Graph → Prop}
    (hnew : ∀ root, P (Graph.new root))
    (hchange : ∀ g g', P g → g.Change Router.Made g' → P g') {g : Graph}
    (h : g.Reachable) : P g := by
  obtain ⟨s, hreach, rfl⟩ := h
  obtain ⟨⟨root, hchanges⟩, -⟩ := hreach.changes
  generalize s.graph = g at hchanges
  induction hchanges with
  | refl => exact hnew root
  | tail _ hstep ih => exact hchange _ _ ih hstep

theorem Graph.Reachable.closed {g : Graph} (h : g.Reachable) : g.Closed :=
  h.invariant Graph.Closed.new fun _ _ hclosed hchange =>
    hclosed.change hchange

theorem Graph.kind_new_ne_router (root : String) (r : ComponentId)
    (table : Router) (exits : List PortId) :
    ((Graph.new root).component r).kind ≠ .router table exits := by
  intro h
  obtain ⟨i⟩ := r
  have hlt := Graph.lt_of_kind_eq_router _ h
  obtain rfl : i = 0 := Nat.lt_one_iff.1 hlt
  cases h

/-- Every table in a reachable graph is one that can be made. -/
theorem Graph.Reachable.made {g : Graph} (h : g.Reachable) {r : ComponentId}
    {table : Router} {exits : List PortId}
    (hkind : (g.component r).kind = .router table exits) : table.Made := by
  obtain ⟨s, hreach, rfl⟩ := h
  obtain ⟨⟨root, hchanges⟩, -⟩ := hreach.changes
  refine hchanges.router_induction (motive := fun _ _ table _ => table.Made)
    ?_ ?_ ?_ hkind
  · exact fun _ _ _ _ _ _ hmade _ => hmade
  · intro g g' r table exits table' exits' _ _ _ hmade hstep
    cases hstep with
    | same => exact hmade
    | input name => exact hmade.withInput name
    | mapping hadd => exact hmade.addMapping hadd
    | output hout _ _ => exact hmade.declareOutput hout
  · exact fun r table exits hkind => absurd hkind
      (kind_new_ne_router root r table exits)

end ChipFabric
