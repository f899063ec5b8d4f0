/-
Inputs that are added late, to a router that stands in a graph already. That
takes two updates, since an input is a port of the graph and a name in the
table of the router. The port is declared first, and refused if its name is
taken; what is no router is found out when the table is asked for, and by then
the port is there.

# What stays behind

On a router the second update cannot fail, and where the name is taken the
first one has not begun (`addRouterInput_spares`). In the one case that is left
the port stays, and with it its name (`LeavesPort`): the component will declare
no other port of that name.

# The statement

`allOrNothing_iff`: to add an input is all or nothing exactly if it is asked of
a router, or under a name that the component has given to a port.
-/
import ChipFabric.Proofs.Fabric.Atomic

namespace ChipFabric

open Edit

namespace Graph

variable {g : Graph} {id : ComponentId}

/-- The port of an input. -/
abbrev inputPort (router : ComponentId) (name : String) : Port :=
  ⟨router, name, .input, Signal.io.signature⟩

theorem router_of_not_isRouter (h : ¬ (g.component id).isRouter) :
    g.router id = .error (.notARouter (g.path id)) := by
  rw [Component.isRouter, Option.not_isSome_iff_eq_none] at h
  rw [router, h]

theorem isRouter_pushPort (port : Port) :
    ((g.pushPort port).component id).isRouter = (g.component id).isRouter := by
  rw [Component.isRouter, Component.table?, kind_pushPort]
  rfl

/-- A port that was not there is the input's: it has the name and the
signature, is found, and is listed by the router, which has the name in its
table. -/
structure InputAdded (g g' : Graph) (router : ComponentId) (name : String)
    (input : InputPort .io) : Prop where
  fresh : g.ports.size ≤ input.port.index
  declared : g'.Declares input.port (inputPort router name)
  listed : (g'.component router).ports = (g.component router).ports
    ++ [input.port]
  in_table : ∃ table, (g'.component router).table? = some table
    ∧ name ∈ table.inputs

end Graph

-- ============================================================== steps

namespace Build

variable {g : Graph} {router : ComponentId} {name : String}

/-- What is no router gets the port all the same. -/
theorem on_addRouterInput_of_not_isRouter
    (hrouter : ¬ (g.component router).isRouter)
    (hfree : g.findPort? router name = none) :
    (addRouterInput router name).on g = (.error (.notARouter (g.path router)),
      g.pushPort (Graph.inputPort router name)) := by
  have hgrown : ¬ ((g.pushPort (Graph.inputPort router name)).component
      router).isRouter := by
    rwa [Graph.isRouter_pushPort]
  rw [on_addRouterInput, hfree]
  simp only [Option.isSome_none, Bool.false_eq_true, ↓reduceIte,
    Graph.router_of_not_isRouter hgrown, Graph.path_pushPort]

/-- Where the input is added, it is added to a router, and whole. -/
theorem inputAdded_of_addRouterInput {g' : Graph} {input : InputPort .io}
    (hlt : router.index < g.components.size)
    (hon : (addRouterInput router name).on g = (.ok input, g')) :
    g.InputAdded g' router name input := by
  have hfree : g.findPort? router name = none := by
    rw [on_addRouterInput] at hon
    cases hfind : g.findPort? router name with
    | none => rfl
    | some id => simp [hfind] at hon
  by_cases hrouter : (g.component router).isRouter
  · obtain ⟨table, exits, hkind⟩ := Component.exists_kind_of_isRouter hrouter
    rw [on_addRouterInput_of_router hkind hfree] at hon
    cases hon
    have hgrown :=
      (g.kind_pushPort router (Graph.inputPort router name)).trans hkind
    have hport : (g.pushPort _).Declares ⟨g.ports.size⟩
        (Graph.inputPort router name) :=
      .pushPort hfree
    constructor
    case fresh => exact Nat.le_refl _
    case declared => exact ⟨hport.exists_port, hport.port_eq, hport.found⟩
    case listed =>
      rw [(Graph.samePorts_setTable router _).listed_eq,
        Graph.ports_component_pushPort hlt, if_pos rfl]
    case in_table =>
      refine ⟨table.withInput name, ?_,
        Router.mem_inputs_withInput.2 (.inr rfl)⟩
      exact Component.table?_of_kind (Graph.kind_setTable_self _ hgrown _)
  · rw [on_addRouterInput_of_not_isRouter hrouter hfree] at hon
    cases hon

end Build

namespace Graph.Indexed

variable {d d' : Indexed}

/-- A port that was declared had a free name, and is in the graph. -/
theorem eq_pushPort_of_declare {owner : ComponentId} {name : String}
    {direction : Direction} {signal : Signal}
    {handle : Handle direction signal}
    (hon : (declare owner name direction signal).on d = (.ok handle, d')) :
    d.findPort? owner name = none
      ∧ d'.graph = d.graph.pushPort ⟨owner, name, direction,
        signal.signature⟩ := by
  cases hfind : d.findPort? owner name with
  | some id => simp [declare, declarePort, on_bind, hfind] at hon
  | none =>
    simp only [declare, declarePort, on_bind, on_get, hfind,
      Option.isSome_none, Bool.false_eq_true, ↓reduceIte, on_set,
      on_pure] at hon
    cases hon
    exact ⟨rfl, rfl⟩

theorem Follows.spares {α : Type} {step : Edit Indexed α} {plain : Build α}
    (h : Follows step plain) (hd : d.Consistent) (hspares : step.Spares d) :
    plain.Spares d.graph := by
  obtain ⟨-, hplain⟩ := h d hd
  intro fault hfault
  rw [hplain] at hfault ⊢
  exact congrArg Indexed.graph (hspares fault hfault)

/-- On a router, and under a name that is taken, a graph with directories is
spared. -/
theorem addRouterInput_spares (hd : d.Consistent) {router : ComponentId}
    {name : String} (h : (d.graph.component router).isRouter
      ∨ (d.graph.findPort? router name).isSome) :
    (addRouterInput router name).Spares d := by
  refine (declare_spares router name .input .io).bind fun input d' hon => ?_
  obtain ⟨hfree, hgraph⟩ := eq_pushPort_of_declare hon
  rw [hd.findPort?_eq] at hfree
  -- the name was free, so of the two cases it is a router that was asked
  have hrouter : (d.graph.component router).isRouter := by
    apply h.resolve_right
    rw [hfree]
    exact nofun
  rw [← isRouter_pushPort (inputPort router name), ← hgraph] at hrouter
  obtain ⟨table, exits, hkind⟩ := Component.exists_kind_of_isRouter hrouter
  have htable := d'.graph.router_eq_ok_iff.2 ⟨exits, hkind⟩
  refine ⟨input, ?_⟩
  simp only [on_bind, on_get, htable, on_liftExcept]
  rfl

end Graph.Indexed

-- ========================================================== statement

namespace Session

variable {t : Session} {router : ComponentId} {name : String}

/-- All or nothing: an input that is added is there whole, and where it is
refused the graph is what it was, and its directories are as well. -/
structure AllOrNothing (t : Session) (router : ComponentId) (name : String) :
    Prop where
  all : ∀ input g', (Build.addRouterInput router name).on t.graph =
    (.ok input, g') →
    t.graph.InputAdded g' router name input
  nothing : (Build.addRouterInput router name).Spares t.graph
  nothing_indexed : ∀ d : Graph.Indexed, d.Alongside t →
    (Graph.Indexed.addRouterInput router name).Spares d

/-- The fault is that the component is no router, and it has a port now whose
name it will not give to another. -/
structure LeavesPort (t : Session) (router : ComponentId) (name : String) :
    Prop where
  on_eq : (Build.addRouterInput router name).on t.graph =
    (.error (.notARouter (t.graph.path router)),
      t.graph.pushPort (Graph.inputPort router name))
  declared : (t.graph.pushPort (Graph.inputPort router name)).Declares
    ⟨t.graph.ports.size⟩ (Graph.inputPort router name)
  blocks : ∀ direction signature,
      (Build.declarePort router name direction signature).on
      (t.graph.pushPort (Graph.inputPort router name)) =
    (.error (.duplicatePort (t.graph.path router) name),
      t.graph.pushPort (Graph.inputPort router name))

theorem leavesPort (hrouter : ¬ (t.graph.component router).isRouter)
    (hfree : t.graph.findPort? router name = none) :
    t.LeavesPort router name := by
  have hport : (t.graph.pushPort _).Declares ⟨t.graph.ports.size⟩
      (Graph.inputPort router name) := .pushPort hfree
  constructor
  case on_eq => exact Build.on_addRouterInput_of_not_isRouter hrouter hfree
  case declared => exact hport
  case blocks =>
    intro direction signature
    have hfound := hport.found
    rw [Build.on_declarePort, hfound, Graph.path_pushPort]
    rfl

/-- What stays is a port that was not there. -/
theorem LeavesPort.not_spares (h : t.LeavesPort router name) :
    ¬ (Build.addRouterInput router name).Spares t.graph := by
  intro hspares
  have hsame := hspares _ (congrArg Prod.fst h.on_eq)
  have hsize := congrArg (·.ports.size) hsame
  simp only [h.on_eq, Graph.ports_pushPort, Array.size_push] at hsize
  exact Nat.succ_ne_self _ hsize

/-- An input can be asked of every component that there is. That is all or
nothing exactly if the component is a router or has a port of that name;
otherwise it fails, and leaves a port. -/
theorem allOrNothing_iff (ht : t.Reachable) (hrouter : t.HasComponent router)
    (name : String) :
    (t.AllOrNothing router name ↔
        (t.graph.component router).isRouter
          ∨ (t.graph.findPort? router name).isSome)
      ∧ (¬ (t.graph.component router).isRouter →
        t.graph.findPort? router name = none →
          t.LeavesPort router name) := by
  refine ⟨⟨?_, ?_⟩, leavesPort⟩
  · intro hall
    by_contra hneither
    rw [not_or, Option.not_isSome_iff_eq_none] at hneither
    exact (leavesPort hneither.1 hneither.2).not_spares hall.nothing
  · intro hspared
    have hindexed : ∀ d : Graph.Indexed, d.Alongside t →
        (Graph.Indexed.addRouterInput router name).Spares d := by
      intro d hd
      obtain ⟨hconsistent, hgraph⟩ := hd.consistent
      rw [← hgraph] at hspared
      exact Graph.Indexed.addRouterInput_spares hconsistent hspared
    constructor
    case all =>
      exact fun input g' hon => Build.inputAdded_of_addRouterInput hrouter hon
    case nothing =>
      obtain ⟨d, hd⟩ := Graph.Indexed.exists_alongside ht
      obtain ⟨hconsistent, hgraph⟩ := hd.consistent
      have hfollows := Graph.Indexed.addRouterInput_follows router name
      exact hgraph ▸ hfollows.spares hconsistent (hindexed d hd)
    case nothing_indexed => exact hindexed

end Session

/-- A router that stands in the graph. -/
def standingSession : Session :=
  (Session.new "top").after (.addRouter Graph.root (.new "r" 8))

/-- The router gets one more input. -/
theorem standingSession_allOrNothing :
    standingSession.Reachable ∧ standingSession.HasComponent ⟨1⟩
      ∧ standingSession.AllOrNothing ⟨1⟩ "late"
      ∧ ∃ g', (Build.addRouterInput ⟨1⟩ "late").on standingSession.graph =
        (.ok ⟨⟨1⟩⟩, g')
        ∧ standingSession.graph.InputAdded g' ⟨1⟩ "late" ⟨⟨1⟩⟩ := by
  have hreach : standingSession.Reachable :=
    ⟨"top", .step _ .none ⟨show 0 < _ by decide, .new "r" 8⟩⟩
  have hrouter : standingSession.HasComponent ⟨1⟩ := show 1 < _ by
    decide +kernel
  have hkind : (standingSession.graph.component ⟨1⟩).kind = .router
      (.new "r" 8) [] := by
    decide +kernel
  have hfree : standingSession.graph.findPort? ⟨1⟩ "late" = none := by
    decide +kernel
  obtain ⟨hiff, -⟩ := Session.allOrNothing_iff hreach hrouter "late"
  have hall : standingSession.AllOrNothing ⟨1⟩ "late" := by
    apply hiff.2
    left
    rw [Component.isRouter, Component.table?_of_kind hkind]
    rfl
  have hon := Build.on_addRouterInput_of_router hkind hfree
  have hsize : standingSession.graph.ports.size = 1 := by decide +kernel
  rw [hsize] at hon
  exact ⟨hreach, hrouter, hall, _, hon, hall.all _ _ hon⟩

/-- An input asked of the root, which is a group, stays as a port of it and
takes the name. -/
theorem new_not_allOrNothing :
    (Session.new "top").Reachable ∧ (Session.new "top").HasComponent Graph.root
      ∧ (Build.addRouterInput Graph.root "in").on (Graph.new "top") =
        (.error (.notARouter "top"),
          (Graph.new "top").pushPort (Graph.inputPort Graph.root "in"))
      ∧ ¬ (Session.new "top").AllOrNothing Graph.root "in" := by
  have hleaves : (Session.new "top").LeavesPort Graph.root "in" :=
    Session.leavesPort (by decide +kernel) (by decide +kernel)
  refine ⟨⟨"top", .none⟩, Nat.one_pos, hleaves.on_eq, ?_⟩
  exact fun hall => hleaves.not_spares hall.nothing

end ChipFabric
