/-
Routers that stay aligned. A router that was added without outputs has its
outputs and exits in line from then on, whatever is done to the graph and
whoever does it: the handles and numbers that later steps are given need not
be of this graph. So whoever added the router can rely on it, also after the
graph was in other hands.

# Two ways to one port

An output of a table has a number and a name. Routing takes the exit of the
number, a look-up takes the port of the name; in an aligned router they are
one port (`Aligned.exit`), and if the graph was validated, that port is
followed to one input, which is where an access through the mapping arrives
(`Aligned.arrives`).
-/
import ChipFabric.Proofs.Fabric.Exits
import ChipFabric.Proofs.Fabric.Outside
import ChipFabric.Proofs.Fabric.Validation

namespace ChipFabric

open Edit

namespace Graph

variable {g g' : Graph} {r : ComponentId}

-- ============================================================== order

/-- The second graph holds all that the first one does, and outputs that
trailed those a router was added with still do. -/
structure KeepsExits (g g' : Graph) : Prop where
  grows : g.Grows g'
  trailing : ∀ r early, g.Trailing r early → g'.Trailing r early

instance : IsPreorder Graph KeepsExits where
  refl g := ⟨.refl g, fun _ _ h => h⟩
  trans _ _ _ h h' :=
    ⟨h.grows.trans h'.grows, fun r early htrail => h'.trailing r early
      (h.trailing r early htrail)⟩

theorem Change.keepsExits (h : g.Change (fun _ => False) g') :
    g.KeepsExits g' :=
  ⟨h.grows, fun _ _ htrail => htrail.change h⟩

/-- Where no kind changes, no output and no exit does. -/
theorem Grows.keepsExits (h : g.Grows g')
    (hkind : ∀ r : ComponentId, r.index < g.components.size →
      (g'.component r).kind = (g.component r).kind) : g.KeepsExits g' := by
  refine ⟨h, fun r early htrail => ?_⟩
  obtain ⟨table, exits, late, hrouter, hnodup, houtputs, hexits⟩ := htrail
  have hsame := hkind r (g.lt_of_kind_eq_router hrouter)
  refine ⟨table, exits, late, hsame.trans hrouter, hnodup, houtputs,
    hexits.imp ?_⟩
  intro name exit hout
  have hport := h.declares ⟨hout.exists_port, hout.port_eq, hout.found⟩
  exact ⟨hport.exists_port, hport.port_eq, hport.found⟩

end Graph

-- ============================================================== steps

/-- No update takes an exit from an output. -/
theorem Update.Does.keepsExits {u : Update} {g g' : Graph}
    (h : u.Does g g') : g.KeepsExits g' := by
  cases h with
  | child parent name kind =>
    refine (Graph.growsUnbound_pushChild _ _ _ _).grows.keepsExits ?_
    exact fun r hr => g.kind_pushChild hr _ _ _ _
  | port port =>
    refine (Graph.growsUnbound_pushPort _).grows.keepsExits ?_
    exact fun r _ => g.kind_pushPort r _
  | input name hkind => exact (Graph.Change.input name hkind).keepsExits
  | output hkind hfree hstep =>
    exact (Graph.Change.output hkind hfree hstep).keepsExits
  | mapping hkind hstep => exact (Graph.Change.mapping hkind hstep).keepsExits
  | binding source target =>
    exact (g.grows_pushBinding source target).keepsExits fun _ _ => rfl

/-- Whatever graph a step is done to, outputs keep their exits. -/
theorem Build.Does.keepsExits {α : Type} {step : Build α} {op : Operation}
    (h : step.Does op) : step.Within Graph.KeepsExits :=
  h.within fun _ _ _ _ _ hdoes => hdoes.keepsExits

/-- Nobody who acts by operations takes an exit from an output. -/
theorem Session.Run.keepsExits {s t : Session} (h : s.Run t) :
    s.graph.KeepsExits t.graph := by
  induction h with
  | none => exact refl_of Graph.KeepsExits _
  | step op _ _ ih =>
    rw [graph_after]
    exact trans_of Graph.KeepsExits ih (op.edit_does.keepsExits _)

-- ============================================================ aligned

namespace Graph

variable {g g' : Graph} {r : ComponentId}

/-- The component is a router with a sound table, all whose outputs were
declared through the graph. -/
structure Aligned (g : Graph) (r : ComponentId) : Prop where
  trailing : g.Trailing r []
  inStep : g.InStep r

theorem KeepsExits.aligned (h : g.KeepsExits g') (hr : g.Aligned r) :
    g'.Aligned r :=
  ⟨h.trailing r [] hr.trailing, h.grows.inStep hr.inStep⟩

/-- The table is sound, and its outputs and exits line up. -/
theorem Aligned.table (h : g.Aligned r) :
    ∃ table, (g.component r).table? = some table
    ∧ table.Sound ∧ g.ExitsLineUp r := by
  obtain ⟨table, exits, hkind, hsound, -⟩ := h.inStep
  exact ⟨table, Component.table?_of_kind hkind, hsound,
    h.trailing.exitsLineUp_iff.2 rfl⟩

end Graph

-- =========================================================== arrivals

namespace Graph

variable {g : Graph} {r : ComponentId}

/-- The input where an address that enters a router arrives, one hop on. -/
def arrival (g : Graph) (r : ComponentId) (addr : Nat) :
    Except Fault PortId := do
  let resolved ← (← g.router r).resolve addr
  let some exit := (g.component r).exit? resolved.mapping.port
    | throw (.undeclaredOutput (g.path r) resolved.mapping.port.index)
  g.follow exit

theorem arrival_of_mappingAt? {table : Router}
    (htable : (g.component r).table? = some table) {addr : Nat} {m : Mapping}
    (hat : table.mappingAt? addr = some m) {exit : PortId}
    (hexit : (g.component r).exit? m.port = some exit) :
    g.arrival r addr = g.follow exit := by
  have hrouter : g.router r = .ok table := by rw [router, htable]
  have hresolve : table.resolve addr = .ok ⟨m, m.forward addr⟩ := by
    rw [Router.resolve, hat]
  simp only [arrival, hrouter, hresolve, ok_bind, hexit]

/-- What the first hop of a route decides. -/
theorem route_of_hop {addr : Nat} {step : Hop} {next : ComponentId}
    (hhop : g.hop r addr = .ok (step, next)) :
    g.route r addr =
      if (g.component next).isRouter then
        (g.routeWithin addr (hopLimit - 1) next step.addrOut).map fun onward =>
          { onward with hops := step :: onward.hops }
      else .ok {
        target := next
        targetPath := g.path next
        localAddr := step.addrOut
        hops := [step]
        attrs := step.mapping.attrs } := by
  have hlimit : hopLimit = hopLimit - 1 + 1 := rfl
  rw [route, hlimit, routeWithin_succ, hhop]
  rfl

/-- In an aligned router of a validated graph, the port of the name of a
mapping's output leads to one input, and an access through the mapping arrives
there and goes on to the input's owner. -/
theorem Aligned.arrives (h : g.Aligned r) (hvalid : g.validate = .ok ())
    {table : Router} (htable : (g.component r).table? = some table)
    {m : Mapping} (hm : m ∈ table.mappings) :
    ∃ input, (∃ name exit, table.outputName? m.port = some name
        ∧ g.findPort? r name = some exit ∧ g.follow exit = .ok input)
      ∧ ∀ addr, table.mappingAt? addr = some m → g.arrival r addr = .ok input
        ∧ g.hop r addr = .ok (g.hopOf r m addr, (g.port input).owner) := by
  obtain ⟨table', htable', hsound, hline⟩ := h.table
  obtain rfl := Option.some.inj (htable.symm.trans htable')
  -- the table gives the output a name, and the name has the exit as its port
  have hdeclared := hsound.declared m hm
  have hname : table.outputName? m.port = some table.outputs[m.port.index] :=
    List.getElem?_eq_getElem hdeclared
  obtain ⟨exit, hexit, hout⟩ := hline table htable m.port _ hname
  -- validation has followed that exit
  obtain ⟨next, hbeyond⟩ :=
    validate_eq_ok_iff.1 hvalid _ (component_mem_of_table? htable)
      table htable m hm
  obtain ⟨exit', input, hexit', hfollow, hnext, -⟩ :=
    beyond_eq_ok_iff.1 hbeyond
  obtain rfl := Option.some.inj (hexit.symm.trans hexit')
  refine ⟨input, ⟨_, exit, hname, hout.found, hfollow⟩,
    fun addr hat => ⟨?_, ?_⟩⟩
  · rw [arrival_of_mappingAt? htable hat hexit, hfollow]
  · exact hop_eq_ok_iff.2 ⟨table, m, htable, hat, hnext ▸ hbeyond, rfl⟩

end Graph

/-- A router is aligned as soon as it is added, whether or not there is the
component it was to be added under. -/
theorem Build.addRouter_aligned {parent id : ComponentId} {router : Router}
    {g g' : Graph} (hsound : router.Sound) (hbare : router.outputs = [])
    (hon : (addRouter parent router).on g = (.ok id, g')) : g'.Aligned id := by
  obtain ⟨added, g₁, hadd, hrest⟩ := on_bind_eq_ok_iff.1 hon
  obtain ⟨_, g₂, hinputs, hrest⟩ := on_bind_eq_ok_iff.1 hrest
  obtain ⟨rfl, rfl⟩ : id = added ∧ g' = g₂ := by simpa [eq_comm] using hrest
  have hkind : (g₁.component id).kind = .router router [] := by
    rw [on_addComponent] at hadd
    split at hadd
    · cases hadd
    · cases hadd
      rw [Graph.pushChild, Graph.component_modifyComponent]
      split <;> simp [Graph.component]
  have haligned : g₁.Aligned id := by
    constructor
    case trailing =>
      exact ⟨router, [], [], hkind, hsound.outputs_nodup, hbare, .nil⟩
    case inStep =>
      refine ⟨router, [], hkind, hsound, ?_⟩
      rw [hbare]
      rfl
  have hports : Build.Updates _ (fun _ => True) g₁ :=
    declareInputs_updates id router.inputs fun _ _ => trivial
  have hkeeps := hports.within fun _ _ _ _ hdoes => hdoes.keepsExits
  rw [hinputs] at hkeeps
  exact hkeeps.aligned haligned

end ChipFabric
