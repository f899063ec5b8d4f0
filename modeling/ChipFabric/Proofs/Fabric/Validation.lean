/-
What validation is worth. `validate` looks at every mapping of every router
once, without an address; routing looks at one mapping after another, as an
address leads it. The two agree exactly on the faults of the wiring.

# One way

In a validated graph a hop can only fail because no window of the router
holds the address, since all that is beyond a mapping was looked at. By
induction on the hops that are left, a route ends at a device, at such an
address, or where the hops run out (`Outcome`).

# The other way

If validation fails, it fails at some mapping, and the base of that mapping's
window is an address whose first hop is that mapping, because the windows of
a table that can be made are disjoint (`Sound.mappingAt?_base`).
-/
import ChipFabric.Proofs.Fabric.Hop
import ChipFabric.Proofs.Fabric.Session
import Mathlib.Control.Monad.Basic

namespace ChipFabric

namespace Graph

variable {g : Graph}

-- ======================================================== outcomes

/-- How the route of an address may end that has `budget` hops left: at a
device that answers, at a router where no window holds the address, or after
the last hop. No outcome is a fault of the wiring. -/
inductive Outcome (g : Graph) (issued budget : Nat) (r : ComponentId)
    (addr : Nat) : Except Fault Route → Prop
  | answered {route : Route} (hdevice : (g.component route.target).isTerminal)
      (hhops : route.hops.length ≤ budget) :
      Outcome g issued budget r addr (.ok route)
  | unmapped {hops : List Hop} {r' : ComponentId} {addr' : Nat}
      {table : Router} (hleads : g.Leads r addr hops r' addr')
      (hhops : hops.length < budget)
      (htable : (g.component r').table? = some table)
      (hout : ∀ m ∈ table.mappings, addr' ∉ m.window) :
      Outcome g issued budget r addr
        (.error (.unmappedAddress table.name addr'))
  | endless {hops : List Hop} {r' : ComponentId} {addr' : Nat}
      (hleads : g.Leads r addr hops r' addr') (hhops : hops.length = budget) :
      Outcome g issued budget r addr (.error (.routingLoop issued hopLimit))

theorem Outcome.hop {issued budget addr : Nat} {r next : ComponentId}
    {step : Hop} {onward : Except Fault Route}
    (hhop : g.hop r addr = .ok (step, next))
    (hnext : (g.component next).isRouter)
    (h : g.Outcome issued budget next step.addrOut onward) :
    g.Outcome issued (budget + 1) r addr
      (onward.map fun route => { route with hops := step :: route.hops }) := by
  cases h with
  | answered hdevice hhops => exact .answered hdevice (Nat.succ_le_succ hhops)
  | unmapped hleads hhops htable hout =>
    exact .unmapped (.hop hhop hnext hleads) (Nat.succ_lt_succ hhops)
      htable hout
  | endless hleads hhops =>
    exact .endless (.hop hhop hnext hleads) (congrArg (· + 1) hhops)

-- ====================================================== validation

/-- Validation passes exactly if there is something beyond every mapping. -/
theorem validate_eq_ok_iff :
    g.validate = .ok () ↔ ∀ component ∈ g.components, ∀ table,
      component.table? = some table →
      ∀ m ∈ table.mappings, ∃ next, g.beyond component m.port = .ok next := by
  have hcheck : ∀ (component : Component) (m : Mapping),
      (do let _ ← g.beyond component m.port : Except Fault Unit) = .ok ()
        ↔ ∃ next, g.beyond component m.port = .ok next := fun component m => by
    cases g.beyond component m.port <;> simp [pure, Except.pure]
  rw [validate, forM_eq_ok_iff]
  simp only [Array.mem_toList_iff]
  refine forall₂_congr fun component _ => ?_
  cases htable : component.table? with
  | none => simp [pure, Except.pure]
  | some table =>
    simp only [forM_eq_ok_iff, hcheck, Option.some.injEq, forall_eq']

/-- Validation fails with what is wrong beyond one of the mappings. -/
theorem exists_of_validate_eq_error {fault : Fault}
    (h : g.validate = .error fault) :
    ∃ component ∈ g.components, ∃ table, component.table? = some table ∧
      ∃ m ∈ table.mappings, g.beyond component m.port = .error fault := by
  obtain ⟨component, hmem, hfault⟩ := exists_of_forM_eq_error h
  cases htable : component.table? with
  | none => simp [htable, pure, Except.pure] at hfault
  | some table =>
    simp only [htable] at hfault
    obtain ⟨m, hm, hbeyond⟩ := exists_of_forM_eq_error hfault
    refine ⟨component, Array.mem_toList_iff.1 hmem, table, htable, m, hm, ?_⟩
    cases hnext : g.beyond component m.port with
    | ok next => simp [hnext, pure, Except.pure] at hbeyond
    | error other => simpa [hnext] using hbeyond

/-- What is beyond an output depends on the path and the kind of the router
only. -/
theorem beyond_congr {c c' : Component} (hpath : c.path = c'.path)
    (hkind : c.kind = c'.kind) (port : RouterPort) :
    g.beyond c port = g.beyond c' port := by
  have hexit : c.exit? port = c'.exit? port := by
    rw [Component.exit?, Component.exit?, hkind]
  rw [Graph.beyond, Graph.beyond, hexit, hpath]

theorem exists_component_eq {component : Component}
    (h : component ∈ g.components) : ∃ r, g.component r = component := by
  obtain ⟨i, hi, rfl⟩ := Array.mem_iff_getElem.1 h
  exact ⟨⟨i⟩, by simp [Graph.component, hi]⟩

theorem component_mem_of_table? {r : ComponentId} {table : Router}
    (h : (g.component r).table? = some table) :
    g.component r ∈ g.components := by
  obtain ⟨exits, hkind⟩ := Component.exists_kind_of_table? h
  have hlt := g.lt_of_kind_eq_router hkind
  simp [Graph.component, hlt]

theorem Reachable.sound (hg : g.Reachable) {r : ComponentId} {table : Router}
    (h : (g.component r).table? = some table) : table.Sound := by
  obtain ⟨exits, hkind⟩ := Component.exists_kind_of_table? h
  exact (hg.made hkind).sound

-- ========================================================= routing

/-- In a validated graph a hop fails only where no window holds the address,
and where it succeeds it comes to a router or to a device that answers. -/
theorem hop_of_validate (hvalid : g.validate = .ok ()) {r : ComponentId}
    {table : Router} (htable : (g.component r).table? = some table)
    (addr : Nat) :
    (table.mappingAt? addr = none
      ∧ g.hop r addr = .error (.unmappedAddress table.name addr)) ∨
      ∃ step next, g.hop r addr = .ok (step, next)
        ∧ ((g.component next).isRouter ∨ (g.component next).isTerminal) := by
  have hhop := hop_eq htable addr
  cases hat : table.mappingAt? addr with
  | none => exact .inl ⟨rfl, by rw [hhop, hat]⟩
  | some m =>
    obtain ⟨next, hnext⟩ :=
      validate_eq_ok_iff.1 hvalid _ (component_mem_of_table? htable) table
      htable m (Router.mem_of_mappingAt? hat).1
    simp only [hat, hnext, map_ok] at hhop
    obtain ⟨-, -, -, -, -, hgoes⟩ := beyond_eq_ok_iff.1 hnext
    exact .inr ⟨_, next, hhop, hgoes⟩

/-- In a validated graph routing ends in one of the outcomes. -/
theorem routeWithin_of_validate (hg : g.Reachable)
    (hvalid : g.validate = .ok ()) (issued budget : Nat) {r : ComponentId}
    (hr : (g.component r).isRouter) (addr : Nat) :
    g.Outcome issued budget r addr (g.routeWithin issued budget r addr) := by
  induction budget generalizing r addr with
  | zero => exact .endless (.here r addr) rfl
  | succ budget ih =>
    obtain ⟨table, htable⟩ := Option.isSome_iff_exists.1 hr
    rw [routeWithin_succ]
    obtain ⟨hnone, hhop⟩ | ⟨step, next, hhop, hnext⟩ :=
      hop_of_validate hvalid htable addr
    · rw [hhop]
      exact .unmapped (.here r addr) (Nat.succ_pos _) htable
        ((hg.sound htable).mappingAt?_eq_none_iff.1 hnone)
    · simp only [hhop]
      by_cases hrouter : (g.component next).isRouter
      · rw [if_pos hrouter]
        exact (ih hrouter step.addrOut).hop hhop hrouter
      · rw [if_neg hrouter]
        exact .answered (hnext.resolve_left hrouter)
          (Nat.succ_le_succ (Nat.zero_le _))

/-- What is wrong beyond a mapping is what the base of its window is routed
to. -/
theorem route_base_of_beyond_eq_error (hg : g.Reachable) {r : ComponentId}
    {table : Router} (htable : (g.component r).table? = some table)
    {m : Mapping} (hm : m ∈ table.mappings) {fault : Fault}
    (hbeyond : g.beyond (g.component r) m.port = .error fault) :
    g.route r m.window.base = .error fault := by
  have hhop := hop_eq htable m.window.base
  simp only [(hg.sound htable).mappingAt?_base hm, hbeyond, map_error] at hhop
  rw [route, hopLimit, routeWithin_succ, hhop]

end Graph

-- ====================================================== statements

/-- Validation is sound and complete for routing: in a reachable graph that
passes, every address that enters a router is answered, or unmapped at some
router on its way, or still on its way after the last hop; and the fault of
one that fails is what some address is routed to. -/
theorem validate_sound_and_complete {g : Graph} (hg : g.Reachable) :
    (g.validate = .ok () → ∀ r, (g.component r).isRouter → ∀ addr,
      g.Outcome addr hopLimit r addr (g.route r addr))
    ∧ ∀ fault, g.validate = .error fault →
      ∃ r addr, (g.component r).isRouter ∧ addr ≤ maxWord
        ∧ g.route r addr = .error fault := by
  constructor
  · intro hvalid r hr addr
    exact Graph.routeWithin_of_validate hg hvalid addr hopLimit hr addr
  · intro fault hfault
    obtain ⟨component, hmem, table, htable, m, hm, hbeyond⟩ :=
      Graph.exists_of_validate_eq_error hfault
    obtain ⟨r, rfl⟩ := Graph.exists_component_eq hmem
    have hbase : m.window.base ≤ maxWord :=
      Nat.le_trans (Nat.le_add_right _ _) m.window.fits
    have hrouter : (g.component r).isRouter := by
      rw [Component.isRouter, htable]; rfl
    exact ⟨r, m.window.base, hrouter, hbase,
      Graph.route_base_of_beyond_eq_error hg htable hm hbeyond⟩

/-- A router with a window on an output that leads nowhere. -/
def danglingSession : Session :=
  (((Session.new "top").after (.addRouter Graph.root (.new "r" 8))).after
    (.addRouterOutput ⟨1⟩ "out")).after
    (.addMapping ⟨1⟩ ⟨⟨0x2000, 0x200, by decide, by decide⟩, ⟨0⟩, true, {}⟩)

/-- The same with a memory behind the output. -/
def servedSession : Session :=
  (danglingSession.after
    (.addTerminal Graph.root "mem" (.memory 0x200 false))).after
    (.bindPorts ⟨1⟩ ⟨2⟩)

/-- The one fails validation and a route with the same fault, the other
passes. -/
theorem danglingSession_fails_servedSession_passes :
    (danglingSession.graph.validate = .error (.unboundPort "top/r" "out") ∧
      ∃ r addr, (danglingSession.graph.component r).isRouter ∧ addr ≤ maxWord
        ∧ danglingSession.graph.route r addr = .error
          (.unboundPort "top/r" "out"))
    ∧ servedSession.graph.validate = .ok () ∧ ∀ addr,
      servedSession.graph.Outcome addr hopLimit ⟨1⟩ addr
        (servedSession.graph.route ⟨1⟩ addr) := by
  have hrun : (Session.new "top").Run danglingSession :=
    .step _ (.step _ (.step _ .none ⟨show 0 < _ by decide, .new "r" 8⟩)
      (show 1 < _ by decide +kernel)) (show 1 < _ by decide +kernel)
  have hserved : (Session.new "top").Run servedSession :=
    .step _ (.step _ hrun (show 0 < _ by decide +kernel))
      ⟨show 1 < _ by decide +kernel, show 2 < _ by decide +kernel⟩
  have hfails : danglingSession.graph.validate = .error
      (.unboundPort "top/r" "out") := by
    decide +kernel
  have hpasses : servedSession.graph.validate = .ok () := by decide +kernel
  exact ⟨⟨hfails,
    (validate_sound_and_complete ⟨_, ⟨"top", hrun⟩, rfl⟩).2 _ hfails⟩, hpasses,
    (validate_sound_and_complete ⟨_, ⟨"top", hserved⟩, rfl⟩).1 hpasses ⟨1⟩
    (by decide +kernel)⟩

end ChipFabric
