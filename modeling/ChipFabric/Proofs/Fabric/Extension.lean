/-
Routes that stand while a graph is extended. An operation that is no binding
may add components, ports, outputs and windows, and with a window one
binding; but that starts at a port the operation added itself. So no port that
was there leads further than before, and this is all that a route could lose:
its windows stay the ones that hold its addresses, since tables stay sound;
its exits stay where they are; and a search for inputs that found one finds
the same one, although it may go deeper now that there are more ports.

`Graph.Extends` is growth with that one fact more, and the lemmas follow a
route from the search of a port's inputs up to its hops.
-/
import ChipFabric.Proofs.Fabric.Outside
import ChipFabric.Proofs.Fabric.Reaches
import ChipFabric.Proofs.Fabric.Validation

namespace ChipFabric

-- ========================================================= extension

namespace Graph

variable {g g' g'' : Graph}

/-- The second graph holds all that the first one does, and the ports of the
first one are bound to nothing else. -/
structure Extends (g g' : Graph) : Prop where
  grows : g.Grows g'
  targets_eq : ∀ id : PortId, id.index < g.ports.size →
    g'.targets id = g.targets id

theorem Extends.refl (g : Graph) : g.Extends g := ⟨.refl g, fun _ _ => rfl⟩

theorem Extends.trans (h : g.Extends g') (h' : g'.Extends g'') :
    g.Extends g'' where
  grows := h.grows.trans h'.grows
  targets_eq id hid := by
    obtain ⟨hlt, -⟩ := h.grows.port_eq id hid
    exact (h'.targets_eq id hlt).trans (h.targets_eq id hid)

theorem GrowsUnbound.extends (h : g.GrowsUnbound g') : g.Extends g' where
  grows := h.grows
  targets_eq id _ := by rw [targets, targets, h.bindings_eq]

/-- A binding from another port is nothing to a port. -/
theorem targets_pushBinding_of_ne {source id : PortId} (hne : source ≠ id)
    (target : PortId) :
    (g.pushBinding source target).targets id = g.targets id := by
  show ((g.bindings.push ⟨source, target⟩).toList.filter _).map _ = _
  rw [Array.toList_push, List.filter_append, List.filter_singleton]
  simp [targets, hne]

end Graph

/-- The operation makes a binding and does nothing else. -/
def Operation.IsBinding : Operation → Prop
  | @Operation.bind _ _ _ _ _ _ _ => True
  | .bindPorts _ _ => True
  | .bindByName _ _ _ _ => True
  | _ => False

/-- An operation that is no binding leaves every port that was there leading
where it led, whatever it is given and whether it succeeds or fails. -/
theorem Operation.edit_extends {op : Operation}
    (hop : ¬ op.IsBinding) (g : Graph) : g.Extends (op.edit.on g).2 := by
  obtain hunbound | ⟨g', b, hunbound, hbinds, hon⟩ := op.outcome g
  · exact hunbound.extends
  · rw [hon]
    refine ⟨hunbound.grows.trans (g'.grows_pushBinding _ _), fun id hid => ?_⟩
    cases hbinds with
    | window hnew _ =>
      rw [Graph.targets_pushBinding_of_ne, hunbound.extends.targets_eq id hid]
      rintro rfl
      exact absurd hid (Nat.not_lt.2 hnew)
    | handles source target => exact absurd trivial hop
    | ports _ => exact absurd trivial hop
    | names _ _ _ => exact absurd trivial hop

namespace Graph

variable {g g' : Graph}

-- ============================================================== ends

/-- What leads to a port, and that port, are there. -/
theorem Closed.lt_of_reaches (h : g.Closed) {source target : PortId}
    (hreaches : g.Reaches source target) :
    source.index < g.ports.size ∧ target.index < g.ports.size := by
  induction hreaches with
  | direct htarget _ => exact h.ends _ (mem_targets_iff.1 htarget)
  | onward hmiddle _ _ ih =>
    exact ⟨(h.ends _ (mem_targets_iff.1 hmiddle)).1, ih.2⟩

theorem reaches_of_follow {source target : PortId}
    (h : g.follow source = .ok target) : g.Reaches source target :=
  (mem_reachableInputs_iff (follow_eq_ok_iff.1 h)).1
    (List.mem_singleton_self _)

/-- What is beyond an output is there. -/
theorem Closed.lt_of_beyond (h : g.Closed) {router : Component}
    {port : RouterPort} {next : ComponentId}
    (hbeyond : g.beyond router port = .ok next) :
    next.index < g.components.size := by
  obtain ⟨exit, input, -, hfollow, rfl, -⟩ := beyond_eq_ok_iff.1 hbeyond
  exact h.owner input (h.lt_of_reaches (reaches_of_follow hfollow)).2

-- ============================================================ search

/-- The search from a port that was there comes to the same at every depth. -/
theorem Extends.inputsWithin_eq (h : g.Extends g') (hclosed : g.Closed)
    (depth : Nat) {source : PortId} (hsource : source.index < g.ports.size) :
    g'.inputsWithin depth source = g.inputsWithin depth source := by
  induction depth generalizing source with
  | zero => rfl
  | succ depth ih =>
    have htarget : ∀ target ∈ g.targets source, target.index < g.ports.size :=
      fun target hmem => (hclosed.ends _ (mem_targets_iff.1 hmem)).2
    have hforward : ∀ target ∈ g.targets source, g'.isForward target =
        g.isForward target := by
      intro target hmem
      rw [isForward, isForward,
        (h.grows.port_eq target (htarget target hmem)).2]
    have hdirect : (g.targets source).filter
        (fun target => !g'.isForward target) = (g.targets source).filter
        fun target => !g.isForward target :=
      List.filter_congr fun target hmem => by rw [hforward target hmem]
    have honward : (g.targets source).filter g'.isForward =
        (g.targets source).filter g.isForward :=
      List.filter_congr hforward
    have hfurther : ∀ target ∈ ((g.targets source).filter g.isForward).reverse,
        g'.inputsWithin depth target = g.inputsWithin depth target := by
      intro target hmem
      exact ih
        (htarget target (List.mem_of_mem_filter (List.mem_reverse.1 hmem)))
    refine Option.ext fun found => ?_
    rw [inputsWithin_succ_eq_some_iff, inputsWithin_succ_eq_some_iff,
      h.targets_eq source hsource, hdirect, honward,
      List.map_congr_left hfurther]

/-- There may be more ports now, and so more depth, which changes nothing in
what was found. -/
theorem Extends.follow (h : g.Extends g') (hclosed : g.Closed)
    {source target : PortId} (hfollow : g.follow source = .ok target) :
    g'.follow source = .ok target := by
  obtain ⟨hsource, -⟩ := hclosed.lt_of_reaches (reaches_of_follow hfollow)
  rw [follow_eq_ok_iff, reachableInputs_eq_ok_iff] at hfollow ⊢
  rw [← h.inputsWithin_eq hclosed _ hsource] at hfollow
  exact inputsWithin_mono hfollow (Nat.succ_le_succ h.grows.ports_size_le)

-- ============================================================= hops

/-- A component that was there routes if it did. -/
theorem Grows.isRouter_eq (h : g.Grows g') {id : ComponentId}
    (hid : id.index < g.components.size) :
    (g'.component id).isRouter = (g.component id).isRouter := by
  have hgrows := h.kind_grows id hid
  unfold Component.isRouter Component.table?
  generalize (g.component id).kind = kind at hgrows
  generalize (g'.component id).kind = kind' at hgrows
  cases hgrows <;> rfl

/-- A component that was there answers if it did. -/
theorem Grows.isTerminal_eq (h : g.Grows g') {id : ComponentId}
    (hid : id.index < g.components.size) :
    (g'.component id).isTerminal = (g.component id).isTerminal := by
  have hgrows := h.kind_grows id hid
  unfold Component.isTerminal Component.device?
  generalize (g.component id).kind = kind at hgrows
  generalize (g'.component id).kind = kind' at hgrows
  cases hgrows <;> rfl

/-- What was beyond an output still is. -/
theorem Extends.beyond (h : g.Extends g') (hclosed : g.Closed)
    {r next : ComponentId} {port : RouterPort}
    (hbeyond : g.beyond (g.component r) port = .ok next) :
    g'.beyond (g'.component r) port = .ok next := by
  have hnext := hclosed.lt_of_beyond hbeyond
  rw [beyond_eq_ok_iff] at hbeyond ⊢
  obtain ⟨exit, input, hexit, hfollow, howner, hgoes⟩ := hbeyond
  obtain ⟨-, hinput⟩ := hclosed.lt_of_reaches (reaches_of_follow hfollow)
  refine ⟨exit, input, h.grows.exit? hexit, h.follow hclosed hfollow, ?_, ?_⟩
  · rw [(h.grows.port_eq input hinput).2, howner]
  · rw [h.grows.isRouter_eq hnext, h.grows.isTerminal_eq hnext]
    exact hgoes

/-- An address that a window held is held by that window still. -/
theorem Grows.mappingAt? (h : g.Grows g') {r : ComponentId} {table : Router}
    {addr : Nat} {m : Mapping} (htable : (g.component r).table? = some table)
    (hsound : table.Sound) (hat : table.mappingAt? addr = some m) :
    ∃ table', (g'.component r).table? = some table'
      ∧ table'.mappingAt? addr = some m := by
  obtain ⟨exits, hkind⟩ := Component.exists_kind_of_table? htable
  obtain ⟨table', exits', hkind', hmappings, -, -, hsound'⟩ :=
    h.kind_router hkind
  obtain ⟨hmem, haddr⟩ := hsound.mappingAt?_eq_some_iff.1 hat
  refine ⟨table', Component.table?_of_kind hkind', ?_⟩
  exact (hsound' hsound).mappingAt?_eq_some_iff.2 ⟨hmappings hmem, haddr⟩

/-- A hop that was taken is taken again, and says the same. -/
theorem Extends.hop (h : g.Extends g') (hg : g.Reachable)
    {r next : ComponentId} {addr : Nat} {step : Hop}
    (hhop : g.hop r addr = .ok (step, next)) :
    g'.hop r addr = .ok (step, next) := by
  obtain ⟨table, m, htable, hat, hbeyond, rfl⟩ := hop_eq_ok_iff.1 hhop
  obtain ⟨table', htable', hat'⟩ :=
    h.grows.mappingAt? htable (hg.sound htable) hat
  obtain ⟨exits, hkind⟩ := Component.exists_kind_of_table? htable
  refine hop_eq_ok_iff.2 ⟨table', m, htable', hat',
    h.beyond hg.closed hbeyond, ?_⟩
  rw [hopOf, hopOf, h.grows.path_eq r (g.lt_of_kind_eq_router hkind)]

-- ============================================================ routes

/-- A route with any number of hops left is found again. The induction is on
the hops: what a hop leads to routes or answers as it did. -/
theorem Extends.routeWithin (h : g.Extends g') (hg : g.Reachable)
    {issued hops : Nat} {r : ComponentId} {addr : Nat} {route : Route}
    (hroute : g.routeWithin issued hops r addr = .ok route) :
    g'.routeWithin issued hops r addr = .ok route := by
  induction hops generalizing r addr route with
  | zero => cases hroute
  | succ hops ih =>
    rw [routeWithin_succ] at hroute ⊢
    cases hhop : g.hop r addr with
    | error fault => simp [hhop] at hroute
    | ok taken =>
      obtain ⟨step, next⟩ := taken
      obtain ⟨_, _, -, -, hbeyond, -⟩ := hop_eq_ok_iff.1 hhop
      have hnext := hg.closed.lt_of_beyond hbeyond
      simp only [hhop] at hroute
      simp only [h.hop hg hhop, h.grows.isRouter_eq hnext,
        h.grows.path_eq next hnext]
      by_cases hrouter : (g.component next).isRouter
      · rw [if_pos hrouter] at hroute ⊢
        cases honward : g.routeWithin issued hops next step.addrOut with
        | error fault => simp [honward] at hroute
        | ok onward =>
          rw [ih honward]
          rwa [honward] at hroute
      · rwa [if_neg hrouter] at hroute ⊢

end Graph

-- ======================================================== statements

/-- In a reachable graph, an address that is routed stays routed, by the same
hops to the same device, through every operation that is no binding, whatever
it is given and whether it succeeds or fails. -/
theorem route_stands {g : Graph} (hg : g.Reachable) {op : Operation}
    (hop : ¬ op.IsBinding) {r : ComponentId} {addr : Nat} {route : Route}
    (h : g.route r addr = .ok route) :
    (op.edit.on g).2.route r addr = .ok route :=
  (op.edit_extends hop g).routeWithin hg h

/-- A router with a window to a memory that stands behind a forward port. -/
def relaySession : Session :=
  (((((((Session.new "top").after (.addRouter Graph.root (.new "r" 8))).after
    (.addTerminal Graph.root "mem" (.memory 0x800 false))).after
    (.declarePort Graph.root "door" .forward Signal.io.signature)).after
    (.addRouterOutput ⟨1⟩ "out")).after
    (.addMapping ⟨1⟩ ⟨⟨0x4000, 0x400, by decide, by decide⟩, ⟨0⟩, true,
      {}⟩)).after
    (.bindPorts ⟨3⟩ ⟨2⟩)).after
    (.bindPorts ⟨2⟩ ⟨1⟩)

/-- A second window, to the memory itself. -/
def secondWindow : Operation :=
  .mapWindow ⟨1⟩ "near" (⟨⟨1⟩⟩ : InputPort .io)
    ⟨0x4400, 0x400, by decide, by decide⟩ true {}

/-- The second window is added, and the first one leads where it led. -/
theorem relaySession_route_stands :
    ∃ route, relaySession.graph.Reachable ∧ ¬ secondWindow.IsBinding
      ∧ (secondWindow.edit.on relaySession.graph).1.isOk
      ∧ relaySession.graph.route ⟨1⟩ 0x4010 = .ok route
      ∧ (secondWindow.edit.on relaySession.graph).2.route ⟨1⟩
        0x4010 = .ok route
      ∧ route.targetPath = "top/mem" ∧ route.localAddr = 0x10 := by
  have hrun : (Session.new "top").Run relaySession :=
    .step _ (.step _ (.step _ (.step _ (.step _ (.step _ (.step _ .none
      ⟨show 0 < _ by decide, .new "r" 8⟩)
      (show 0 < _ by decide +kernel)) (show 0 < _ by decide +kernel))
      (show 1 < _ by decide +kernel)) (show 1 < _ by decide +kernel))
      ⟨show 3 < _ by decide +kernel, show 2 < _ by decide +kernel⟩)
      ⟨show 2 < _ by decide +kernel, show 1 < _ by decide +kernel⟩
  have hreach : relaySession.graph.Reachable := ⟨_, ⟨"top", hrun⟩, rfl⟩
  have hroute : relaySession.graph.route ⟨1⟩ 0x4010 = .ok {
      target := ⟨2⟩
      targetPath := "top/mem"
      localAddr := 0x10
      hops :=
        [⟨"top/r", ⟨⟨0x4000, 0x400, by decide, by decide⟩, ⟨0⟩, true, {}⟩,
          0x4010, 0x10⟩]
      attrs := {} } := by decide +kernel
  have hop : ¬ secondWindow.IsBinding := id
  exact ⟨_, hreach, hop, by decide +kernel, hroute,
    route_stands hreach hop hroute, rfl, rfl⟩

namespace Session

/-- A row of operations of which none is a binding. -/
inductive Extension (s : Session) : Session → Prop
  | none : Extension s s
  | step {t : Session} (op : Operation) (h : Extension s t)
      (hop : ¬ op.IsBinding) : Extension s (t.after op)

variable {s t : Session}

theorem Extension.extends (h : s.Extension t) : s.graph.Extends t.graph := by
  induction h with
  | none => exact .refl _
  | step op _ hop ih =>
    rw [graph_after]
    exact ih.trans (op.edit_extends hop _)

/-- Nor does a row of them change a route that was there at its start. -/
theorem Extension.route (h : s.Extension t) (hs : s.graph.Reachable)
    {r : ComponentId} {addr : Nat} {route : Route}
    (hroute : s.graph.route r addr = .ok route) :
    t.graph.route r addr = .ok route :=
  h.extends.routeWithin hs hroute

end Session

end ChipFabric
