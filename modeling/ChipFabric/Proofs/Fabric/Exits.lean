/-
Router outputs and their exits. A router numbers its outputs in the order
they were declared, and the graph keeps for each router a list of the ports
where accesses leave; an access that the table sends to output `i` leaves
by the `i`-th of them. Nothing makes the two lists the same length: a router
that is added with outputs brings them along without exits, and the outputs
declared through the graph later get exits from the start of the list on.

# The statement

`exits_line_up_iff`: every router of a reachable graph was added at one
point, and its outputs and exits line up if and only if it had no outputs
then. `presetSession` is the smallest graph where they do not: an access to the
output `a` leaves by the port `b`.

# The invariant

`Trailing g r early`: the outputs of `r` are `early`, the ones it was added
with, and after them one for each exit, which is the port of that name. Both
lists only ever grow at the end, and together.
-/
import ChipFabric.Fabric.Route
import ChipFabric.Proofs.Fabric.Session
import Mathlib.Data.List.Forall2

namespace ChipFabric

-- ========================================================== alignment

namespace Graph

/-- The port is the output of that name on the router, which carries reads
and writes, and it is the one found under that name. -/
structure IsOutput (g : Graph) (r : ComponentId) (name : String)
    (exit : PortId) : Prop where
  exists_port : exit.index < g.ports.size
  port_eq : g.port exit = ⟨r, name, .output, Signal.io.signature⟩
  found : g.findPort? r name = some exit

/-- Every output of the router's table has an exit, and that is its port. -/
def ExitsLineUp (g : Graph) (r : ComponentId) : Prop :=
  ∀ table, (g.component r).table? = some table → ∀ port name,
    table.outputName? port = some name →
    ∃ exit, (g.component r).exit? port = some exit ∧ g.IsOutput r name exit

/-- The outputs of the router are `early` and then one for each exit. -/
def Trailing (g : Graph) (r : ComponentId) (early : List String) : Prop :=
  ∃ table exits late, (g.component r).kind = .router table exits
    ∧ table.outputs.Nodup
    ∧ table.outputs = early ++ late ∧ List.Forall₂ (g.IsOutput r) late exits

variable {admits : Router → Prop} {g g' : Graph} {r : ComponentId}

theorem IsOutput.change {name : String} {exit : PortId}
    (h : g.IsOutput r name exit) (hchange : g.Change admits g') :
    g'.IsOutput r name exit := by
  obtain ⟨hlt, heq⟩ := hchange.port_eq h.exists_port
  refine ⟨hlt, heq.trans h.port_eq, ?_⟩
  cases hchange with
  | child _ _ _ => exact h.found
  | port _ _ => rw [g.findPort?_pushPort, h.found, Option.some_or]
  | input _ _ => exact h.found
  | output _ _ _ =>
    show ((g.setTable _ _).pushPort _).findPort? r name = some exit
    rw [findPort?_pushPort, findPort?_setTable, h.found, Option.some_or]
  | mapping _ _ => exact h.found
  | binding _ _ _ _ => exact h.found

theorem Trailing.change {early : List String} (h : g.Trailing r early)
    (hchange : g.Change admits g') : g'.Trailing r early := by
  obtain ⟨table, exits, late, hkind, hnodup, houtputs, hexits⟩ := h
  have hexits' : List.Forall₂ (g'.IsOutput r) late exits :=
    hexits.imp fun _ _ h => h.change hchange
  have hstep := hchange.kindStep (g.lt_of_kind_eq_router hkind)
  rw [hkind] at hstep
  cases hkind' : (g'.component r).kind with
  | group => rw [hkind'] at hstep; cases hstep
  | device device => rw [hkind'] at hstep; cases hstep
  | router table' exits'' =>
    rw [hkind'] at hstep
    cases hstep with
    | same => exact ⟨table, exits, late, hkind', hnodup, houtputs, hexits'⟩
    | input name =>
      exact ⟨_, exits, late,
        hkind', by simpa using hnodup, by simpa using houtputs, hexits'⟩
    | mapping hadd =>
      obtain ⟨-, -, rfl⟩ := Router.addMapping_eq_ok_iff.1 hadd
      exact ⟨_, exits, late, hkind', hnodup, houtputs, hexits'⟩
    | @output _ _ _ name port hout hfree hports =>
      obtain ⟨hname, -, rfl⟩ := Router.declareOutput_eq_ok_iff.1 hout
      have hnodup' := List.Nodup.concat hname hnodup
      rw [List.concat_eq_append] at hnodup'
      refine ⟨_, _, late ++ [name], hkind', hnodup', ?_, ?_⟩
      · rw [← List.append_assoc, ← houtputs]
      · -- the new exit is the one port that came with the output
        refine List.rel_append hexits' (.cons ⟨?_, ?_, ?_⟩ .nil)
        · simp [hports]
        · simp [Graph.port, hports]
        · have hfound :=
            g.findPort?_pushPort r name ⟨r, name, .output, Signal.io.signature⟩
          rw [hfree, Option.none_or, if_pos ⟨rfl, rfl⟩] at hfound
          rw [← hfound, findPort?, findPort?, hports, ports_pushPort]

theorem Trailing.changes {early : List String} (h : g.Trailing r early)
    (hchanges : g.Changes admits g') : g'.Trailing r early := by
  induction hchanges with
  | refl => exact h
  | tail _ hchange ih => exact ih.change hchange

/-- Outputs and exits line up exactly if the router brought no outputs
along. -/
theorem Trailing.exitsLineUp_iff {early : List String}
    (h : g.Trailing r early) : g.ExitsLineUp r ↔ early = [] := by
  obtain ⟨table, exits, late, hkind, hnodup, houtputs, hexits⟩ := h
  have htable : (g.component r).table? = some table := by
    rw [Component.table?, hkind]
  have hexit : ∀ port, (g.component r).exit? port = exits[port.index]? :=
    fun port => by
    rw [Component.exit?, hkind]
  constructor
  · intro hline
    by_contra hne
    obtain ⟨name, rest, rfl⟩ := List.exists_cons_of_ne_nil hne
    have hname : table.outputName? ⟨0⟩ = some name := by
      simp [Router.outputName?, houtputs]
    obtain ⟨exit, hat, hout⟩ := hline table htable ⟨0⟩ name hname
    -- the first exit is the port of a late output, so the early one is late
    -- too
    rw [hexit] at hat
    cases hexits with
    | nil => cases hat
    | @cons other _ later _ hother _ =>
      obtain rfl := Option.some.inj hat
      have hsame : name = other :=
        congrArg Port.name (hout.port_eq.symm.trans hother.port_eq)
      rw [houtputs, hsame] at hnodup
      simp at hnodup
  · rintro rfl table' htable' port name hname
    obtain rfl := Option.some.inj (htable.symm.trans htable')
    rw [Router.outputName?, houtputs, List.nil_append] at hname
    obtain ⟨hlt, rfl⟩ := List.getElem?_eq_some_iff.1 hname
    have hlt' : port.index < exits.length := hexits.length_eq ▸ hlt
    refine ⟨exits[port.index], ?_, hexits.get hlt hlt'⟩
    rw [hexit, List.getElem?_eq_getElem hlt']

/-- Where outputs and exits line up, an access that the table resolves leaves
by the port of the output's name. -/
theorem ExitsLineUp.exit_eq_findPort? (h : g.ExitsLineUp r) {table : Router}
    (hmade : table.Made) (htable : (g.component r).table? = some table)
    {addr : Nat} {m : Mapping} (hm : table.mappingAt? addr = some m) :
    ∃ name, table.outputName? m.port = some name
      ∧ (g.component r).exit? m.port = g.findPort? r name := by
  have hlt := hmade.sound.declared m (Router.mem_of_mappingAt? hm).1
  obtain ⟨exit, hat, hout⟩ :=
    h table htable m.port _ (List.getElem?_eq_getElem hlt)
  exact ⟨_, List.getElem?_eq_getElem hlt, hat.trans hout.found.symm⟩

end Graph

-- ======================================================== provenance

/-- On the way to the session, the component was added as that router. -/
def Session.Added (t : Session) (r : ComponentId) (made : Router) : Prop :=
  ∃ (s : Session) (parent : ComponentId), s.Reachable
    ∧ s.Allows (.addRouter parent made)
    ∧ ((Build.addRouter parent made).on s.graph).1 = .ok r
    ∧ (s.after (.addRouter parent made)).Run t

namespace Session

variable {s t : Session}

theorem graph_after_addRouter (parent : ComponentId) (made : Router) :
    (s.after (.addRouter parent made)).graph =
      ((Build.addRouter parent made).on s.graph).2 := by
  rw [after, Operation.edit, Edit.on_bind]
  rcases (Build.addRouter parent made).on s.graph with ⟨_ | id, g'⟩ <;> rfl

/-- A router starts with the table it was added with, and no exits. -/
theorem kind_after_addRouter {parent r : ComponentId} {made : Router}
    (hs : s.Reachable) (hallows : s.Allows (.addRouter parent made))
    (hok : ((Build.addRouter parent made).on s.graph).1 = .ok r) :
    ((s.after (.addRouter parent made)).graph.component r).kind =
      .router made [] := by
  rw [graph_after_addRouter]
  rw [Build.on_addRouter hs.graph.closed hallows.2.sound.inputs_nodup] at hok ⊢
  split at hok
  · cases hok
  · rename_i hlook
    obtain rfl := Except.ok.inj hok
    rw [if_neg hlook, Build.kind_withInputs,
      Graph.component_pushChild_size _ hallows.1]

/-- The router that an operation adds is the one the operation names. -/
theorem addRouter_of_fresh {op : Operation} (hs : s.Reachable)
    (hallows : s.Allows op) {r : ComponentId} {table : Router}
    {exits : List PortId} (hfresh : s.graph.components.size ≤ r.index)
    (hkind : ((s.after op).graph.component r).kind = .router table exits) :
    ∃ parent made, op = .addRouter parent made
      ∧ ((Build.addRouter parent made).on s.graph).1 = .ok r := by
  obtain ⟨-, htrue⟩ := hs.changes
  have hadmits : s.graph.components.size ≤ r.index →
      ∃ made, op.admits made := by
    refine (after_changes htrue hallows).1.router_induction
      (motive := fun _ r _ _ => s.graph.components.size ≤ r.index →
        ∃ made, op.admits made)
      (fun _ _ _ table _ _ htable _ _ => ⟨table, htable⟩)
      (fun _ _ _ _ _ _ _ _ _ _ h _ => h) ?_ hkind
    intro r table exits hkind hle
    have := s.graph.lt_of_kind_eq_router hkind
    omega
  obtain ⟨made, hmade⟩ := hadmits hfresh
  cases op with
  | addRouter parent router =>
    refine ⟨parent, router, rfl, ?_⟩
    have hlt := Graph.lt_of_kind_eq_router _ hkind
    rw [graph_after_addRouter] at hlt
    rw [Build.on_addRouter hs.graph.closed hallows.2.sound.inputs_nodup]
      at hlt ⊢
    split
    · rename_i hlook
      rw [if_pos hlook] at hlt
      exact absurd hlt (Nat.not_lt.2 hfresh)
    · rename_i hlook
      rw [if_neg hlook, Build.size_withInputs, Graph.size_pushChild] at hlt
      exact congrArg Except.ok
        (ComponentId.ext (Nat.le_antisymm hfresh (Nat.le_of_lt_succ hlt)))
  | _ => exact hmade.elim

/-- Every router was added at some point, as some router. -/
theorem Reachable.added (h : t.Reachable) {r : ComponentId} {table : Router}
    {exits : List PortId}
    (hkind : (t.graph.component r).kind = .router table exits) :
    ∃ made, t.Added r made := by
  obtain ⟨root, hrun⟩ := h
  induction hrun generalizing table exits with
  | none => exact absurd hkind (Graph.kind_new_ne_router root r table exits)
  | @step t op hrun hallows ih =>
    have ht : t.Reachable := ⟨root, hrun⟩
    by_cases hold : r.index < t.graph.components.size
    · -- it was a router before the operation
      obtain ⟨made, s, parent, hs, hadd, hok, hrest⟩ :
          ∃ made, t.Added r made := by
        obtain ⟨-, htrue⟩ := ht.changes
        obtain ⟨table', exits', hkind'⟩ :=
          (after_changes htrue hallows).1.kind_router_of_lt hold hkind
        exact ih hkind'
      exact ⟨made, s, parent, hs, hadd, hok, .step op hrest hallows⟩
    · obtain ⟨parent, made, rfl, hok⟩ :=
        addRouter_of_fresh ht hallows (Nat.le_of_not_lt hold) hkind
      exact ⟨made, t, parent, ht, hallows, hok, .none⟩

/-- After it was added, the outputs of a router trail those it was added
with. -/
theorem Added.trailing {r : ComponentId} {made : Router} (h : t.Added r made) :
    t.graph.Trailing r made.outputs := by
  obtain ⟨s, parent, hs, hallows, hok, hrun⟩ := h
  have hstart : (s.after (.addRouter parent made)).graph.Trailing r
      made.outputs :=
    ⟨made, [], [], kind_after_addRouter hs hallows hok,
      hallows.2.sound.outputs_nodup, by simp, .nil⟩
  obtain ⟨-, htrue⟩ := hs.changes
  exact hstart.changes (hrun.changes (after_changes htrue hallows).2).1

end Session

-- ======================================================== statements

/-- Every router of a reachable graph was added as some router, and its
outputs and exits line up if and only if that router had no outputs; then
every access that its table resolves leaves by the port of the output's
name. -/
theorem exits_line_up_iff {t : Session} (ht : t.Reachable) {r : ComponentId}
    (hr : (t.graph.component r).isRouter) :
    (∃ made, t.Added r made) ∧ ∀ made, t.Added r made →
      (t.graph.ExitsLineUp r ↔ made.outputs = [])
      ∧ (made.outputs = [] → ∀ table,
        (t.graph.component r).table? = some table →
          ∀ addr m, table.mappingAt? addr = some m → ∃ name,
            table.outputName? m.port = some name
            ∧ (t.graph.component r).exit? m.port =
              t.graph.findPort? r name) := by
  obtain ⟨table, exits, hkind⟩ := Component.exists_kind_of_isRouter hr
  refine ⟨ht.added hkind, fun made hadded => ?_⟩
  have hiff := hadded.trailing.exitsLineUp_iff
  refine ⟨hiff, fun hbare table' htable addr m hm => ?_⟩
  rw [Component.table?, hkind] at htable
  obtain rfl := Option.some.inj htable
  have htable : (t.graph.component r).table? = some table := by
    rw [Component.table?, hkind]
  exact (hiff.2 hbare).exit_eq_findPort? (ht.graph.made hkind) htable hm

def presetMapping : Mapping :=
  { window := ⟨0x1000, 0x100, by decide, by decide⟩
    port := ⟨0⟩
    rebase := true
    attrs := {} }

/-- A router that is given an output `b` and a window on it after it was
added without any. -/
def bareSession : Session :=
  (((Session.new "top").after (.addRouter Graph.root (.new "r" 8))).after
    (.addRouterOutput ⟨1⟩ "b")).after
    (.addMapping ⟨1⟩ presetMapping)

/-- Its one output has its exit. -/
theorem bareSession_exits_line_up :
    bareSession.Reachable ∧ (bareSession.graph.component ⟨1⟩).isRouter
      ∧ bareSession.graph.ExitsLineUp ⟨1⟩ := by
  have hadd : (Session.new "top").Allows
      (.addRouter Graph.root (.new "r" 8)) :=
    ⟨show 0 < _ by decide, .new "r" 8⟩
  have hrun :
      ((Session.new "top").after (.addRouter Graph.root (.new "r" 8))).Run
      bareSession :=
    .step _ (.step _ .none (show 1 < _ by decide +kernel))
      (show 1 < _ by decide +kernel)
  have hreach : bareSession.Reachable :=
    ⟨"top", .trans (.step _ .none hadd) hrun⟩
  have hrouter : (bareSession.graph.component ⟨1⟩).isRouter := by
    decide +kernel
  have hadded : bareSession.Added ⟨1⟩ (.new "r" 8) :=
    ⟨Session.new "top", Graph.root, ⟨"top", .none⟩,
      hadd, by decide +kernel, hrun⟩
  exact ⟨hreach, hrouter,
    ((exits_line_up_iff hreach hrouter).2 _ hadded).1.2 rfl⟩

/-- A router that has an output `a`, and a window on it, before it is
added. -/
def presetRouter : Router :=
  { Router.new "r" 8 with outputs := ["a"], mappings := [presetMapping] }

theorem presetRouter_made : presetRouter.Made := by
  have hout : (Router.new "r" 8).declareOutput "a" =
      .ok (⟨0⟩, { Router.new "r" 8 with outputs := ["a"] }) := rfl
  have hadd : Router.addMapping { Router.new "r" 8 with outputs := ["a"] }
      presetMapping = .ok presetRouter := rfl
  exact .addMapping (.declareOutput (.new "r" 8) hout) hadd

/-- That router in a graph, with a second output `b` that leads to a
memory. -/
def presetSession : Session :=
  ((((Session.new "top").after (.addRouter Graph.root presetRouter)).after
    (.addTerminal Graph.root "mem" (.memory 0x100 false))).after
    (.addRouterOutput ⟨1⟩ "b")).after
    (.bindPorts ⟨2⟩ ⟨1⟩)

/-- An access to the window of output `a`, which has no port, leaves by the
port `b` and reaches the memory. -/
theorem presetSession_misroutes :
    presetSession.Reachable ∧ (presetSession.graph.component ⟨1⟩).isRouter
      ∧ ¬ presetSession.graph.ExitsLineUp ⟨1⟩
      ∧ presetRouter.outputName? ⟨0⟩ = some "a"
      ∧ presetSession.graph.findPort? ⟨1⟩ "a" = none
      ∧ (presetSession.graph.component ⟨1⟩).exit? ⟨0⟩ =
        presetSession.graph.findPort? ⟨1⟩ "b"
      ∧ (presetSession.graph.route ⟨1⟩ 0x1000).toOption.map (·.targetPath) =
        some "top/mem" := by
  have hadd : (Session.new "top").Allows
      (.addRouter Graph.root presetRouter) :=
    ⟨show 0 < _ by decide, presetRouter_made⟩
  have hrun :
      ((Session.new "top").after (.addRouter Graph.root presetRouter)).Run
      presetSession :=
    .step _ (.step _ (.step _
      .none (show 0 < _ by decide +kernel)) (show 1 < _ by decide +kernel))
      ⟨show 2 < _ by decide +kernel, show 1 < _ by decide +kernel⟩
  have hreach : presetSession.Reachable :=
    ⟨"top", .trans (.step _ .none hadd) hrun⟩
  have hadded : presetSession.Added ⟨1⟩ presetRouter :=
    ⟨Session.new "top", Graph.root, ⟨"top", .none⟩,
      hadd, by decide +kernel, hrun⟩
  refine ⟨hreach, by decide +kernel, fun hline => ?_, rfl, by decide +kernel,
    by decide +kernel, by decide +kernel⟩
  have hnone := hadded.trailing.exitsLineUp_iff.1 hline
  cases hnone

end ChipFabric
