/-
What building steps can do to a graph, said once. Every step, whether it
succeeds or fails, changes a graph by a row of the six changes below or not
at all; so what holds of a new graph and survives each change holds of every
graph that was ever built, and no invariant has to look into a step again.

# The changes

A change names everything its step made sure of before it changed anything:
that the name was free, that the component or the port was there, that the
table accepted the mapping. The three updates of `addRouterOutput` are one
change, because between them a table has an output that has no exit yet.
Changes are those of a predicate on routers: which routers, as they stand
when they are added, are added at all. With `Router.Made` that is every
router there can be, and with a predicate that nothing satisfies it is none.
-/
import ChipFabric.Fabric.Graph.Lemmas
import ChipFabric.Proofs.Fabric.Table
import Mathlib.Logic.Relation

namespace ChipFabric

-- ========================================================== changes

/-- The kinds that a component is added with: a router has a table that is
admitted, and no exits yet. -/
inductive ComponentKind.Fresh (admits : Router → Prop) : ComponentKind → Prop
  | group : Fresh admits .group
  | device (device : Device) : Fresh admits (.device device)
  | router {table : Router} (h : admits table) :
      Fresh admits (.router table [])

/-- One change that a building step can make. -/
inductive Graph.Change (admits : Router → Prop) (g : Graph) : Graph → Prop
  | child {parent : ComponentId} {name : String} {kind : ComponentKind}
      (hparent : parent.index < g.components.size)
      (hfree : g.lookup? (g.path parent ++ "/" ++ name) = none)
      (hkind : kind.Fresh admits) :
      Change admits g
        (g.pushChild parent name (g.path parent ++ "/" ++ name) kind)
  | port {port : Port} (howner : port.owner.index < g.components.size)
      (hfree : g.findPort? port.owner port.name = none) :
      Change admits g (g.pushPort port)
  | input {r : ComponentId} {table : Router} {exits : List PortId}
      (name : String) (hkind : (g.component r).kind = .router table exits) :
      Change admits g (g.setTable r (table.withInput name))
  | output {r : ComponentId} {table extended : Router} {exits : List PortId}
      {name : String} {port : RouterPort}
      (hkind : (g.component r).kind = .router table exits)
      (hfree : g.findPort? r name = none)
      (hstep : table.declareOutput name = .ok (port, extended)) :
      Change admits g (((g.setTable r extended).pushPort
        ⟨r, name, .output, Signal.io.signature⟩).pushExit r ⟨g.ports.size⟩)
  | mapping {r : ComponentId} {table extended : Router} {exits : List PortId}
      {m : Mapping} (hkind : (g.component r).kind = .router table exits)
      (hstep : table.addMapping m = .ok extended) :
      Change admits g (g.setTable r extended)
  | binding {source target : PortId} (hsource : source.index < g.ports.size)
      (htarget : target.index < g.ports.size)
      (hissues : (g.port source).direction.isSource)
      (hreceives : (g.port target).direction.isSink) :
      Change admits g (g.pushBinding source target)

/-- A row of changes. -/
abbrev Graph.Changes (admits : Router → Prop) : Graph → Graph → Prop :=
  Relation.ReflTransGen (Graph.Change admits)

variable {admits : Router → Prop}

/-- A change that adds routers of one sort only is one that adds routers of
a wider sort only. -/
theorem Graph.Change.mono {wider : Router → Prop}
    (hwider : ∀ table, admits table → wider table) {g g' : Graph}
    (h : g.Change admits g') : g.Change wider g' := by
  cases h with
  | child hparent hfree hkind =>
    apply Change.child hparent hfree
    cases hkind with
    | group => exact .group
    | device device => exact .device device
    | router htable => exact .router (hwider _ htable)
  | port howner hfree => exact .port howner hfree
  | input name hkind => exact .input name hkind
  | output hkind hfree hstep => exact .output hkind hfree hstep
  | mapping hkind hstep => exact .mapping hkind hstep
  | binding hsource htarget hissues hreceives =>
    exact .binding hsource htarget hissues hreceives

theorem Graph.Changes.mono {wider : Router → Prop}
    (hwider : ∀ table, admits table → wider table) {g g' : Graph}
    (h : g.Changes admits g') : g.Changes wider g' :=
  Relation.ReflTransGen.mono (fun _ _ => Graph.Change.mono hwider) _ _ h

-- ======================================================= persistence

/-- No change takes a component away. -/
theorem Graph.Change.size_le {g g' : Graph} (h : g.Change admits g') :
    g.components.size ≤ g'.components.size := by
  cases h with
  | child _ _ _ => simp
  | port _ _ => simp
  | input _ _ => simp
  | output _ _ _ => simp
  | mapping _ _ => simp
  | binding _ _ _ _ => exact Nat.le_refl _

/-- No change takes a port away or alters it. -/
theorem Graph.Change.port_eq {g g' : Graph} (h : g.Change admits g')
    {id : PortId} (hid : id.index < g.ports.size) : id.index < g'.ports.size
      ∧ g'.port id = g.port id := by
  have hpush : ∀ port : Port, id.index < (g.ports.push port).size :=
    fun port => by
    rw [Array.size_push]
    omega
  cases h with
  | child _ _ _ => exact ⟨hid, rfl⟩
  | port _ _ => exact ⟨hpush _, g.port_pushPort hid _⟩
  | input _ _ => exact ⟨hid, rfl⟩
  | output _ _ _ => exact ⟨hpush _, g.port_pushPort hid _⟩
  | mapping _ _ => exact ⟨hid, rfl⟩
  | binding _ _ _ _ => exact ⟨hid, rfl⟩

/-- No change gives a component another path. -/
theorem Graph.Change.path_eq {g g' : Graph} (h : g.Change admits g')
    {id : ComponentId} (hid : id.index < g.components.size) :
    g'.path id = g.path id := by
  cases h with
  | child _ _ _ => exact g.path_pushChild hid _ _ _ _
  | port _ _ => simp
  | input _ _ => simp
  | output _ _ _ => simp
  | mapping _ _ => simp
  | binding _ _ _ _ => rfl

/-- No change takes a binding away. -/
theorem Graph.Change.mem_bindings {g g' : Graph} (h : g.Change admits g')
    {b : Binding} (hb : b ∈ g.bindings) : b ∈ g'.bindings := by
  cases h with
  | binding _ _ _ _ => exact Array.mem_push_of_mem _ hb
  | _ => exact hb

theorem Graph.Changes.size_le {g g' : Graph} (h : g.Changes admits g') :
    g.components.size ≤ g'.components.size := by
  induction h with
  | refl => exact Nat.le_refl _
  | tail _ hstep ih => exact Nat.le_trans ih hstep.size_le

-- ============================================================= kinds

/-- What a change of a graph can do to the kind of a component that is there:
nothing, or to a router one more input, mapping or output; and an output
comes with a port that was not there before, which is its exit. -/
inductive Graph.KindStep (g g' : Graph) (r : ComponentId) : ComponentKind →
    ComponentKind → Prop
  | same (kind : ComponentKind) : KindStep g g' r kind kind
  | input {table : Router} {exits : List PortId} (name : String) :
      KindStep g g' r (.router table exits)
        (.router (table.withInput name) exits)
  | mapping {table extended : Router} {exits : List PortId} {m : Mapping}
      (hstep : table.addMapping m = .ok extended) :
      KindStep g g' r (.router table exits) (.router extended exits)
  | output {table extended : Router} {exits : List PortId} {name : String}
      {port : RouterPort}
      (hstep : table.declareOutput name = .ok (port, extended))
      (hfree : g.findPort? r name = none)
      (hports : g'.ports = g.ports.push ⟨r, name, .output,
        Signal.io.signature⟩) :
      KindStep g g' r (.router table exits)
        (.router extended (exits ++ [⟨g.ports.size⟩]))

/-- What a change does to a component that is there. -/
theorem Graph.Change.kindStep {g g' : Graph} (h : g.Change admits g')
    {r : ComponentId} (hr : r.index < g.components.size) :
    g.KindStep g' r (g.component r).kind (g'.component r).kind := by
  cases h with
  | child _ _ _ =>
    rw [g.kind_pushChild hr]
    exact .same _
  | port _ _ =>
    rw [kind_pushPort]
    exact .same _
  | @input r₀ table exits name hkind =>
    rw [g.kind_setTable hkind]
    by_cases hsame : r₀ = r
    · subst hsame
      rw [hkind, if_pos rfl]
      exact .input name
    · rw [if_neg hsame]
      exact .same _
  | @output r₀ table extended exits name port hkind hfree hstep =>
    rw [g.kind_pushOutput hkind]
    by_cases hsame : r₀ = r
    · subst hsame
      rw [hkind, if_pos rfl]
      exact .output hstep hfree rfl
    · rw [if_neg hsame]
      exact .same _
  | @mapping r₀ table extended exits m hkind hstep =>
    rw [g.kind_setTable hkind]
    by_cases hsame : r₀ = r
    · subst hsame
      rw [hkind, if_pos rfl]
      exact .mapping hstep
    · rw [if_neg hsame]
      exact .same _
  | binding _ _ _ _ => exact .same _

/-- A component that was there and is a router was one before. -/
theorem Graph.Changes.kind_router_of_lt {g g' : Graph}
    (h : g.Changes admits g') {r : ComponentId}
    (hr : r.index < g.components.size) {table' : Router} {exits' : List PortId}
    (hkind' : (g'.component r).kind = .router table' exits') :
    ∃ table exits, (g.component r).kind = .router table exits := by
  induction h generalizing table' exits' with
  | refl => exact ⟨table', exits', hkind'⟩
  | tail hbefore hchange ih =>
    have hstep :=
      hchange.kindStep (Nat.lt_of_lt_of_le hr (Graph.Changes.size_le hbefore))
    rw [hkind'] at hstep
    generalize hkind : (Graph.component _ r).kind = kind at hstep
    cases hstep <;> exact ih hkind

/-- What a change does to a component that was not there: if it is there
now, it was added. -/
theorem Graph.Change.kind_fresh {g g' : Graph} (h : g.Change admits g')
    {r : ComponentId} (hr : g.components.size ≤ r.index)
    (hr' : r.index < g'.components.size) :
    (g'.component r).kind.Fresh admits := by
  cases h with
  | child hparent _ hkind =>
    rw [size_pushChild] at hr'
    obtain rfl : r = ⟨g.components.size⟩ :=
      ComponentId.ext (Nat.le_antisymm (Nat.le_of_lt_succ hr') hr)
    rw [g.component_pushChild_size hparent]
    exact hkind
  | port _ _ =>
    rw [size_pushPort] at hr'
    omega
  | input _ _ =>
    rw [size_setTable] at hr'
    omega
  | output _ _ _ =>
    rw [size_pushExit, size_pushPort, size_setTable] at hr'
    omega
  | mapping _ _ =>
    rw [size_setTable] at hr'
    omega
  | binding _ _ _ _ =>
    have hr'' : r.index < g.components.size := hr'
    omega

/-- What holds of the table and exits of every router that is added, and
survives each step of a router, holds of every router. -/
theorem Graph.Changes.router_induction
    {motive : Graph → ComponentId → Router → List PortId → Prop} {g₀ : Graph}
    (hfresh : ∀ g g' r table, g₀.Changes admits g → g.Change admits g' →
      admits table →
      g.components.size ≤ r.index → motive g' r table [])
    (hstep : ∀ g g' r table exits table' exits',
      g₀.Changes admits g → g.Change admits g' →
      (g.component r).kind = .router table exits → motive g r table exits →
      g.KindStep g' r (.router table exits) (.router table' exits') →
        motive g' r table' exits')
    (hold : ∀ r table exits, (g₀.component r).kind = .router table exits →
      motive g₀ r table exits)
    {g : Graph} (h : g₀.Changes admits g) {r : ComponentId} {table : Router}
    {exits : List PortId}
    (hkind : (g.component r).kind = .router table exits) :
    motive g r table exits := by
  induction h generalizing r table exits with
  | refl => exact hold r table exits hkind
  | @tail g g' hbefore hchange ih =>
    by_cases hr : r.index < g.components.size
    · have hks := hchange.kindStep hr
      rw [hkind] at hks
      cases hk : (g.component r).kind with
      | router table₀ exits₀ =>
        rw [hk] at hks
        exact hstep g g' r table₀ exits₀ table exits hbefore hchange hk
          (ih hk) hks
      | group => rw [hk] at hks; cases hks
      | device device => rw [hk] at hks; cases hks
    · have hr' := Nat.le_of_not_lt hr
      have hkf := hchange.kind_fresh hr' (g'.lt_of_kind_eq_router hkind)
      rw [hkind] at hkf
      cases hkf with
      | router hadmits => exact hfresh g g' r table hbefore hchange hadmits hr'

end ChipFabric
