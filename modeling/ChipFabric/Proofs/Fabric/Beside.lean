/-
Steps beside what is there. `g.KeepsFirst n g'` says that the first `n`
components of the one graph are in the other just as they were, their
children, ports and kinds included; and a step keeps the first `n` if it does
so on every graph that has them, whether it succeeds or fails.

Every update is entered on the component that it names. So an operation that
is given a number from `n` on keeps what comes before (`Operation.Beside`),
and what it hands out are numbers from `n` on again, which the next step can
be given.
-/
import ChipFabric.Proofs.Fabric.Update

namespace ChipFabric

open Edit

-- ============================================================ graphs

namespace Graph

variable {n : Nat} {g g' g'' : Graph}

/-- The first components are in the second graph as they are in the first. -/
structure KeepsFirst (n : Nat) (g g' : Graph) : Prop where
  size_le : g.components.size ≤ g'.components.size
  component_eq : ∀ id : ComponentId, id.index < n →
    g'.component id = g.component id

theorem KeepsFirst.refl (n : Nat) (g : Graph) : g.KeepsFirst n g :=
  ⟨Nat.le_refl _, fun _ _ => rfl⟩

theorem KeepsFirst.trans (h : g.KeepsFirst n g') (h' : g'.KeepsFirst n g'') :
    g.KeepsFirst n g'' where
  size_le := Nat.le_trans h.size_le h'.size_le
  component_eq id hid := (h'.component_eq id hid).trans (h.component_eq id hid)

/-- The same of two graphs of which the first need not have so many. -/
def KeepsFirstOf (n : Nat) (g g' : Graph) : Prop :=
  n ≤ g.components.size → g.KeepsFirst n g'

instance : IsPreorder Graph (KeepsFirstOf n) where
  refl g _ := .refl n g
  trans _ _ _ h h' hn :=
    (h hn).trans (h' (Nat.le_trans hn (h hn).size_le))

/-- What is done to a later component is nothing to the first ones. -/
theorem keepsFirst_modifyComponent {id : ComponentId} (hid : n ≤ id.index)
    (change : Component → Component) (g : Graph) :
    g.KeepsFirst n (g.modifyComponent id change) where
  size_le := Nat.le_of_eq (g.size_modifyComponent id change).symm
  component_eq other hother := by
    rw [component_modifyComponent, if_neg]
    rintro ⟨rfl, -⟩
    exact Nat.not_lt.2 hid hother

/-- A child below a later component comes after the first ones, and only its
parent hears of it. -/
theorem keepsFirst_pushChild {parent : ComponentId}
    (hn : n ≤ g.components.size) (hparent : n ≤ parent.index)
    (name path : String) (kind : ComponentKind) :
    g.KeepsFirst n (g.pushChild parent name path kind) where
  size_le := by
    rw [size_pushChild]
    exact Nat.le_succ _
  component_eq id hid := by
    refine g.component_pushChild (Nat.lt_of_lt_of_le hid hn) ?_ name path kind
    rintro rfl
    exact Nat.not_lt.2 hparent hid

/-- A port is entered with its owner, and nowhere else. -/
theorem keepsFirst_pushPort {port : Port} (howner : n ≤ port.owner.index)
    (g : Graph) : g.KeepsFirst n (g.pushPort port) where
  size_le := Nat.le_of_eq (g.size_pushPort port).symm
  component_eq :=
    (keepsFirst_modifyComponent howner _
      { g with ports := g.ports.push port }).component_eq

/-- Components do not know of bindings. -/
theorem keepsFirst_pushBinding (source target : PortId) (g : Graph) :
    g.KeepsFirst n (g.pushBinding source target) :=
  ⟨Nat.le_refl _, fun _ _ => rfl⟩

theorem keepsFirst_setTable {id : ComponentId} (hid : n ≤ id.index)
    (table : Router) (g : Graph) : g.KeepsFirst n (g.setTable id table) :=
  keepsFirst_modifyComponent hid _ g

theorem keepsFirst_pushExit {id : ComponentId} (hid : n ≤ id.index)
    (exit : PortId) (g : Graph) : g.KeepsFirst n (g.pushExit id exit) :=
  keepsFirst_modifyComponent hid _ g

end Graph

-- =========================================================== updates

section

variable {n : Nat}

/-- The component that the update is entered on comes after the first ones. -/
def Update.Beside (n : Nat) : Update → Prop
  | .child parent _ _ => n ≤ parent.index
  | .port p => n ≤ p.owner.index
  | .input router _ => n ≤ router.index
  | .output router _ => n ≤ router.index
  | .mapping router _ => n ≤ router.index
  | .binding _ _ => True

/-- Nothing that is entered on a later component reaches the first ones. -/
theorem Update.Does.keepsFirst {u : Update} {g g' : Graph} (h : u.Does g g')
    (hu : u.Beside n) : g.KeepsFirstOf n g' := by
  intro hn
  cases h with
  | child parent name kind => exact Graph.keepsFirst_pushChild hn hu _ _ _
  | port port => exact Graph.keepsFirst_pushPort hu g
  | input name hkind => exact Graph.keepsFirst_setTable hu _ g
  | @output r table extended exits name port hkind hfree hstep =>
    have htable := Graph.keepsFirst_setTable hu extended g
    exact (htable.trans (Graph.keepsFirst_pushPort hu _)).trans
      (Graph.keepsFirst_pushExit hu _ _)
  | mapping hkind hstep => exact Graph.keepsFirst_setTable hu _ g
  | binding source target => exact Graph.keepsFirst_pushBinding source target g

/-- The component that the operation works on comes after the first ones. -/
def Operation.Beside (n : Nat) : Operation → Prop
  | .addGroup parent _ => n ≤ parent.index
  | .addDevice parent _ _ => n ≤ parent.index
  | .addTerminal parent _ _ => n ≤ parent.index
  | .addRouter parent _ => n ≤ parent.index
  | .declarePort owner _ _ _ => n ≤ owner.index
  | .declare owner _ _ _ => n ≤ owner.index
  | .addRouterInput router _ => n ≤ router.index
  | .addRouterOutput router _ => n ≤ router.index
  | .addMapping router _ => n ≤ router.index
  | .mapWindow router _ _ _ _ _ => n ≤ router.index
  | _ => True

/-- All that the operation does is entered on that component, or on one that
it has just added. -/
theorem Operation.Beside.update {op : Operation} (hop : op.Beside n)
    {g : Graph} (hn : n ≤ g.components.size) {u : Update} (hu : op.MayDo g u) :
    u.Beside n := by
  cases op with
  | addTerminal parent name device =>
    rcases hu with rfl | rfl
    · exact hop
    · exact hn
  | addRouter parent router =>
    rcases hu with rfl | ⟨name, rfl⟩
    · exact hop
    · exact hn
  | addRouterInput router name => rcases hu with rfl | rfl <;> exact hop
  | mapWindow router name target window rebase attrs =>
    rcases hu with rfl | ⟨port, rfl⟩ | ⟨source, rfl⟩
    · exact hop
    · exact hop
    · trivial
  | bindByName source sourcePort target targetPort =>
    obtain ⟨s, t, rfl⟩ := hu
    trivial
  | routerInput router name => exact hu.elim
  | _ =>
    obtain rfl := hu
    exact hop

end

-- ============================================================= steps

namespace Build

variable {α β : Type} {n : Nat}

/-- The step leaves the first components alone, and what it gives back if it
succeeds satisfies `post`. -/
def KeepsFirst (step : Build α) (n : Nat) (post : α → Prop) : Prop :=
  ∀ g : Graph, n ≤ g.components.size →
    g.KeepsFirst n (step.on g).2 ∧ ∀ a, (step.on g).1 = .ok a → post a

/-- What the first step gives back is all that the next one may work on. -/
theorem KeepsFirst.bind {step : Build α} {next : α → Build β} {mid : α → Prop}
    {post : β → Prop} (h : step.KeepsFirst n mid)
    (hnext : ∀ a, mid a → (next a).KeepsFirst n post) :
    (step >>= next).KeepsFirst n post := by
  intro g hn
  obtain ⟨hkeeps, hmid⟩ := h g hn
  rw [on_bind]
  generalize step.on g = outcome at hkeeps hmid
  obtain ⟨_ | a, g'⟩ := outcome
  · exact ⟨hkeeps, nofun⟩
  · obtain ⟨hafter, hpost⟩ :=
      hnext a (hmid a rfl) g' (Nat.le_trans hn hkeeps.size_le)
    exact ⟨hkeeps.trans hafter, hpost⟩

theorem KeepsFirst.pure {a : α} {post : α → Prop} (h : post a) :
    (Pure.pure a : Build α).KeepsFirst n post := by
  refine fun g _ => ⟨.refl n g, fun b hb => ?_⟩
  rw [on_pure] at hb
  cases hb
  exact h

/-- Rounds of a loop do not need what the rounds before them gave back. -/
theorem KeepsFirst.forM {step : α → Build Unit} {values : List α}
    (h : ∀ a ∈ values, (step a).KeepsFirst n fun _ => True) :
    (values.forM step).KeepsFirst n fun _ => True := by
  induction values with
  | nil => exact .pure trivial
  | cons a values ih =>
    obtain ⟨ha, hvalues⟩ := List.forall_mem_cons.1 h
    exact ha.bind fun _ _ => ih hvalues

/-- An operation on a later component leaves the first ones alone. -/
theorem Does.keepsFirst {step : Build α} {op : Operation} (h : step.Does op)
    (hop : op.Beside n) : step.KeepsFirst n fun _ => True := by
  intro g hn
  have hkeeps : g.KeepsFirstOf n (step.on g).2 :=
    (h g).within fun _ _ _ hu hdoes => hdoes.keepsFirst (hop.update hn hu)
  exact ⟨hkeeps hn, fun _ _ => trivial⟩

/-- What is added after the first components is not one of them. -/
theorem addDevice_keepsFirst {parent : ComponentId}
    (hparent : n ≤ parent.index) (name : String) (device : Device) :
    (addDevice parent name device).KeepsFirst n (n ≤ ·.index) := by
  intro g hn
  have hkeeps := (addDevice_does parent name device).keepsFirst hparent g hn
  refine ⟨hkeeps.1, fun id hid => ?_⟩
  obtain rfl := eq_of_addComponent (Prod.ext hid rfl)
  exact hn

/-- Nor is a router, whose inputs are entered on itself. -/
theorem addRouter_keepsFirst {parent : ComponentId}
    (hparent : n ≤ parent.index) (router : Router) :
    (addRouter parent router).KeepsFirst n (n ≤ ·.index) := by
  intro g hn
  have hkeeps := (addRouter_does parent router).keepsFirst hparent g hn
  refine ⟨hkeeps.1, fun id hid => ?_⟩
  obtain ⟨added, g₁, hadd, hrest⟩ := on_bind_eq_ok_iff.1 (Prod.ext hid rfl)
  obtain ⟨_, g₂, -, hpure⟩ := on_bind_eq_ok_iff.1 hrest
  obtain rfl : added = id := Except.ok.inj (congrArg Prod.fst hpure)
  obtain rfl := eq_of_addComponent hadd
  exact hn

/-- Steps beside what was there that follow a new group leave it as it is but
for one thing: the parent of the group has one child more. -/
theorem component_of_addGroup_bind {parent : ComponentId} {name : String}
    {next : ComponentId → Build α} {g g' : Graph} {a : α}
    (hparent : parent.index < g.components.size)
    (hnext : ∀ group, g.components.size ≤ group.index →
      (next group).KeepsFirst g.components.size fun _ => True)
    (hon : (addGroup parent name >>= next).on g = (.ok a, g'))
    {id : ComponentId} (hid : id.index < g.components.size) :
    g'.component id =
      if id = parent then
        { g.component parent with
          children := (g.component parent).children ++ [⟨g.components.size⟩] }
      else g.component id := by
  obtain ⟨group, g₁, hgroup, hon⟩ := on_bind_eq_ok_iff.1 hon
  rw [addGroup, on_addComponent] at hgroup
  split at hgroup
  · cases hgroup
  · cases hgroup
    have hsize : g.components.size ≤
        (g.pushChild parent name (g.path parent ++ "/" ++ name)
          .group).components.size := by
      rw [Graph.size_pushChild]
      exact Nat.le_succ _
    obtain ⟨hkeeps, -⟩ := hnext ⟨g.components.size⟩ (Nat.le_refl _) _ hsize
    rw [hon] at hkeeps
    rw [hkeeps.component_eq id hid]
    by_cases hsame : id = parent
    · subst hsame
      rw [if_pos rfl, g.component_pushChild_parent hid]
    · rw [if_neg hsame, g.component_pushChild hid (Ne.symm hsame)]

end Build

end ChipFabric
