/-
Graphs without loose ends. Ports belong to components that exist and
bindings run between ports that exist, in every graph that can be built; so
a component that was just added owns nothing and a port that was just
declared leads nowhere. That is why adding a router always succeeds once its
path is free.
-/
import ChipFabric.Fabric.Build.Lemmas
import ChipFabric.Proofs.Fabric.Change

namespace ChipFabric

open Edit

namespace Graph

/-- Ports have owners and bindings have ends. -/
structure Closed (g : Graph) : Prop where
  owner : ∀ id : PortId, id.index < g.ports.size →
    (g.port id).owner.index < g.components.size
  ends : ∀ b ∈ g.bindings, b.source.index < g.ports.size
    ∧ b.target.index < g.ports.size

theorem Closed.new (root : String) : (Graph.new root).Closed :=
  ⟨fun _ h => absurd h (Nat.not_lt_zero _),
    fun b hb => by cases hb; contradiction⟩

variable {g : Graph}

/-- A component that does not exist owns no port. -/
theorem Closed.findPort?_eq_none (h : g.Closed) {owner : ComponentId}
    (howner : g.components.size ≤ owner.index) (name : String) :
    g.findPort? owner name = none := by
  rw [findPort?_eq_none_iff]
  rintro id hid ⟨rfl, -⟩
  have := h.owner id hid
  omega

/-- A port that does not exist leads nowhere. -/
theorem Closed.targets_eq_nil (h : g.Closed) {id : PortId}
    (hid : g.ports.size ≤ id.index) : g.targets id = [] := by
  rw [targets, List.map_eq_nil_iff, List.filter_eq_nil_iff]
  intro b hb hsource
  have hlt := (h.ends b (Array.mem_toList_iff.1 hb)).1
  rw [of_decide_eq_true hsource] at hlt
  omega

-- ======================================================= updates

/-- A port needs an owner that is there. -/
theorem Closed.pushPort (h : g.Closed) {port : Port}
    (howner : port.owner.index < g.components.size) :
    (g.pushPort port).Closed := by
  constructor
  · intro id hid
    rw [ports_pushPort, Array.size_push] at hid
    rw [size_pushPort]
    by_cases hold : id.index < g.ports.size
    · rw [g.port_pushPort hold]
      exact h.owner id hold
    · obtain rfl : id = ⟨g.ports.size⟩ :=
        PortId.ext
          (Nat.le_antisymm (Nat.le_of_lt_succ hid) (Nat.le_of_not_lt hold))
      rw [port_pushPort_size]
      exact howner
  · intro b hb
    obtain ⟨hsource, htarget⟩ := h.ends b hb
    rw [ports_pushPort, Array.size_push]
    omega

/-- A new component has no port, and so no loose end. -/
theorem Closed.pushChild (h : g.Closed) (parent : ComponentId)
    (name path : String) (kind : ComponentKind) :
    (g.pushChild parent name path kind).Closed := by
  refine ⟨fun id hid => ?_, h.ends⟩
  rw [size_pushChild]
  exact Nat.lt_succ_of_lt (h.owner id hid)

theorem Closed.setTable (h : g.Closed) (id : ComponentId) (table : Router) :
    (g.setTable id table).Closed := by
  refine ⟨fun port hport => ?_, h.ends⟩
  rw [size_setTable]
  exact h.owner port hport

theorem Closed.pushExit (h : g.Closed) (id : ComponentId) (exit : PortId) :
    (g.pushExit id exit).Closed := by
  refine ⟨fun port hport => ?_, h.ends⟩
  rw [size_pushExit]
  exact h.owner port hport

/-- A binding needs ports that are there. -/
theorem Closed.pushBinding (h : g.Closed) {source target : PortId}
    (hsource : source.index < g.ports.size)
    (htarget : target.index < g.ports.size) :
    (g.pushBinding source target).Closed := by
  refine ⟨h.owner, fun b hb => ?_⟩
  rcases Array.mem_push.1 hb with hb | rfl
  · exact h.ends b hb
  · exact ⟨hsource, htarget⟩

variable {admits : Router → Prop}

/-- Every change names only what is there. -/
theorem Closed.change (h : g.Closed) {g' : Graph}
    (hchange : g.Change admits g') : g'.Closed := by
  cases hchange with
  | child _ _ _ => exact h.pushChild _ _ _ _
  | port howner _ => exact h.pushPort howner
  | input _ _ => exact h.setTable _ _
  | output hkind _ _ =>
    refine ((h.setTable _ _).pushPort ?_).pushExit _ _
    rw [size_setTable]
    exact g.lt_of_kind_eq_router hkind
  | mapping _ _ => exact h.setTable _ _
  | binding hsource htarget _ _ => exact h.pushBinding hsource htarget

end Graph

-- ======================================================== whole steps

namespace Build

variable {g : Graph}

/-- The graph with a port for each of the names, as declared for the inputs
of a router. -/
def withInputs (id : ComponentId) (names : List String) (g : Graph) : Graph :=
  names.foldl
    (fun g name => g.pushPort ⟨id, name, .input, Signal.io.signature⟩) g

/-- The names that are left are free, once one of them has its port. -/
theorem free_after_declareInput {id : ComponentId} {name : String}
    {names : List String} (hname : name ∉ names)
    (hfree : ∀ n ∈ names, g.findPort? id n = none) :
    ∀ n ∈ names, (g.pushPort ⟨id, name, .input, Signal.io.signature⟩).findPort?
      id n = none := by
  intro other hother
  have hne : name ≠ other := fun heq => hname (heq ▸ hother)
  rw [g.findPort?_pushPort, hfree other hother]
  simp [hne]

/-- Inputs of distinct names that a component does not have yet are all
declared. -/
theorem on_declareInputs {id : ComponentId} {names : List String}
    (hnodup : names.Nodup)
    (hfree : ∀ name ∈ names, g.findPort? id name = none) :
    (names.forM fun name => do
      let _ ← declarePort id name .input Signal.io.signature :
      Build Unit).on g =
      (.ok (), withInputs id names g) := by
  induction names generalizing g with
  | nil => rfl
  | cons name names ih =>
    obtain ⟨hname, hnodup⟩ := List.nodup_cons.1 hnodup
    have hon : (declarePort id name .input Signal.io.signature).on g =
        (.ok ⟨g.ports.size⟩,
          g.pushPort ⟨id, name, .input, Signal.io.signature⟩) := by
      rw [on_declarePort, hfree name (List.mem_cons_self ..)]
      rfl
    rw [on_forM_cons, on_bind, hon]
    exact ih hnodup
      (free_after_declareInput hname (List.forall_mem_cons.1 hfree).2)

/-- Adding a router to a closed graph fails only if its path is taken. -/
theorem on_addRouter (h : g.Closed) {parent : ComponentId} {router : Router}
    (hinputs : router.inputs.Nodup) :
    (addRouter parent router).on g =
      if (g.lookup? (g.path parent ++ "/" ++ router.name)).isSome then
        (.error (.duplicateComponent (g.path parent ++ "/" ++ router.name)), g)
      else
        (.ok ⟨g.components.size⟩, withInputs ⟨g.components.size⟩ router.inputs
          (g.pushChild parent router.name (g.path parent ++ "/" ++ router.name)
            (.router router []))) := by
  rw [addRouter, on_bind, on_addComponent]
  by_cases hlook : (g.lookup? (g.path parent ++ "/" ++ router.name)).isSome
  · simp [hlook]
  · have hfree : ∀ name ∈ router.inputs, (g.pushChild parent router.name
        (g.path parent ++ "/" ++ router.name) (.router router [])).findPort?
          ⟨g.components.size⟩ name = none :=
      fun name _ => h.findPort?_eq_none (Nat.le_refl _) name
    simp only [hlook, Bool.false_eq_true, ↓reduceIte, on_bind,
      on_declareInputs hinputs hfree, on_pure]

/-- Adding a terminal does so as well. -/
theorem on_addTerminal (h : g.Closed) (parent : ComponentId) (name : String)
    (device : Device) :
    (addTerminal parent name device).on g =
      if (g.lookup? (g.path parent ++ "/" ++ name)).isSome then
        (.error (.duplicateComponent (g.path parent ++ "/" ++ name)), g)
      else
        (.ok (⟨g.components.size⟩, ⟨⟨g.ports.size⟩⟩),
          (g.pushChild parent name (g.path parent ++ "/" ++ name)
            (.device device)).pushPort
            ⟨⟨g.components.size⟩, Router.defaultInput, .input,
              Signal.io.signature⟩) := by
  rw [addTerminal, on_bind, addDevice, on_addComponent]
  by_cases hlook : (g.lookup? (g.path parent ++ "/" ++ name)).isSome
  · simp [hlook]
  · have hfree : (g.pushChild parent name (g.path parent ++ "/" ++ name)
        (.device device)).findPort? ⟨g.components.size⟩
          Router.defaultInput = none :=
      h.findPort?_eq_none (Nat.le_refl _) Router.defaultInput
    simp [hlook, on_declare, hfree]

/-- Ports of inputs are no part of a kind. -/
@[simp] theorem kind_withInputs (id other : ComponentId) (names : List String)
    (g : Graph) :
    ((withInputs id names g).component other).kind =
      (g.component other).kind := by
  induction names generalizing g with
  | nil => rfl
  | cons name names ih => exact (ih _).trans (g.kind_pushPort _ _)

@[simp] theorem size_withInputs (id : ComponentId) (names : List String)
    (g : Graph) :
    (withInputs id names g).components.size = g.components.size := by
  induction names generalizing g with
  | nil => rfl
  | cons name names ih => exact (ih _).trans (g.size_pushPort _)

end Build

end ChipFabric
