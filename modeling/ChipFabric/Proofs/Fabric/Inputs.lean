/-
Router inputs and their ports. A router is added together with a port for
each input of its table, and an input that comes later gets its port first;
no other operation gives a table an input. So in every reachable graph the
port under the name of a router's input is an input port that carries reads
and writes. A router may have further input ports, which were declared on it
like on any component, and of those nothing is said here.
-/
import ChipFabric.Proofs.Fabric.Outside

namespace ChipFabric

open Edit

/-- The inputs of a router's table. -/
def ComponentKind.inputs : ComponentKind → List String
  | .router table _ => table.inputs
  | _ => []

namespace Graph

variable {g g' : Graph}

/-- The inputs of the component's table; what is no router has none. -/
def inputsOf (g : Graph) (r : ComponentId) : List String :=
  (g.component r).kind.inputs

theorem inputsOf_of_table? {r : ComponentId} {table : Router}
    (h : (g.component r).table? = some table) :
    g.inputsOf r = table.inputs := by
  obtain ⟨exits, hkind⟩ := Component.exists_kind_of_table? h
  rw [inputsOf, hkind]
  rfl

/-- What does not exist has no inputs. -/
theorem inputsOf_of_size_le {r : ComponentId}
    (hr : g.components.size ≤ r.index) : g.inputsOf r = [] := by
  rw [inputsOf, component, Array.getElem?_eq_none hr]
  rfl

/-- No table has other inputs in the one graph than in the other. -/
def SameInputs (g g' : Graph) : Prop := ∀ r, g'.inputsOf r = g.inputsOf r

instance : IsPreorder Graph SameInputs where
  refl _ _ := rfl
  trans _ _ _ h h' r := (h' r).trans (h r)

/-- Every input of every router has its port, which carries reads and
writes. -/
def InputsDeclared (g : Graph) : Prop :=
  ∀ r, ∀ name ∈ g.inputsOf r, ∃ id,
    g.Declares id ⟨r, name, .input, Signal.io.signature⟩

/-- Where no table gets an input, the ports are still there. -/
theorem InputsDeclared.of_eq (h : g.InputsDeclared) (hgrows : g.Grows g')
    (hsame : g.SameInputs g') : g'.InputsDeclared := by
  intro r name hname
  rw [hsame] at hname
  obtain ⟨id, hid⟩ := h r name hname
  exact ⟨id, hgrows.declares hid⟩

theorem InputsDeclared.new (root : String) :
    (Graph.new root).InputsDeclared := by
  intro r name hname
  have hnone : (Graph.new root).inputsOf r = [] := by
    obtain ⟨_ | i⟩ := r
    · rfl
    · exact inputsOf_of_size_le (Nat.succ_le_succ (Nat.zero_le i))
  rw [hnone] at hname
  cases hname

-- =========================================================== updates

/-- Only a new component can have inputs that were not there. -/
theorem inputsOf_pushChild (parent : ComponentId) (name path : String)
    (kind : ComponentKind) (r : ComponentId) :
    (g.pushChild parent name path kind).inputsOf r =
      if r.index = g.components.size then kind.inputs else g.inputsOf r := by
  rw [inputsOf, inputsOf, pushChild, component_modifyComponent]
  by_cases hnew : r.index = g.components.size
  · split <;> simp [component, hnew]
  · split <;> simp [component, Array.getElem?_push, hnew]

theorem inputsOf_pushPort (port : Port) (r : ComponentId) :
    (g.pushPort port).inputsOf r = g.inputsOf r := by
  rw [inputsOf, kind_pushPort]
  rfl

theorem inputsOf_setTable {r : ComponentId} {table : Router}
    (htable : g.router r = .ok table) (next : Router) (other : ComponentId) :
    (g.setTable r next).inputsOf other = if r = other then next.inputs
      else g.inputsOf other := by
  obtain ⟨exits, hkind⟩ := g.router_eq_ok_iff.1 htable
  rw [inputsOf, g.kind_setTable hkind]
  split <;> rfl

/-- A table that has the inputs of the one it replaces changes nothing. -/
theorem inputsOf_setTable_of_eq {r : ComponentId} {table next : Router}
    (htable : g.router r = .ok table) (hsame : next.inputs = table.inputs)
    (other : ComponentId) :
    (g.setTable r next).inputsOf other = g.inputsOf other := by
  rw [inputsOf_setTable htable]
  split
  · rename_i heq
    obtain ⟨exits, hkind⟩ := g.router_eq_ok_iff.1 htable
    rw [← heq, hsame, inputsOf_of_table? (Component.table?_of_kind hkind)]
  · rfl

theorem inputsOf_pushExit (r other : ComponentId) (exit : PortId) :
    (g.pushExit r exit).inputsOf other = g.inputsOf other := by
  rw [inputsOf, pushExit, component_modifyComponent]
  split
  · rw [inputsOf]
    cases hkind : (g.component other).kind
      <;> simp [hkind, ComponentKind.inputs]
  · rfl

end Graph

-- ============================================================= steps

/-- The update may give a table an input: it adds a component that has some,
or an input by itself. -/
def Update.BringsInput : Update → Prop
  | .child _ _ kind => kind.inputs ≠ []
  | .input _ _ => True
  | _ => False

theorem Update.Does.sameInputs {u : Update} {g g' : Graph} (h : u.Does g g')
    (hu : ¬ u.BringsInput) : g.SameInputs g' := by
  intro r
  cases h with
  | child parent name kind =>
    rw [Graph.inputsOf_pushChild, not_not.1 hu]
    split
    · rename_i hnew
      exact (Graph.inputsOf_of_size_le (Nat.le_of_eq hnew.symm)).symm
    · rfl
  | port port => exact Graph.inputsOf_pushPort _ r
  | input name hkind => exact absurd trivial hu
  | @output r' table extended exits name port hkind hfree hstep =>
    obtain ⟨-, -, hextended⟩ := Router.declareOutput_eq_ok_iff.1 hstep
    have hsame : extended.inputs = table.inputs := by rw [hextended]
    rw [Graph.inputsOf_pushExit, Graph.inputsOf_pushPort,
      Graph.inputsOf_setTable_of_eq (g.router_eq_ok_iff.2 ⟨exits, hkind⟩)
        hsame]
  | @mapping r' table extended exits m hkind hstep =>
    obtain ⟨-, -, hextended⟩ := Router.addMapping_eq_ok_iff.1 hstep
    have hsame : extended.inputs = table.inputs := by rw [hextended]
    exact Graph.inputsOf_setTable_of_eq
      (g.router_eq_ok_iff.2 ⟨exits, hkind⟩) hsame r
  | binding source target => rfl

/-- The operation may bring in an input of a router. -/
def Operation.BringsInput : Operation → Prop
  | .addRouter _ _ => True
  | .addRouterInput _ _ => True
  | _ => False

/-- None of the other operations gives a table an input. -/
theorem Operation.keepsInputs {op : Operation} (hop : ¬ op.BringsInput) :
    op.edit.Within Graph.SameInputs := by
  have hnone : ∀ g u, op.MayDo g u → ¬ u.BringsInput := by
    cases op with
    | addRouter parent router => exact absurd trivial hop
    | addRouterInput router name => exact absurd trivial hop
    | mapWindow router name target window rebase attrs =>
      rintro g u (rfl | ⟨_, rfl⟩ | ⟨_, rfl⟩) <;> exact id
    | bindByName source sourcePort target targetPort =>
      rintro g u ⟨_, _, rfl⟩
      exact id
    | _ => simp [MayDo, Update.BringsInput, ComponentKind.inputs]
  exact op.edit_does.within fun g u _ _ hu hdoes => hdoes.sameInputs
    (hnone g u hu)

namespace Build

theorem grows_withInputs (id : ComponentId) (names : List String) (g : Graph) :
    g.Grows (withInputs id names g) := by
  induction names generalizing g with
  | nil => exact .refl g
  | cons name names ih =>
    exact (Graph.growsUnbound_pushPort _).grows.trans (ih _)

/-- The ports of the inputs are there under their names. -/
theorem declares_withInputs {g : Graph} {id : ComponentId}
    {names : List String} (hnodup : names.Nodup)
    (hfree : ∀ name ∈ names, g.findPort? id name = none) :
    ∀ name ∈ names, ∃ port,
      (withInputs id names g).Declares port ⟨id, name, .input,
        Signal.io.signature⟩ := by
  induction names generalizing g with
  | nil => nofun
  | cons name names ih =>
    obtain ⟨hname, hnodup⟩ := List.nodup_cons.1 hnodup
    obtain ⟨hfirst, hfree⟩ := List.forall_mem_cons.1 hfree
    refine List.forall_mem_cons.2 ⟨⟨⟨g.ports.size⟩, ?_⟩, ?_⟩
    · exact (grows_withInputs id names _).declares
        (Graph.Declares.pushPort hfirst)
    · exact ih hnodup (free_after_declareInput hname hfree)

end Build

theorem Router.mem_inputs_withInput {router : Router} {name other : String} :
    other ∈ (router.withInput name).inputs ↔ other ∈ router.inputs
      ∨ other = name := by
  unfold withInput
  split
  · rename_i hname
    refine ⟨.inl, ?_⟩
    rintro (h | rfl)
    · exact h
    · exact hname
  · rw [List.mem_append, List.mem_singleton]

namespace Graph

variable {g : Graph}

/-- The port of a later input is declared before the table has it. -/
theorem InputsDeclared.addRouterInput (h : g.InputsDeclared)
    (router : ComponentId) (name : String) :
    ((Build.addRouterInput router name).on g).2.InputsDeclared := by
  rw [Build.on_addRouterInput]
  cases hfind : g.findPort? router name with
  | some id => exact h
  | none =>
    simp only [Option.isSome_none, Bool.false_eq_true, ↓reduceIte]
    have hport : (g.pushPort _).Declares ⟨g.ports.size⟩
        ⟨router, name, .input, Signal.io.signature⟩ := .pushPort hfind
    have hgrown : (g.pushPort ⟨router, name, .input,
        Signal.io.signature⟩).InputsDeclared :=
      h.of_eq (growsUnbound_pushPort _).grows (inputsOf_pushPort _)
    generalize g.pushPort ⟨router, name, .input, Signal.io.signature⟩ =
      grown at hport hgrown
    cases htable : grown.router router with
    | error fault => exact hgrown
    | ok table =>
      intro r other hother
      -- the new table changes no port, so what the old graph declares is
      -- declared
      suffices hdeclared : ∃ id, grown.Declares id ⟨r, other, .input,
          Signal.io.signature⟩ by
        obtain ⟨id, hid⟩ := hdeclared
        exact ⟨id, hid.exists_port, hid.port_eq, hid.found⟩
      rw [inputsOf_setTable htable] at hother
      by_cases hsame : router = r
      · subst hsame
        rw [if_pos rfl] at hother
        rcases Router.mem_inputs_withInput.1 hother with hold | rfl
        · obtain ⟨exits, hkind⟩ := grown.router_eq_ok_iff.1 htable
          rw [← inputsOf_of_table? (Component.table?_of_kind hkind)] at hold
          exact hgrown router other hold
        · exact ⟨_, hport⟩
      · rw [if_neg hsame] at hother
        exact hgrown r other hother

/-- A router that is added has the ports of all its inputs. -/
theorem InputsDeclared.addRouter (h : g.InputsDeclared) (hclosed : g.Closed)
    {parent : ComponentId} {router : Router} (hinputs : router.inputs.Nodup) :
    ((Build.addRouter parent router).on g).2.InputsDeclared := by
  have hgrows := (Build.addRouter_does parent router).grows g
  rw [Build.on_addRouter hclosed hinputs] at hgrows ⊢
  split
  · exact h
  · rename_i hlook
    rw [if_neg hlook] at hgrows
    intro r name hname
    rw [inputsOf, Build.kind_withInputs] at hname
    change name ∈ (g.pushChild parent router.name _
      (.router router [])).inputsOf r at hname
    rw [inputsOf_pushChild] at hname
    split at hname
    · rename_i hnew
      obtain rfl : r = ⟨g.components.size⟩ := ComponentId.ext hnew
      refine Build.declares_withInputs hinputs (fun n _ => ?_) name hname
      exact hclosed.findPort?_eq_none (Nat.le_refl _) n
    · obtain ⟨id, hid⟩ := h r name hname
      exact ⟨id, hgrows.declares hid⟩

end Graph

namespace Session

variable {s t : Session}

theorem inputsDeclared_after (hs : s.Reachable) {op : Operation}
    (hallows : s.Allows op) (h : s.graph.InputsDeclared) :
    (s.after op).graph.InputsDeclared := by
  rw [graph_after]
  cases op with
  | addRouter parent router =>
    rw [Operation.edit, snd_on_bind_pure]
    exact h.addRouter hs.graph.closed hallows.2.sound.inputs_nodup
  | addRouterInput router name =>
    rw [Operation.edit, snd_on_bind_pure]
    exact h.addRouterInput router name
  | _ => exact h.of_eq (Operation.edit_grows _ _) (Operation.keepsInputs id _)

/-- In every reachable graph, the inputs of routers have their ports. -/
theorem Reachable.inputsDeclared (h : t.Reachable) :
    t.graph.InputsDeclared := by
  obtain ⟨root, hrun⟩ := h
  induction hrun with
  | none => exact .new root
  | step op hrun hallows ih =>
    exact inputsDeclared_after ⟨root, hrun⟩ hallows ih

end Session

end ChipFabric
