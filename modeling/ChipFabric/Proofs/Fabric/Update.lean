/-
What building steps do, whatever they are given. A step may be told to work
on a component or a port that is not there, with a handle that nobody handed
out; it still does nothing but a row of the six updates below. `Change` asks
what an update names to exist, and `Update` does not.

# One walk through the steps

`Operation.MayDo` names the updates of each operation, with the components
that they are entered on: those that the operation was given, and the one
that it has just added. `Build.Does` says that a step keeps to them, and
there is one lemma for each step. What every one of these updates does to a
graph, a step then does as well (`Build.Does.within`), so that no other
property has to look into the steps again: that graphs grow, that bindings
are only made by binding, that outputs keep their exits, tables their inputs,
and other components all they have.
-/
import ChipFabric.Proofs.Fabric.Session

namespace ChipFabric

open Edit

-- ============================================================ updates

/-- One thing that a step can do to a graph. -/
inductive Update where
  | child (parent : ComponentId) (name : String) (kind : ComponentKind)
  | port (port : Port)
  | input (router : ComponentId) (name : String)
  /-- An output of a table, with its port and its exit. -/
  | output (router : ComponentId) (name : String)
  | mapping (router : ComponentId) (m : Mapping)
  | binding (source target : PortId)

namespace Update

/-- What the update makes of a graph. It finds a router where it needs one,
and asks for nothing else to be there. -/
inductive Does (g : Graph) : Update → Graph → Prop
  | child (parent : ComponentId) (name : String) (kind : ComponentKind) :
      Does g (.child parent name kind)
        (g.pushChild parent name (g.path parent ++ "/" ++ name) kind)
  | port (port : Port) : Does g (.port port) (g.pushPort port)
  | input {r : ComponentId} {table : Router} {exits : List PortId}
      (name : String) (hkind : (g.component r).kind = .router table exits) :
      Does g (.input r name) (g.setTable r (table.withInput name))
  | output {r : ComponentId} {table extended : Router} {exits : List PortId}
      {name : String} {port : RouterPort}
      (hkind : (g.component r).kind = .router table exits)
      (hfree : g.findPort? r name = none)
      (hstep : table.declareOutput name = .ok (port, extended)) :
      Does g (.output r name) (((g.setTable r extended).pushPort
        ⟨r, name, .output, Signal.io.signature⟩).pushExit r ⟨g.ports.size⟩)
  | mapping {r : ComponentId} {table extended : Router} {exits : List PortId}
      {m : Mapping} (hkind : (g.component r).kind = .router table exits)
      (hstep : table.addMapping m = .ok extended) :
      Does g (.mapping r m) (g.setTable r extended)
  | binding (source target : PortId) :
      Does g (.binding source target) (g.pushBinding source target)

end Update

/-- A row of updates, all of them among those that are given. -/
def Graph.Updates (ok : Update → Prop) : Graph → Graph → Prop :=
  Relation.ReflTransGen fun g g' => ∃ u, ok u ∧ u.Does g g'

/-- What each update does to every graph, a row of them does. -/
theorem Graph.Updates.within {ok : Update → Prop} {rel : Graph → Graph → Prop}
    [IsPreorder Graph rel] {g g' : Graph} (h : g.Updates ok g')
    (hrel : ∀ u g g', ok u → u.Does g g' → rel g g') : rel g g' := by
  induction h with
  | refl => exact refl_of rel g
  | tail _ hstep ih =>
    obtain ⟨u, hu, hdoes⟩ := hstep
    exact trans_of rel ih (hrel u _ _ hu hdoes)

-- ============================================================== rules

namespace Build

variable {α β : Type}

/-- Whatever graph the step is done to, the one it leaves is so related to
it. -/
def Within (rel : Graph → Graph → Prop) (step : Build α) : Prop :=
  ∀ g : Graph, rel g (step.on g).2

section

variable {rel : Graph → Graph → Prop} [IsPreorder Graph rel]

theorem Within.pure (a : α) : (Pure.pure a : Build α).Within rel :=
  fun g => refl_of rel g

/-- Where the first step fails, it is all that was done. -/
theorem Within.bind {step : Build α} {next : α → Build β}
    (h : step.Within rel) (hnext : ∀ a, (next a).Within rel) :
    (step >>= next).Within rel := by
  intro g
  have hstep := h g
  rw [on_bind]
  generalize step.on g = outcome at hstep
  obtain ⟨_ | a, g'⟩ := outcome
  · exact hstep
  · exact trans_of rel hstep (hnext a g')

theorem Within.forM {step : α → Build Unit} (h : ∀ a, (step a).Within rel)
    (values : List α) : (values.forM step).Within rel := by
  induction values with
  | nil => exact .pure _
  | cons a values ih => exact (h a).bind fun _ => ih

end

/-- What succeeded within a relation is so related. -/
theorem Within.of_on_eq {rel : Graph → Graph → Prop} {step : Build α}
    (h : step.Within rel) {g g' : Graph} {outcome : Except Fault α}
    (hon : step.on g = (outcome, g')) : rel g g' := by
  have hrel := h g
  rwa [hon] at hrel

/-- On this graph, the step does a row of such updates. -/
def Updates (step : Build α) (ok : Update → Prop) (g : Graph) : Prop :=
  g.Updates ok (step.on g).2

variable {ok : Update → Prop} {g g' : Graph}

/-- A step that leaves the graph as it is does no update. -/
theorem Updates.of_unchanged {step : Build α} (h : (step.on g).2 = g) :
    step.Updates ok g := by
  rw [Updates, h]
  exact .refl

theorem Updates.single {step : Build α} {u : Update} (hu : ok u)
    (h : u.Does g (step.on g).2) : step.Updates ok g :=
  Relation.ReflTransGen.single ⟨u, hu, h⟩

theorem Updates.pure (a : α) : (Pure.pure a : Build α).Updates ok g :=
  .of_unchanged rfl

/-- The next step goes on from the graph that the first one left, if that
succeeded. -/
theorem Updates.bind {step : Build α} {next : α → Build β}
    (h : step.Updates ok g)
    (hnext : ∀ a g', step.on g = (.ok a, g') → (next a).Updates ok g') :
    (step >>= next).Updates ok g := by
  unfold Updates at h ⊢
  rw [on_bind]
  rcases hon : step.on g with ⟨_ | a, g'⟩
  · rwa [hon] at h
  · rw [hon] at h
    exact Relation.ReflTransGen.trans h (hnext a g' hon)

theorem Updates.forM {step : α → Build Unit} {values : List α}
    (h : ∀ a ∈ values, ∀ g, (step a).Updates ok g) :
    (values.forM step).Updates ok g := by
  induction values generalizing g with
  | nil => exact .pure _
  | cons a values ih =>
    obtain ⟨ha, hvalues⟩ := List.forall_mem_cons.1 h
    exact (ha g).bind fun _ _ _ => ih hvalues

-- ===================================================== single updates

/-- A component is added unless its path is taken. -/
theorem addComponent_updates {parent : ComponentId} {name : String}
    {kind : ComponentKind} (hok : ok (.child parent name kind)) :
    (addComponent parent name kind).Updates ok g := by
  unfold Updates
  rw [on_addComponent]
  split
  · exact .refl
  · exact .single ⟨_, hok, .child parent name kind⟩

/-- The component that is added has the next number. -/
theorem eq_of_addComponent {parent id : ComponentId} {name : String}
    {kind : ComponentKind}
    (h : (addComponent parent name kind).on g = (.ok id, g')) :
    id = ⟨g.components.size⟩ := by
  rw [on_addComponent] at h
  split at h
  · cases h
  · cases h
    rfl

/-- A port is declared unless its name is taken on the owner. -/
theorem declarePort_updates {owner : ComponentId} {name : String}
    {d : Direction} {signature : String}
    (hok : ok (.port ⟨owner, name, d, signature⟩)) :
    (declarePort owner name d signature).Updates ok g := by
  unfold Updates
  rw [on_declarePort]
  split
  · exact .refl
  · exact .single ⟨_, hok, .port _⟩

theorem declare_updates {owner : ComponentId} {name : String} {d : Direction}
    {signal : Signal} (hok : ok (.port ⟨owner, name, d, signal.signature⟩)) :
    (declare owner name d signal).Updates ok g :=
  (declarePort_updates hok).bind fun _ _ _ => .pure _

/-- The inputs of a router that is added, each a port of it. -/
theorem declareInputs_updates (id : ComponentId) (names : List String)
    (hok : ∀ name ∈ names,
      ok (.port ⟨id, name, .input, Signal.io.signature⟩)) :
    (names.forM fun name => do
      let _ ← declarePort id name .input Signal.io.signature).Updates ok g :=
  .forM fun name hname _ =>
    (declarePort_updates (hok name hname)).bind fun _ _ _ => .pure _

/-- Table, port and exit of an output come at once or not at all. -/
theorem addRouterOutput_updates {router : ComponentId} {name : String}
    (hok : ok (.output router name)) :
    (addRouterOutput router name).Updates ok g := by
  unfold Updates
  rw [on_addRouterOutput]
  split
  · exact .refl
  rename_i hfree
  rw [Option.not_isSome_iff_eq_none] at hfree
  cases htable : g.router router with
  | error fault => exact .refl
  | ok table =>
    obtain ⟨exits, hkind⟩ := g.router_eq_ok_iff.1 htable
    rw [ok_bind]
    cases hout : table.declareOutput name with
    | error fault => exact .refl
    | ok made => exact .single ⟨_, hok, .output hkind hfree hout⟩

/-- A mapping that the table refuses is not entered. -/
theorem addMapping_updates {router : ComponentId} {m : Mapping}
    (hok : ok (.mapping router m)) : (addMapping router m).Updates ok g := by
  unfold Updates
  rw [on_addMapping]
  cases htable : g.router router with
  | error fault => exact .refl
  | ok table =>
    obtain ⟨exits, hkind⟩ := g.router_eq_ok_iff.1 htable
    rw [ok_bind]
    cases hadd : table.addMapping m with
    | error fault => exact .refl
    | ok extended => exact .single ⟨_, hok, .mapping hkind hadd⟩

/-- Ports are bound or, if they do not fit, nothing is. -/
theorem bindPorts_updates {source target : PortId}
    (hok : ok (.binding source target)) :
    (bindPorts source target).Updates ok g := by
  unfold Updates
  rw [on_bindPorts]
  split
  · exact .refl
  split
  · exact .refl
  split
  · exact .refl
  · exact .single ⟨_, hok, .binding source target⟩

end Build

-- ========================================================= operations

/-- The updates that an operation may do to a graph. -/
def Operation.MayDo (g : Graph) : Operation → Update → Prop
  | .addGroup parent name, u => u = .child parent name .group
  | .addDevice parent name device, u => u = .child parent name (.device device)
  | .addTerminal parent name device, u =>
    u = .child parent name (.device device)
      ∨ u = .port ⟨⟨g.components.size⟩, Router.defaultInput, .input,
          Signal.io.signature⟩
  | .addRouter parent router, u =>
    u = .child parent router.name (.router router [])
      ∨ ∃ name, u = .port ⟨⟨g.components.size⟩, name, .input,
          Signal.io.signature⟩
  | .declarePort owner name d signature, u =>
    u = .port ⟨owner, name, d, signature⟩
  | .declare owner name d signal, u =>
    u = .port ⟨owner, name, d, signal.signature⟩
  | .routerInput _ _, _ => False
  | .addRouterInput router name, u =>
    u = .port ⟨router, name, .input, Signal.io.signature⟩
      ∨ u = .input router name
  | .addRouterOutput router name, u => u = .output router name
  | .addMapping router m, u => u = .mapping router m
  | .mapWindow router name target window rebase attrs, u =>
    u = .output router name
      ∨ (∃ port, u = .mapping router { window, port, rebase, attrs })
      ∨ ∃ source, u = .binding source target.port
  | @Operation.bind _ _ _ _ _ source target, u =>
    u = .binding source.port target.port
  | .bindPorts source target, u => u = .binding source target
  | .bindByName _ _ _ _, u => ∃ source target, u = .binding source target

namespace Build

variable {α : Type}

/-- Whatever graph the step is done to, it does no updates but those of the
operation. -/
def Does (step : Build α) (op : Operation) : Prop :=
  ∀ g : Graph, step.Updates (op.MayDo g) g

/-- What all updates of an operation do to every graph, a step that does no
other ones does. -/
theorem Does.within {step : Build α} {op : Operation} (h : step.Does op)
    {rel : Graph → Graph → Prop} [IsPreorder Graph rel]
    (hrel : ∀ g₀ u g g', op.MayDo g₀ u → u.Does g g' → rel g g') :
    step.Within rel :=
  fun g => (h g).within (hrel g)

theorem addGroup_does (parent : ComponentId) (name : String) :
    (addGroup parent name).Does (.addGroup parent name) :=
  fun _ => addComponent_updates rfl

theorem addDevice_does (parent : ComponentId) (name : String)
    (device : Device) :
    (addDevice parent name device).Does (.addDevice parent name device) :=
  fun _ => addComponent_updates rfl

/-- The device may be left without its port, where that is refused. -/
theorem addTerminal_does (parent : ComponentId) (name : String)
    (device : Device) :
    (addTerminal parent name device).Does
      (.addTerminal parent name device) := by
  intro g
  refine (addComponent_updates (.inl rfl)).bind fun id g' hon => ?_
  obtain rfl := eq_of_addComponent hon
  exact (declare_updates (.inr rfl)).bind fun _ _ _ => .pure _

/-- The ports are those of the new router, whichever of them are refused. -/
theorem addRouter_does (parent : ComponentId) (router : Router) :
    (addRouter parent router).Does (.addRouter parent router) := by
  intro g
  refine (addComponent_updates (.inl rfl)).bind fun id g' hon => ?_
  obtain rfl := eq_of_addComponent hon
  refine (declareInputs_updates _ _ fun name _ => ?_).bind fun _ _ _ => .pure _
  exact .inr ⟨name, rfl⟩

theorem declarePort_does (owner : ComponentId) (name : String) (d : Direction)
    (signature : String) :
    (declarePort owner name d signature).Does
      (.declarePort owner name d signature) :=
  fun _ => declarePort_updates rfl

theorem declare_does (owner : ComponentId) (name : String) (d : Direction)
    (signal : Signal) :
    (declare owner name d signal).Does (.declare owner name d signal) :=
  fun _ => declare_updates rfl

theorem routerInput_does (router : ComponentId) (name : String) :
    (routerInput router name).Does (.routerInput router name) := by
  intro g
  apply Updates.of_unchanged
  rw [on_routerInput]

/-- The port is declared before the table is asked for, which may not be
there. -/
theorem addRouterInput_does (router : ComponentId) (name : String) :
    (addRouterInput router name).Does (.addRouterInput router name) := by
  intro g
  refine (declare_updates (.inl rfl)).bind fun input g' _ => ?_
  unfold Updates
  cases htable : g'.router router with
  | error fault =>
    simp only [on_bind, on_get, on_liftExcept, htable]
    exact .refl
  | ok table =>
    obtain ⟨exits, hkind⟩ := g'.router_eq_ok_iff.1 htable
    simp only [on_bind, on_get, on_liftExcept, htable, on_modify, on_pure]
    exact .single ⟨_, .inr rfl, .input name hkind⟩

theorem addRouterOutput_does (router : ComponentId) (name : String) :
    (addRouterOutput router name).Does (.addRouterOutput router name) :=
  fun _ => addRouterOutput_updates rfl

theorem addMapping_does (router : ComponentId) (m : Mapping) :
    (addMapping router m).Does (.addMapping router m) :=
  fun _ => addMapping_updates rfl

/-- Whatever is refused, what was done before it is part of a window. -/
theorem mapWindow_does {d : Direction} (router : ComponentId) (name : String)
    (target : Handle d .io) (window : Window) (rebase : Bool)
    (attrs : MappingAttrs) :
    (mapWindow router name target window rebase attrs).Does
      (.mapWindow router name target window rebase attrs) := by
  intro g
  unfold Updates
  rw [on_mapWindow]
  split
  · exact .refl
  split
  · exact .refl
  · refine (addRouterOutput_updates (.inl rfl)).bind fun made g' _ => ?_
    refine (addMapping_updates (.inr (.inl ⟨made.1, rfl⟩))).bind
      fun _ g'' _ => ?_
    exact .single (.inr (.inr ⟨_, rfl⟩)) (.binding made.2.port target.port)

theorem bind_does {signal : Signal} {d e : Direction} [d.Source] [e.Sink]
    (source : Handle d signal) (target : Handle e signal) :
    (Build.bind source target).Does (.bind source target) :=
  fun _ => .single rfl (.binding source.port target.port)

theorem bindPorts_does (source target : PortId) :
    (bindPorts source target).Does (.bindPorts source target) :=
  fun _ => bindPorts_updates rfl

/-- Which ports are bound is up to the search for the names. -/
theorem bindByName_does (source : ComponentId) (sourcePort : String)
    (target : ComponentId) (targetPort : String) :
    (bindByName source sourcePort target targetPort).Does
      (.bindByName source sourcePort target targetPort) := by
  intro g
  unfold Updates
  rw [on_bindByName]
  cases g.requirePort source sourcePort with
  | error fault => exact .refl
  | ok sourceId =>
    cases g.requirePort target targetPort with
    | error fault => exact .refl
    | ok targetId => exact bindPorts_updates ⟨sourceId, targetId, rfl⟩

/-- To give back something else is no update. -/
theorem Does.bind_pure {β : Type} {step : Build α} {op : Operation}
    (h : step.Does op) (f : α → β) :
    (step >>= fun a => Pure.pure (f a)).Does op :=
  fun g => (h g).bind fun _ _ _ => .pure _

end Build

/-- Every operation keeps to its updates. -/
theorem Operation.edit_does (op : Operation) : op.edit.Does op := by
  cases op with
  | addGroup parent name => exact (Build.addGroup_does parent name).bind_pure _
  | addDevice parent name device =>
    exact (Build.addDevice_does parent name device).bind_pure _
  | addTerminal parent name device =>
    exact (Build.addTerminal_does parent name device).bind_pure _
  | addRouter parent router =>
    exact (Build.addRouter_does parent router).bind_pure _
  | declarePort owner name d signature =>
    exact (Build.declarePort_does owner name d signature).bind_pure _
  | declare owner name d signal =>
    exact (Build.declare_does owner name d signal).bind_pure _
  | routerInput router name =>
    exact (Build.routerInput_does router name).bind_pure _
  | addRouterInput router name =>
    exact (Build.addRouterInput_does router name).bind_pure _
  | addRouterOutput router name =>
    exact (Build.addRouterOutput_does router name).bind_pure _
  | addMapping router m => exact (Build.addMapping_does router m).bind_pure _
  | mapWindow router name target window rebase attrs =>
    exact (Build.mapWindow_does router name target window rebase
      attrs).bind_pure _
  | bind source target => exact (Build.bind_does source target).bind_pure _
  | bindPorts source target =>
    exact (Build.bindPorts_does source target).bind_pure _
  | bindByName source sourcePort target targetPort =>
    exact (Build.bindByName_does source sourcePort target targetPort).bind_pure
      _

end ChipFabric
