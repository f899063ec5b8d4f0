/-
Building by the inventory. `step.Makes s a s'` says that on every graph with
the inventory `s` the step succeeds, gives back `a` and leaves a graph with
the inventory `s'`; if `s` was sound, so is `s'`. The rules below need no
graph any more: whether a step succeeds can be read off the inventory, and
what it adds is a small inventory again. `Makes.bind`, `Makes.forM` and
`Makes.mapM` put steps together; a loop is described by the state after each
part of the row that it has done.
-/
import ChipFabric.Proofs.Fabric.Inventory

namespace ChipFabric

open Edit

def Router.withOutput (table : Router) (name : String) : Router :=
  { table with outputs := table.outputs ++ [name] }

def Router.withMapping (table : Router) (m : Mapping) : Router :=
  { table with mappings := table.mappings ++ [m] }

/-- The router with one more output and a window that leads to it. -/
def Router.withWindow (table : Router) (name : String) (window : Window)
    (rebase : Bool) (attrs : MappingAttrs) : Router :=
  (table.withOutput name).withMapping ⟨window, ⟨table.outputs.length⟩,
    rebase, attrs⟩

section

variable (table : Router) (name : String) (window : Window) (rebase : Bool)
  (attrs : MappingAttrs)

@[simp] theorem Router.outputs_withWindow :
    (table.withWindow name window rebase attrs).outputs = table.outputs
      ++ [name] := rfl

@[simp] theorem Router.mappings_withWindow :
    (table.withWindow name window rebase attrs).mappings =
      table.mappings ++ [⟨window, ⟨table.outputs.length⟩, rebase, attrs⟩] :=
  rfl

end

namespace Build

variable {α β : Type}

/-- The step succeeds on every graph of the one inventory and leaves the
other. -/
def Makes (step : Build α) (s : Inventory) (a : α) (s' : Inventory) : Prop :=
  s.Sound → s'.Sound ∧
    ∀ g : Graph, g.inventory = s → ∃ g', step.on g = (.ok a, g')
      ∧ g'.inventory = s'

-- ====================================================== composition

variable {s s' s'' : Inventory}

theorem Makes.pure (a : α) (s : Inventory) :
    (Pure.pure a : Build α).Makes s a s :=
  fun hs => ⟨hs, fun g hg => ⟨g, rfl, hg⟩⟩

theorem Makes.bind {step : Build α} {next : α → Build β} {a : α} {b : β}
    (h : step.Makes s a s') (hnext : (next a).Makes s' b s'') :
    (step >>= next).Makes s b s'' := by
  intro hs
  obtain ⟨hs', hstep⟩ := h hs
  obtain ⟨hs'', hrest⟩ := hnext hs'
  refine ⟨hs'', fun g hg => ?_⟩
  obtain ⟨g', hon, hg'⟩ := hstep g hg
  obtain ⟨g'', hon', hg''⟩ := hrest g' hg'
  exact ⟨g'', by rw [on_bind, hon, ← hon'], hg''⟩

/-- A step that is right on sound inventories is right. -/
theorem Makes.of_sound {step : Build α} {a : α}
    (h : s.Sound → step.Makes s a s') :
    step.Makes s a s' := fun hs => h hs hs

/-- Only what a step does on the graphs of the inventory counts. -/
theorem Makes.of_on {step other : Build α} {a : α} (h : other.Makes s a s')
    (hon : ∀ g : Graph, g.inventory = s → step.on g = other.on g) :
    step.Makes s a s' := by
  refine fun hs => ⟨(h hs).1, fun g hg => ?_⟩
  rw [hon g hg]
  exact (h hs).2 g hg

theorem Makes.append {step : Build α} {a : α} {t u : Inventory}
    (h : step.Makes s a (s' ++ t ++ u)) : step.Makes s a (s' ++ (t ++ u)) := by
  rwa [Inventory.append_assoc] at h

/-- A row of steps, by the state after each part of the row. -/
theorem Makes.forM {step : α → Build PUnit} {values : List α}
    (state : List α → Inventory)
    (h : ∀ before a after, values = before ++ a :: after →
      (step a).Makes (state before) ⟨⟩ (state (before ++ [a]))) :
    (values.forM step).Makes (state []) ⟨⟩ (state values) := by
  have hrest : ∀ before after, values = before ++ after →
      (after.forM step).Makes (state before) ⟨⟩ (state values) := by
    intro before after hvalues
    induction after generalizing before with
    | nil =>
      rw [hvalues, List.append_nil]
      exact .pure _ _
    | cons a after ih =>
      exact (h before a after hvalues).bind
        (ih (before ++ [a]) (by simpa using hvalues))
  exact hrest [] values rfl

/-- A row of steps, by the state and the results after each part of the
row. -/
theorem Makes.mapM {step : α → Build β} {values : List α}
    (state : List α → Inventory) (results : List α → List β)
    (hnil : results [] = [])
    (h : ∀ before a after, values = before ++ a :: after →
      ∃ b, results (before ++ [a]) = results before ++ [b]
        ∧ (step a).Makes (state before) b (state (before ++ [a]))) :
    (values.mapM step).Makes (state []) (results values) (state values) := by
  have hrest : ∀ before after, values = before ++ after →
      ∃ bs, results values = results before ++ bs
        ∧ (after.mapM step).Makes (state before) bs (state values) := by
    intro before after hvalues
    induction after generalizing before with
    | nil =>
      rw [hvalues, List.append_nil]
      exact ⟨[], (List.append_nil _).symm, .pure _ _⟩
    | cons a after ih =>
      obtain ⟨b, hb, hstep⟩ := h before a after hvalues
      obtain ⟨bs, hbs, hafter⟩ := ih (before ++ [a]) (by simpa using hvalues)
      refine ⟨b :: bs, by rw [hbs, hb, List.append_assoc]; rfl, ?_⟩
      rw [List.mapM_cons]
      exact hstep.bind (hafter.bind (.pure _ _))
  obtain ⟨bs, hbs, hmakes⟩ := hrest [] values rfl
  rw [hnil, List.nil_append] at hbs
  rw [hbs]
  exact hmakes

-- ======================================================= components

/-- Under a path that is free, anything can be added. -/
theorem addComponent_makes {parent : ComponentId} {part : Part} {name : String}
    {kind : ComponentKind} {n : Nat}
    (hparent : s.parts[parent.index]? = some part)
    (hpath : s.LacksPath (part.path ++ "/" ++ name))
    (htable : ∀ table exits, kind = .router table exits → table.Sound)
    (hn : s.parts.length = n) :
    (addComponent parent name kind).Makes s ⟨n⟩
      (s ++ ⟨[⟨part.path ++ "/" ++ name, kind⟩], [], []⟩) := by
  refine fun hs => ⟨hs.pushPart hpath htable, ?_⟩
  rintro g rfl
  obtain ⟨hg, -⟩ := g.component_of_inventory parent hparent
  rw [on_addComponent, hg, g.lookup?_eq_none hpath, g.size_components_eq, hn]
  exact ⟨_, rfl, g.inventory_pushChild _ _ _ _⟩

theorem addGroup_makes {parent : ComponentId} {part : Part}
    {name : String} {n : Nat} (hparent : s.parts[parent.index]? = some part)
    (hpath : s.LacksPath (part.path ++ "/" ++ name))
    (hn : s.parts.length = n) :
    (addGroup parent name).Makes s ⟨n⟩
      (s ++ ⟨[⟨part.path ++ "/" ++ name, .group⟩], [], []⟩) :=
  addComponent_makes hparent hpath nofun hn

theorem addDevice_makes {parent : ComponentId} {part : Part} {name : String}
    {device : Device} {n : Nat} (hparent : s.parts[parent.index]? = some part)
    (hpath : s.LacksPath (part.path ++ "/" ++ name))
    (hn : s.parts.length = n) :
    (addDevice parent name device).Makes s ⟨n⟩
      (s ++ ⟨[⟨part.path ++ "/" ++ name, .device device⟩], [], []⟩) :=
  addComponent_makes hparent hpath nofun hn

-- ============================================================ ports

/-- Under a name that is free on its owner, a port can be declared. -/
theorem declarePort_makes {owner : ComponentId} {name : String} {d : Direction}
    {signature : String} {p : Nat} (howner : owner.index < s.parts.length)
    (hname : s.LacksPort owner name)
    (hp : s.ports.length = p) :
    (declarePort owner name d signature).Makes s ⟨p⟩
      (s ++ ⟨[], [⟨owner, name, d, signature⟩], []⟩) := by
  refine fun hs => ⟨hs.pushPort howner hname, ?_⟩
  rintro g rfl
  rw [on_declarePort, g.findPort?_eq_none hname, g.size_ports_eq, hp]
  exact ⟨_, rfl, g.inventory_pushPort _⟩

theorem declare_makes {owner : ComponentId} {name : String} {d : Direction}
    {signal : Signal} {p : Nat} (howner : owner.index < s.parts.length)
    (hname : s.LacksPort owner name)
    (hp : s.ports.length = p) :
    (declare owner name d signal).Makes s ⟨⟨p⟩⟩
      (s ++ ⟨[], [⟨owner, name, d, signal.signature⟩], []⟩) :=
  (declarePort_makes howner hname hp).bind (.pure _ _)

/-- On the component that was added last only the names of its own ports are
taken. -/
theorem declare_last_makes {t : Inventory} {name : String} {d : Direction}
    {signal : Signal} {n p q : Nat} (hs : s.Sound) (hn : s.parts.length = n)
    (hp : s.ports.length = p) (howner : 0 < t.parts.length)
    (hname : t.LacksPort ⟨n⟩ name) (hq : p + t.ports.length = q) :
    (declare ⟨n⟩ name d signal).Makes (s ++ t) ⟨⟨q⟩⟩
      (s ++ (t ++ ⟨[], [⟨⟨n⟩, name, d, signal.signature⟩], []⟩)) := by
  refine (declare_makes ?_ ?_ ?_).append
  · simp only [Inventory.parts_append, List.length_append, hn]
    omega
  · exact Inventory.lacksPort_append.2
      ⟨hs.lacksPort ⟨n⟩ (Nat.le_of_eq hn) name, hname⟩
  · rw [Inventory.ports_append, List.length_append, hp, hq]

/-- A device that answers comes with its input. -/
theorem addTerminal_makes {parent : ComponentId} {part : Part} {name : String}
    {device : Device} {n p : Nat}
    (hparent : s.parts[parent.index]? = some part)
    (hpath : s.LacksPath (part.path ++ "/" ++ name)) (hn : s.parts.length = n)
    (hp : s.ports.length = p) :
    (addTerminal parent name device).Makes s (⟨n⟩, ⟨⟨p⟩⟩)
      (s ++ .terminal n (part.path ++ "/" ++ name) device) := by
  refine .of_sound fun hs => (addDevice_makes hparent hpath hn).bind ?_
  have hname := hs.lacksPort ⟨n⟩ (Nat.le_of_eq hn) Router.defaultInput
  have hinput : (declare ⟨n⟩ Router.defaultInput .input .io).Makes
      (s ++ ⟨[⟨part.path ++ "/" ++ name, .device device⟩], [], []⟩) ⟨⟨p⟩⟩ _ :=
    declare_makes (by simp [hn]) (Inventory.lacksPort_append.2 ⟨hname, nofun⟩)
      (by simpa using hp)
  exact hinput.append.bind (.pure _ _)

-- ============================================================ routers

/-- A new router comes with its default input. -/
theorem addRouter_makes {parent : ComponentId} {part : Part} {name : String}
    {bandwidth n p : Nat} (hparent : s.parts[parent.index]? = some part)
    (hpath : s.LacksPath (part.path ++ "/" ++ name)) (hn : s.parts.length = n)
    (hp : s.ports.length = p) :
    (addRouter parent (.new name bandwidth)).Makes s ⟨n⟩
      (s ++ .newRouter n (part.path ++ "/" ++ name) name bandwidth) := by
  have hsound : ∀ table exits, ComponentKind.router (.new name bandwidth) [] =
      .router table exits →
      table.Sound := by
    rintro table exits ⟨⟩
    exact (Router.Made.new name bandwidth).sound
  refine .of_sound fun hs =>
    (addComponent_makes hparent hpath hsound hn).bind ?_
  have hname := hs.lacksPort ⟨n⟩ (Nat.le_of_eq hn) Router.defaultInput
  have hinput :
      (declarePort ⟨n⟩ Router.defaultInput .input Signal.io.signature).Makes
      (s ++ ⟨[⟨part.path ++ "/" ++ name, .router (.new name bandwidth) []⟩],
        [], []⟩) ⟨p⟩ _ :=
    declarePort_makes (by simp [hn])
      (Inventory.lacksPort_append.2 ⟨hname, nofun⟩) (by simpa using hp)
  -- the loop over the inputs of the router is one over its default input
  exact Makes.bind ((hinput.append.bind (.pure () _)).bind (.pure () _))
    (.pure _ _)

/-- What the graph says about a router of the inventory. -/
theorem router_of_inventory {router : ComponentId} {path : String}
    {table : Router} {exits : List PortId} {g : Graph}
    (h : g.inventory.parts[router.index]? = some ⟨path, .router table exits⟩) :
    (g.component router).kind = .router table exits
      ∧ g.router router = .ok table := by
  obtain ⟨-, hkind⟩ := g.component_of_inventory router h
  exact ⟨hkind, g.router_eq_ok_iff.2 ⟨exits, hkind⟩⟩

theorem routerInput_makes {router : ComponentId} {path name signature : String}
    {table : Router} {exits : List PortId} {p : Nat}
    (hrouter : s.parts[router.index]? = some ⟨path, .router table exits⟩)
    (hport : s.ports[p]? = some ⟨router, name, .input, signature⟩) :
    (routerInput router name).Makes s ⟨⟨p⟩⟩ s := by
  refine fun hs => ⟨hs, ?_⟩
  rintro g rfl
  obtain ⟨-, htable⟩ := router_of_inventory hrouter
  have hfind := g.findPort?_of_sound hs ⟨p⟩ hport
  have hdir := g.port_of_inventory ⟨p⟩ hport
  rw [on_routerInput, htable, ok_bind]
  simp only at hfind
  exact ⟨g, by simp only [hfind, hdir, ↓reduceIte], rfl⟩

theorem addRouterInput_makes {router : ComponentId} {path name : String}
    {table : Router} {exits : List PortId} {p : Nat}
    (hrouter : s.parts[router.index]? = some ⟨path, .router table exits⟩)
    (hname : s.LacksPort router name)
    (hp : s.ports.length = p) :
    (addRouterInput router name).Makes s ⟨⟨p⟩⟩
      (s.withKind router (.router (table.withInput name) exits)
        ++ ⟨[], [⟨router, name, .input, Signal.io.signature⟩], []⟩) := by
  intro hs
  have hlt : router.index < s.parts.length :=
    (List.getElem?_eq_some_iff.1 hrouter).1
  constructor
  · refine (hs.withKind router ?_).pushPort (by simpa using hlt) hname
    rintro _ _ ⟨⟩
    exact (hs.tables _ (List.mem_of_getElem? hrouter) _ _ rfl).withInput name
  · rintro g rfl
    obtain ⟨hkind, -⟩ := router_of_inventory hrouter
    have hgrown :=
      (g.kind_pushPort router ⟨router, name, .input,
        Signal.io.signature⟩).trans hkind
    rw [on_addRouterInput_of_router hkind (g.findPort?_eq_none hname),
      g.size_ports_eq, hp]
    refine ⟨_, rfl, ?_⟩
    rw [Graph.inventory_setTable hgrown, Graph.inventory_pushPort,
      Inventory.withKind_append]

theorem addRouterOutput_makes {router : ComponentId} {path name : String}
    {table : Router} {exits : List PortId} {p : Nat}
    (hrouter : s.parts[router.index]? = some ⟨path, .router table exits⟩)
    (hout : name ∉ table.outputs)
    (hname : s.LacksPort router name)
    (hp : s.ports.length = p) :
    (addRouterOutput router name).Makes s (⟨table.outputs.length⟩, ⟨⟨p⟩⟩)
      (s.withKind router (.router (table.withOutput name) (exits ++ [⟨p⟩]))
        ++ ⟨[], [⟨router, name, .output, Signal.io.signature⟩], []⟩) := by
  have hstep : table.declareOutput name = .ok (⟨table.outputs.length⟩,
      table.withOutput name) :=
    Router.declareOutput_eq_ok_iff.2 ⟨hout, rfl, rfl⟩
  have hlt : router.index < s.parts.length :=
    (List.getElem?_eq_some_iff.1 hrouter).1
  intro hs
  constructor
  · refine (hs.withKind router ?_).pushPort (by simpa using hlt) hname
    rintro _ _ ⟨⟩
    exact (hs.tables _ (List.mem_of_getElem? hrouter) _ _ rfl).declareOutput
      hstep
  · rintro g rfl
    obtain ⟨hkind, htable⟩ := router_of_inventory hrouter
    rw [on_addRouterOutput, g.findPort?_eq_none hname]
    simp only [htable, ok_bind, hstep, g.size_ports_eq, hp]
    refine ⟨_, rfl, ?_⟩
    have hset := g.kind_setTable_self hkind (table.withOutput name)
    rw [Graph.inventory_pushExit ((Graph.kind_pushPort _ _ _).trans hset),
      Graph.inventory_pushPort, Graph.inventory_setTable hkind,
        Inventory.withKind_append,
      Inventory.withKind_withKind]

theorem addMapping_makes {router : ComponentId} {path : String}
    {table : Router} {exits : List PortId} {m : Mapping}
    (hrouter : s.parts[router.index]? = some ⟨path, .router table exits⟩)
    (hport : m.port.index < table.outputs.length)
    (hfree : ∀ other ∈ table.mappings, ¬ other.window.Overlaps m.window) :
    (addMapping router m).Makes s ⟨⟩
      (s.withKind router (.router (table.withMapping m) exits)) := by
  have hstep : table.addMapping m = .ok (table.withMapping m) :=
    Router.addMapping_eq_ok_iff.2
      ⟨hport, Router.checkFree_of_disjoint hfree, rfl⟩
  intro hs
  constructor
  · apply hs.withKind router
    rintro _ _ ⟨⟩
    exact (hs.tables _ (List.mem_of_getElem? hrouter) _ _ rfl).addMapping hstep
  · rintro g rfl
    obtain ⟨hkind, htable⟩ := router_of_inventory hrouter
    rw [on_addMapping, htable, ok_bind, hstep]
    exact ⟨_, rfl, Graph.inventory_setTable hkind _⟩

-- =========================================================== bindings

theorem modify_pushBinding_makes {source target : PortId}
    (hsource : source.index < s.ports.length)
    (htarget : target.index < s.ports.length) :
    Makes (modify (·.pushBinding source target)) s ⟨⟩
      (s ++ ⟨[], [], [⟨source, target⟩]⟩) := by
  refine fun hs => ⟨hs.pushBinding hsource htarget, ?_⟩
  rintro g rfl
  exact ⟨_, rfl, g.inventory_pushBinding _ _⟩

theorem bind_makes {signal : Signal} {d e : Direction} [d.Source] [e.Sink]
    {source : Handle d signal} {target : Handle e signal}
    (hsource : source.port.index < s.ports.length)
    (htarget : target.port.index < s.ports.length) :
    (Build.bind source target).Makes s ⟨⟩
      (s ++ ⟨[], [], [⟨source.port, target.port⟩]⟩) :=
  modify_pushBinding_makes hsource htarget

/-- A window that is free is added under a name that is free. -/
theorem addWindow_makes {direction : Direction} {router : ComponentId}
    {path name : String} {target : Handle direction .io} {window : Window}
    {rebase : Bool} {attrs : MappingAttrs} {table : Router}
    {exits : List PortId} {p : Nat}
    (hrouter : s.parts[router.index]? = some ⟨path, .router table exits⟩)
    (hfree : ∀ m ∈ table.mappings, ¬ m.window.Overlaps window)
    (hout : name ∉ table.outputs) (hname : s.LacksPort router name)
    (htarget : target.port.index < s.ports.length) (hp : s.ports.length = p) :
    (addWindow router name target window rebase attrs).Makes s ⟨⟨p⟩⟩
      (s.withKind router
        (.router (table.withWindow name window rebase attrs) (exits ++ [⟨p⟩]))
        ++ ⟨[], [⟨router, name, .output, Signal.io.signature⟩],
          [⟨⟨p⟩, target.port⟩]⟩) := by
  have houtput := addRouterOutput_makes hrouter hout hname hp
  have hrouter' :
      (s.withKind router (.router (table.withOutput name) (exits ++ [⟨p⟩]))
        ++ ⟨[], [⟨router, name, .output, Signal.io.signature⟩],
          []⟩).parts[router.index]? =
          some ⟨path, .router (table.withOutput name) (exits ++ [⟨p⟩])⟩ := by
    simpa using s.getElem?_withKind hrouter _
  have hmapping :=
    addMapping_makes (m := ⟨window, ⟨table.outputs.length⟩, rebase, attrs⟩)
    hrouter' (by simp [Router.withOutput]) hfree
  rw [Inventory.withKind_append, Inventory.withKind_withKind] at hmapping
  have hbinding : Makes (modify (·.pushBinding ⟨p⟩ target.port))
      (s.withKind router
        (.router (table.withWindow name window rebase attrs) (exits ++ [⟨p⟩]))
        ++ ⟨[], [⟨router, name, .output, Signal.io.signature⟩], []⟩) ⟨⟩
      (s.withKind router
        (.router (table.withWindow name window rebase attrs) (exits ++ [⟨p⟩]))
        ++ ⟨[], [⟨router, name, .output, Signal.io.signature⟩], []⟩
        ++ ⟨[], [], [⟨⟨p⟩, target.port⟩]⟩) := by
    have hp' : (s.withKind router
        (.router (table.withWindow name window rebase attrs)
          (exits ++ [⟨p⟩]))).ports.length = p := hp
    apply modify_pushBinding_makes
    · simp [hp']
    · simp only [Inventory.ports_append, List.length_append]
      exact Nat.lt_add_right _ htarget
  rw [Inventory.append_assoc] at hbinding
  exact houtput.bind (hmapping.bind (hbinding.bind (.pure _ _)))

/-- It can be mapped to a port that receives. -/
theorem mapWindow_makes {direction : Direction} {router : ComponentId}
    {path name : String} {target : Handle direction .io} {window : Window}
    {rebase : Bool} {attrs : MappingAttrs} {table : Router}
    {exits : List PortId} {port : Port} {p : Nat}
    (hrouter : s.parts[router.index]? = some ⟨path, .router table exits⟩)
    (hfree : ∀ m ∈ table.mappings, ¬ m.window.Overlaps window)
    (hout : name ∉ table.outputs) (hname : s.LacksPort router name)
    (htarget : s.ports[target.port.index]? = some port)
    (hsink : port.direction.isSink) (hp : s.ports.length = p) :
    (mapWindow router name target window rebase attrs).Makes s ⟨⟨p⟩⟩
      (s.withKind router
        (.router (table.withWindow name window rebase attrs) (exits ++ [⟨p⟩]))
        ++ ⟨[], [⟨router, name, .output, Signal.io.signature⟩],
          [⟨⟨p⟩, target.port⟩]⟩) := by
  have hlt := (List.getElem?_eq_some_iff.1 htarget).1
  refine (addWindow_makes hrouter hfree hout hname hlt hp).of_on fun g hg => ?_
  subst hg
  obtain ⟨-, htable⟩ := router_of_inventory hrouter
  rw [on_mapWindow, htable, ok_bind, Router.checkFree_of_disjoint hfree,
    g.port_of_inventory target.port htarget]
  simp [hsink]

/-- Ports that are there and fit together can be bound by their names. -/
theorem bindByName_makes {source target : Port} {p q : Nat}
    (hsource : s.ports[p]? = some source) (htarget : s.ports[q]? = some target)
    (hissues : source.direction.isSource) (hreceives : target.direction.isSink)
    (hsignature : source.signature = target.signature) :
    (bindByName source.owner source.name target.owner target.name).Makes s ⟨⟩
      (s ++ ⟨[], [], [⟨⟨p⟩, ⟨q⟩⟩]⟩) := by
  intro hs
  constructor
  · exact hs.pushBinding (List.getElem?_eq_some_iff.1 hsource).1
      (List.getElem?_eq_some_iff.1 htarget).1
  · rintro g rfl
    have hports : (bindPorts ⟨p⟩ ⟨q⟩).on g =
        (.ok (), g.pushBinding ⟨p⟩ ⟨q⟩) := by
      rw [on_bindPorts, g.port_of_inventory ⟨p⟩ hsource,
        g.port_of_inventory ⟨q⟩ htarget]
      simp [hissues, hreceives, hsignature]
    refine ⟨_, ?_, g.inventory_pushBinding _ _⟩
    simp only [bindByName, on_bind, on_get, on_liftExcept, Graph.requirePort,
      g.findPort?_of_sound hs ⟨p⟩ hsource, g.findPort?_of_sound hs ⟨q⟩ htarget,
      hports]

end Build

end ChipFabric
