/-
What building steps do to a graph: the outcome and the graph that is left,
as one equation for a step. A step that can only fail before its first
change shows the old graph beside each fault; of the steps here only
`addRouterInput` has one beside which a changed graph stands.
-/
import ChipFabric.Fabric.Build
import ChipFabric.Fabric.Graph.Lemmas

namespace ChipFabric

open Edit

-- ============================================================== steps

namespace Build

/-- A component is refused for its path, and for nothing else. -/
theorem on_addComponent (parent : ComponentId) (name : String)
    (kind : ComponentKind) (g : Graph) :
    (addComponent parent name kind).on g =
      if (g.lookup? (g.path parent ++ "/" ++ name)).isSome then
        (.error (.duplicateComponent (g.path parent ++ "/" ++ name)), g)
      else
        (.ok ⟨g.components.size⟩,
          g.pushChild parent name (g.path parent ++ "/" ++ name) kind) := by
  simp only [addComponent, on_bind, on_get]
  split <;> simp

/-- A port is refused for its name; its owner is not asked for. -/
theorem on_declarePort (owner : ComponentId) (name : String) (d : Direction)
    (signature : String) (g : Graph) :
    (declarePort owner name d signature).on g =
      if (g.findPort? owner name).isSome then
        (.error (.duplicatePort (g.path owner) name), g)
      else
        (.ok ⟨g.ports.size⟩, g.pushPort ⟨owner, name, d, signature⟩) := by
  simp only [declarePort, on_bind, on_get]
  split <;> simp

theorem on_declare (owner : ComponentId) (name : String) (d : Direction)
    (s : Signal) (g : Graph) :
    (declare owner name d s).on g =
      if (g.findPort? owner name).isSome then
        (.error (.duplicatePort (g.path owner) name), g)
      else
        (.ok ⟨⟨g.ports.size⟩⟩, g.pushPort ⟨owner, name, d, s.signature⟩) := by
  simp only [declare, on_bind, on_declarePort]
  by_cases h : (g.findPort? owner name).isSome <;> simp [h]

/-- The port is there before the table is looked for, and stays where there
is no table. -/
theorem on_addRouterInput (router : ComponentId) (name : String) (g : Graph) :
    (addRouterInput router name).on g =
      if (g.findPort? router name).isSome then
        (.error (.duplicatePort (g.path router) name), g)
      else
        let grown := g.pushPort ⟨router, name, .input, Signal.io.signature⟩
        match grown.router router with
        | .error fault => (.error fault, grown)
        | .ok table =>
          (.ok ⟨⟨g.ports.size⟩⟩,
            grown.setTable router (table.withInput name)) := by
  simp only [addRouterInput, on_bind, on_declare]
  by_cases h : (g.findPort? router name).isSome
  · simp [h]
  · simp only [h, Bool.false_eq_true, ↓reduceIte, on_get, on_liftExcept]
    cases (g.pushPort ⟨router, name, .input, Signal.io.signature⟩).router
      router <;> simp

/-- On a router only the name can be refused. -/
theorem on_addRouterInput_of_router {router : ComponentId} {name : String}
    {g : Graph} {table : Router} {exits : List PortId}
    (hkind : (g.component router).kind = .router table exits)
    (hfree : g.findPort? router name = none) :
    (addRouterInput router name).on g = (.ok ⟨⟨g.ports.size⟩⟩,
      (g.pushPort ⟨router, name, .input, Signal.io.signature⟩).setTable router
        (table.withInput name)) := by
  have hgrown :=
    (g.kind_pushPort router ⟨router, name, .input, Signal.io.signature⟩).trans
      hkind
  rw [on_addRouterInput, hfree]
  simp only [Option.isSome_none, Bool.false_eq_true, ↓reduceIte,
    Graph.router_eq_ok_iff _ |>.2 ⟨exits, hgrown⟩]

/-- An output is refused for its port, for its router or by the table, in this
order. -/
theorem on_addRouterOutput (router : ComponentId) (name : String) (g : Graph) :
    (addRouterOutput router name).on g =
      if (g.findPort? router name).isSome then
        (.error (.duplicatePort (g.path router) name), g)
      else
        match g.router router >>= (·.declareOutput name) with
        | .error fault => (.error fault, g)
        | .ok (port, table) =>
          let output : PortId := ⟨g.ports.size⟩
          let wired := (g.setTable router table).pushPort
            ⟨router, name, .output, Signal.io.signature⟩
          (.ok (port, ⟨output⟩), wired.pushExit router output) := by
  simp only [addRouterOutput, on_bind, on_get]
  by_cases h : (g.findPort? router name).isSome
  · simp [h]
  · cases g.router router with
    | error fault => simp [h, on_bind]
    | ok table =>
      cases hout : table.declareOutput name with
      | error fault => simp [h, hout, on_bind]
      | ok declared => simp [h, hout, on_bind, on_declare]

/-- A mapping is refused by the table alone. -/
theorem on_addMapping (router : ComponentId) (mapping : Mapping) (g : Graph) :
    (addMapping router mapping).on g =
      match g.router router >>= (·.addMapping mapping) with
      | .error fault => (.error fault, g)
      | .ok table => (.ok (), g.setTable router table) := by
  simp only [addMapping, on_bind, on_get]
  cases g.router router with
  | error fault => simp
  | ok table => cases hadd : table.addMapping mapping <;> simp [hadd]

theorem on_routerInput (router : ComponentId) (name : String) (g : Graph) :
    (routerInput router name).on g =
      (do
        let _ ← g.router router
        match g.findPort? router name with
        | some id =>
          if (g.port id).direction = .input then .ok ⟨id⟩
          else .error (.unboundPort (g.path router) name)
        | none => .error (.unboundPort (g.path router) name), g) := by
  simp only [routerInput, on_bind, on_get]
  cases g.router router with
  | error fault => simp
  | ok table =>
    cases g.findPort? router name with
    | none => simp
    | some id => by_cases hdir : (g.port id).direction = .input <;> simp [hdir]

/-- An input is handed out if the router has an input port of that name. What
the port carries is not asked. -/
theorem routerInput_eq_ok_iff {router : ComponentId} {name : String}
    {g : Graph} {handle : InputPort .io} :
    ((routerInput router name).on g).1 = .ok handle ↔
      (∃ table, g.router router = .ok table)
      ∧ g.findPort? router name = some handle.port
      ∧ (g.port handle.port).direction = .input := by
  obtain ⟨id⟩ := handle
  rw [on_routerInput]
  cases g.router router with
  | error fault => simp
  | ok table =>
    cases g.findPort? router name with
    | none => simp
    | some found =>
      by_cases hdir : (g.port found).direction = .input
      · simp only [hdir, ok_bind, ↓reduceIte, Except.ok.injEq, Handle.mk.injEq,
          Option.some.injEq, exists_eq', true_and]
        constructor
        · rintro rfl
          exact ⟨rfl, hdir⟩
        · exact fun h => h.1
      · simp only [hdir, ok_bind, ↓reduceIte, Option.some.injEq]
        refine iff_of_false nofun ?_
        rintro ⟨-, rfl, hdir'⟩
        exact hdir hdir'

/-- Everything that can refuse a window or a target is asked before the
output is declared. -/
theorem on_mapWindow {direction : Direction} (router : ComponentId)
    (name : String) (target : Handle direction .io) (window : Window)
    (rebase : Bool) (attrs : MappingAttrs) (g : Graph) :
    (mapWindow router name target window rebase attrs).on g =
      match g.router router >>= (·.checkFree window) with
      | .error fault => (.error fault, g)
      | .ok _ =>
        if ¬ (g.port target.port).direction.isSink then
          (.error (g.misdirected target.port .target), g)
        else
          (addWindow router name target window rebase attrs).on g := by
  simp only [mapWindow, on_bind, on_get]
  cases g.router router with
  | error fault => simp
  | ok table =>
    cases hfree : table.checkFree window with
    | error fault => simp [hfree]
    | ok _ =>
      by_cases hsink : (g.port target.port).direction.isSink
        <;> simp [hfree, hsink]

/-- The source is looked at before the target, and signatures last. -/
theorem on_bindPorts (source target : PortId) (g : Graph) :
    (bindPorts source target).on g =
      if ¬ (g.port source).direction.isSource then
        (.error (g.misdirected source .source), g)
      else if ¬ (g.port target).direction.isSink then
        (.error (g.misdirected target .target), g)
      else if (g.port source).signature ≠ (g.port target).signature then
        (.error (.signatureMismatch (g.portPath source) (g.portPath target)
          (g.port target).signature (g.port source).signature), g)
      else
        (.ok (), g.pushBinding source target) := by
  simp only [bindPorts, on_bind, on_get]
  by_cases hsource : (g.port source).direction.isSource
  · by_cases hsink : (g.port target).direction.isSink
    · by_cases hsame : (g.port source).signature = (g.port target).signature
      · simp [hsource, hsink, hsame]
      · simp [hsource, hsink, hsame]
    · simp [hsource, hsink]
  · simp [hsource]

/-- Both ports are asked for before they are bound. -/
theorem on_bindByName (source : ComponentId) (sourcePort : String)
    (target : ComponentId) (targetPort : String) (g : Graph) :
    (bindByName source sourcePort target targetPort).on g =
      match g.requirePort source sourcePort,
        g.requirePort target targetPort with
      | .ok sourceId, .ok targetId => (bindPorts sourceId targetId).on g
      | .error fault, _ => (.error fault, g)
      | .ok _, .error fault => (.error fault, g) := by
  simp only [bindByName, on_bind, on_get, on_liftExcept]
  cases g.requirePort source sourcePort <;> cases g.requirePort target
    targetPort <;> rfl

end Build

end ChipFabric
