/-
Graphs with directories. A graph can find components by their paths and ports
by owner and name in two directories, which it fills as it grows, instead of
searching its components and ports. `Graph.Indexed` does by the directories
all that building steps do, and fails where they fail; `Consistent` says that
the directories answer what the searches answer.

# Keeping up

A step with directories follows one without if, from a consistent graph, both
have the same outcome and leave the same graph, and the directories stay
consistent (`Follows`). Steps that add no component and declare no port do
not touch the directories (`Follows.lift`); `addComponent` and `declarePort`
make the two entries; all other steps are rows of these.

# The statement

`wellFormed_of_reachable`: whatever was done to a new graph, with or without
success, its five records of components and ports agree with each other, and
the graph with directories is at the same point and will answer everything
alike.
-/
import ChipFabric.Proofs.Fabric.Inputs
import ChipFabric.Proofs.Fabric.Tree

namespace ChipFabric

open Edit

namespace Graph

-- ============================================================= graphs

/-- A graph and its directories. Entries are only ever made; the last one
made under a key is the one that is found. -/
structure Indexed where
  graph : Graph
  paths : List (String × ComponentId)
  portNames : List ((ComponentId × String) × PortId)

namespace Indexed

variable {α β : Type}

def new (top : String) : Indexed := ⟨Graph.new top, [(top, root)], []⟩

def lookup? (d : Indexed) (path : String) : Option ComponentId :=
  d.paths.lookup path

def findPort? (d : Indexed) (owner : ComponentId) (name : String) :
    Option PortId :=
  d.portNames.lookup (owner, name)

def requirePort (d : Indexed) (owner : ComponentId) (name : String) :
    Except Fault PortId :=
  match d.findPort? owner name with
  | some id => .ok id
  | none => .error (.unboundPort (d.graph.path owner) name)

-- ============================================================== steps

/-- A step on the graph alone. -/
def lift (step : Build α) : Edit Indexed α :=
  ExceptT.mk fun d =>
    ((step.on d.graph).1, { d with graph := (step.on d.graph).2 })

def addComponent (parent : ComponentId) (name : String)
    (kind : ComponentKind) :
    Edit Indexed ComponentId := do
  let d ← get
  let path := d.graph.path parent ++ "/" ++ name
  if (d.lookup? path).isSome then
    throw (.duplicateComponent path)
  let id : ComponentId := ⟨d.graph.components.size⟩
  set { d with
    graph := d.graph.pushChild parent name path kind
    paths := (path, id) :: d.paths }
  return id

def declarePort (owner : ComponentId) (name : String) (direction : Direction)
    (signature : String) : Edit Indexed PortId := do
  let d ← get
  if (d.findPort? owner name).isSome then
    throw (.duplicatePort (d.graph.path owner) name)
  let id : PortId := ⟨d.graph.ports.size⟩
  set { d with
    graph := d.graph.pushPort { owner, name, direction, signature }
    portNames := ((owner, name), id) :: d.portNames }
  return id

def declare (owner : ComponentId) (name : String) (direction : Direction)
    (signal : Signal) :
    Edit Indexed (Handle direction signal) := do
  let port ← declarePort owner name direction signal.signature
  return ⟨port⟩

def addTerminal (parent : ComponentId) (name : String) (device : Device) :
    Edit Indexed (ComponentId × InputPort .io) := do
  let id ← addComponent parent name (.device device)
  let input ← declare id Router.defaultInput .input .io
  return (id, input)

def addRouter (parent : ComponentId) (router : Router) :
    Edit Indexed ComponentId := do
  let id ← addComponent parent router.name (.router router [])
  router.inputs.forM fun name => do
    let _ ← declarePort id name .input Signal.io.signature
  return id

def routerInput (router : ComponentId) (name : String) :
    Edit Indexed (InputPort .io) := do
  let d ← get
  let _ ← d.graph.router router
  match d.findPort? router name with
  | some id =>
    if (d.graph.port id).direction = .input then
      return ⟨id⟩
    throw (.unboundPort (d.graph.path router) name)
  | none => throw (.unboundPort (d.graph.path router) name)

def addRouterInput (router : ComponentId) (name : String) :
    Edit Indexed (InputPort .io) := do
  let input ← declare router name .input .io
  let table ← (← get).graph.router router
  lift (modify (·.setTable router (table.withInput name)))
  return input

def addRouterOutput (router : ComponentId) (name : String) :
    Edit Indexed (RouterPort × OutputPort .io) := do
  let d ← get
  if (d.findPort? router name).isSome then
    throw (.duplicatePort (d.graph.path router) name)
  let (port, table) ← (← d.graph.router router).declareOutput name
  lift (modify (·.setTable router table))
  let output ← declare router name .output .io
  lift (modify (·.pushExit router output.port))
  return (port, output)

def addWindow {direction : Direction} (router : ComponentId) (name : String)
    (target : Handle direction .io) (window : Window) (rebase : Bool)
    (attrs : MappingAttrs) :
    Edit Indexed (OutputPort .io) := do
  let (port, output) ← addRouterOutput router name
  lift (Build.addMapping router { window, port, rebase, attrs })
  lift (modify (·.pushBinding output.port target.port))
  return output

def mapWindow {direction : Direction} (router : ComponentId) (name : String)
    (target : Handle direction .io) (window : Window) (rebase : Bool)
    (attrs : MappingAttrs) :
    Edit Indexed (OutputPort .io) := do
  let d ← get
  (← d.graph.router router).checkFree window
  if ¬ (d.graph.port target.port).direction.isSink then
    throw (d.graph.misdirected target.port .target)
  addWindow router name target window rebase attrs

def bindByName (source : ComponentId) (sourcePort : String)
    (target : ComponentId) (targetPort : String) : Edit Indexed Unit := do
  let d ← get
  let sourceId ← d.requirePort source sourcePort
  let targetId ← d.requirePort target targetPort
  lift (Build.bindPorts sourceId targetId)

end Indexed

end Graph

/-- The operation on a graph with directories. -/
def Operation.indexedEdit : Operation → Edit Graph.Indexed (List Issued)
  | addGroup parent name => do
    let _ ← Graph.Indexed.addComponent parent name .group
    return []
  | addDevice parent name device => do
    let _ ← Graph.Indexed.addComponent parent name (.device device)
    return []
  | addTerminal parent name device => do
    let (_, input) ← Graph.Indexed.addTerminal parent name device
    return [input.issued]
  | addRouter parent router => do
    let _ ← Graph.Indexed.addRouter parent router
    return []
  | declarePort owner name direction signature => do
    let _ ← Graph.Indexed.declarePort owner name direction signature
    return []
  | declare owner name direction signal => do
    let handle ← Graph.Indexed.declare owner name direction signal
    return [handle.issued]
  | routerInput router name => do
    let input ← Graph.Indexed.routerInput router name
    return [input.issued]
  | addRouterInput router name => do
    let input ← Graph.Indexed.addRouterInput router name
    return [input.issued]
  | addRouterOutput router name => do
    let (_, output) ← Graph.Indexed.addRouterOutput router name
    return [output.issued]
  | addMapping router mapping => do
    Graph.Indexed.lift (Build.addMapping router mapping)
    return []
  | mapWindow router name target window rebase attrs => do
    let output ← Graph.Indexed.mapWindow router name target window rebase attrs
    return [output.issued]
  | bind source target => do
    Graph.Indexed.lift (Build.bind source target)
    return []
  | bindPorts source target => do
    Graph.Indexed.lift (Build.bindPorts source target)
    return []
  | bindByName source sourcePort target targetPort => do
    Graph.Indexed.bindByName source sourcePort target targetPort
    return []

namespace Graph

-- =========================================================== searches

variable {g g' : Graph}

/-- Both graphs find the same. -/
structure SameNames (g g' : Graph) : Prop where
  lookup?_eq : ∀ path, g'.lookup? path = g.lookup? path
  findPort?_eq : ∀ owner name, g'.findPort? owner name = g.findPort? owner name

instance : IsPreorder Graph SameNames where
  refl _ := ⟨fun _ => rfl, fun _ _ => rfl⟩
  trans _ _ _ h h' :=
    ⟨fun path => (h'.lookup?_eq path).trans (h.lookup?_eq path),
      fun owner name => (h'.findPort?_eq owner name).trans
        (h.findPort?_eq owner name)⟩

/-- What is looked up depends on the paths alone. -/
theorem lookup?_congr (hsize : g'.components.size = g.components.size)
    (hpath : ∀ id, g'.path id = g.path id) (path : String) :
    g'.lookup? path = g.lookup? path := by
  apply Option.ext
  intro id
  rw [lookup?_eq_some_iff, lookup?_eq_some_iff, hsize]
  simp only [hpath]

/-- Components are looked up by their paths only. -/
theorem lookup?_modifyComponent (id : ComponentId)
    {change : Component → Component} (h : ∀ c, (change c).path = c.path)
    (path : String) :
    (g.modifyComponent id change).lookup? path = g.lookup? path :=
  lookup?_congr (g.size_modifyComponent id change)
    (fun other => g.path_modifyComponent id other h) path

/-- Where nothing was at a path, a new component may be there. -/
theorem lookup?_pushChild (parent : ComponentId) (name path : String)
    (kind : ComponentKind) (other : String) :
    (g.pushChild parent name path kind).lookup? other =
      (g.lookup? other).or
        (if path = other then some ⟨g.components.size⟩ else none) := by
  rw [pushChild, lookup?_modifyComponent]
  · show Option.map ComponentId.mk ((g.components.push _).findIdx? _) = _
    rw [Array.findIdx?_push, Graph.lookup?]
    cases g.components.findIdx? (·.path = other) with
    | some i => rfl
    | none => by_cases hpath : path = other <;> simp [hpath]
  · exact fun _ => rfl

/-- A port is nothing to a look-up. -/
theorem lookup?_pushPort (port : Port) (path : String) :
    (g.pushPort port).lookup? path = g.lookup? path :=
  lookup?_congr (g.size_pushPort port) (fun id => g.path_pushPort id port) path

/-- Nor are tables, exits and bindings to either search. -/
theorem sameNames_setTable (id : ComponentId) (table : Router) :
    g.SameNames (g.setTable id table) :=
  ⟨lookup?_congr (g.size_setTable id table) fun other =>
    g.path_setTable id other table,
    fun _ _ => rfl⟩

theorem sameNames_pushExit (id : ComponentId) (exit : PortId) :
    g.SameNames (g.pushExit id exit) :=
  ⟨lookup?_congr (g.size_pushExit id exit) fun other =>
    g.path_pushExit id other exit,
    fun _ _ => rfl⟩

theorem sameNames_pushBinding (source target : PortId) :
    g.SameNames (g.pushBinding source target) :=
  ⟨fun _ => rfl, fun _ _ => rfl⟩

-- ======================================================= consistency

/-- An entry is not found under another key. -/
theorem lookup_cons_of_ne {κ ν : Type} [BEq κ] [LawfulBEq κ] {key other : κ}
    (h : other ≠ key) (value : ν) (entries : List (κ × ν)) :
    List.lookup other ((key, value) :: entries) =
      List.lookup other entries := by
  rw [List.lookup_cons, beq_false_of_ne h]

namespace Indexed

/-- The directories answer what the searches answer. -/
structure Consistent (d : Indexed) : Prop where
  lookup?_eq : ∀ path, d.lookup? path = d.graph.lookup? path
  findPort?_eq : ∀ owner name, d.findPort? owner name =
    d.graph.findPort? owner name

variable {d : Indexed}

/-- A new graph has one component, and its directory has that one. -/
theorem Consistent.new (top : String) : (new top).Consistent := by
  constructor
  case lookup?_eq =>
    intro path
    by_cases hpath : path = top
    · rw [hpath]
      show List.lookup top [(top, root)] = Option.map ComponentId.mk
        (Array.findIdx? _ #[_])
      simp [root]
    · have hne : top ≠ path := Ne.symm hpath
      show List.lookup path [(top, root)] = Option.map ComponentId.mk
        (Array.findIdx? _ #[_])
      simp [hpath, hne]
  case findPort?_eq =>
    intro owner name
    show none = Option.map PortId.mk (Array.findIdx? _ #[])
    simp

/-- Directories need not be touched where no name is. -/
theorem Consistent.of_same (h : d.Consistent) {g : Graph}
    (hsame : d.graph.SameNames g) : Consistent { d with graph := g } :=
  ⟨fun path => (h.lookup?_eq path).trans (hsame.lookup?_eq path).symm,
    fun owner name => (h.findPort?_eq owner name).trans
      (hsame.findPort?_eq owner name).symm⟩

/-- The entry of a new component is the one that is found. -/
theorem Consistent.pushChild (h : d.Consistent) {path : String}
    (hfree : d.graph.lookup? path = none) (parent : ComponentId)
    (name : String) (kind : ComponentKind) :
    Consistent { d with
      graph := d.graph.pushChild parent name path kind
      paths := (path, ⟨d.graph.components.size⟩) :: d.paths } := by
  constructor
  case lookup?_eq =>
    intro other
    rw [lookup?_pushChild]
    by_cases hsame : other = path
    · rw [hsame, hfree, if_pos rfl]
      exact List.lookup_cons_self
    · rw [if_neg (Ne.symm hsame), Option.or_none, ← h.lookup?_eq]
      exact lookup_cons_of_ne hsame _ d.paths
  case findPort?_eq => exact h.findPort?_eq

/-- The entry of a new port is the one that is found. -/
theorem Consistent.pushPort (h : d.Consistent) {port : Port}
    (hfree : d.graph.findPort? port.owner port.name = none) :
    Consistent { d with
      graph := d.graph.pushPort port
      portNames := ((port.owner, port.name), ⟨d.graph.ports.size⟩)
        :: d.portNames } := by
  constructor
  case lookup?_eq =>
    intro path
    rw [lookup?_pushPort]
    exact h.lookup?_eq path
  case findPort?_eq =>
    intro owner name
    rw [findPort?_pushPort]
    by_cases hsame : port.owner = owner ∧ port.name = name
    · obtain ⟨rfl, rfl⟩ := hsame
      rw [hfree, if_pos ⟨rfl, rfl⟩]
      exact List.lookup_cons_self
    · rw [if_neg hsame, Option.or_none, ← h.findPort?_eq]
      have hne : (owner, name) ≠ (port.owner, port.name) := by
        intro heq
        obtain ⟨howner, hname⟩ := Prod.mk.inj heq
        exact hsame ⟨howner.symm, hname.symm⟩
      exact lookup_cons_of_ne hne _ d.portNames

-- ============================================================= rules

/-- From any consistent graph with directories, the one step does to it what
the other does without them, and the directories stay consistent. -/
def Follows {α : Type} (step : Edit Indexed α) (plain : Build α) : Prop :=
  ∀ d : Indexed, d.Consistent → (step.on d).2.Consistent
    ∧ plain.on d.graph = ((step.on d).1, (step.on d).2.graph)

variable {α β : Type}

theorem Follows.pure (a : α) : Follows (Pure.pure a) (Pure.pure a) :=
  fun _ hd => ⟨hd, rfl⟩

theorem Follows.throw (fault : Fault) :
    Follows (MonadExcept.throw fault : Edit Indexed α)
      (MonadExcept.throw fault) :=
  fun _ hd => ⟨hd, rfl⟩

/-- Two steps that follow two others, with the same value in between, follow
them in a row. -/
theorem Follows.bind {step : Edit Indexed α} {plain : Build α}
    {next : α → Edit Indexed β} {plainNext : α → Build β}
    (h : Follows step plain) (hnext : ∀ a, Follows (next a) (plainNext a)) :
    Follows (step >>= next) (plain >>= plainNext) := by
  intro d hd
  obtain ⟨hafter, hplain⟩ := h d hd
  rw [on_bind, on_bind, hplain]
  generalize step.on d = outcome at hafter
  obtain ⟨_ | a, d'⟩ := outcome
  · exact ⟨hafter, rfl⟩
  · exact hnext a d' hafter

/-- What is done with the graph as it stands may rely on its directories. -/
theorem Follows.get {next : Indexed → Edit Indexed α}
    {plainNext : Graph → Build α}
    (h : ∀ d : Indexed, d.Consistent → Follows (next d) (plainNext d.graph)) :
    Follows (MonadState.get >>= next) (MonadState.get >>= plainNext) := by
  intro d hd
  rw [on_bind, on_bind, on_get, on_get]
  exact h d hd d hd

theorem Follows.liftExcept (outcome : Except Fault α) :
    Follows (liftM outcome) (liftM outcome) := by
  intro d hd
  rw [on_liftExcept, on_liftExcept]
  exact ⟨hd, rfl⟩

/-- Loops follow each other round by round. -/
theorem Follows.forM {step : α → Edit Indexed Unit} {plain : α → Build Unit}
    (h : ∀ a, Follows (step a) (plain a)) (values : List α) :
    Follows (values.forM step) (values.forM plain) := by
  induction values with
  | nil => exact .pure _
  | cons a values ih => exact (h a).bind fun _ => ih

/-- A step that changes nothing that is searched need not know of the
directories. -/
theorem Follows.lift {step : Build α} (h : step.Within SameNames) :
    Follows (lift step) step :=
  fun d hd => ⟨hd.of_same (h d.graph), rfl⟩

/-- An update of the graph alone is followed if it keeps all names. -/
theorem Follows.update {change : Graph → Graph}
    (h : ∀ g : Graph, g.SameNames (change g)) :
    Follows (Indexed.lift (modify change)) (modify change) :=
  .lift h

-- ===================================================== building steps

/-- The directory of paths finds what the search finds, and gets the new
path. -/
theorem addComponent_follows (parent : ComponentId) (name : String)
    (kind : ComponentKind) :
    Follows (addComponent parent name kind)
      (Build.addComponent parent name kind) := by
  intro d hd
  rw [Build.on_addComponent]
  simp only [addComponent, on_bind, on_get, hd.lookup?_eq]
  cases hfind : d.graph.lookup? (d.graph.path parent ++ "/" ++ name) with
  | some id => exact ⟨hd, rfl⟩
  | none => exact ⟨hd.pushChild hfind parent name kind, rfl⟩

/-- So does that of names, for the new port. -/
theorem declarePort_follows (owner : ComponentId) (name : String)
    (direction : Direction) (signature : String) :
    Follows (declarePort owner name direction signature)
      (Build.declarePort owner name direction signature) := by
  intro d hd
  rw [Build.on_declarePort]
  simp only [declarePort, on_bind, on_get, hd.findPort?_eq]
  cases hfind : d.graph.findPort? owner name with
  | some id => exact ⟨hd, rfl⟩
  | none =>
    have hport : d.graph.findPort?
        (Port.mk owner name direction signature).owner
        (Port.mk owner name direction signature).name = none := hfind
    exact ⟨hd.pushPort hport, rfl⟩

theorem declare_follows (owner : ComponentId) (name : String)
    (direction : Direction) (signal : Signal) :
    Follows (declare owner name direction signal)
      (Build.declare owner name direction signal) :=
  (declarePort_follows owner name direction signal.signature).bind
    fun _ => .pure _

theorem addTerminal_follows (parent : ComponentId) (name : String)
    (device : Device) :
    Follows (addTerminal parent name device)
      (Build.addTerminal parent name device) :=
  (addComponent_follows parent name (.device device)).bind fun id =>
    (declare_follows id Router.defaultInput .input .io).bind fun _ => .pure _

theorem addRouter_follows (parent : ComponentId) (router : Router) :
    Follows (addRouter parent router) (Build.addRouter parent router) := by
  refine (addComponent_follows parent router.name (.router router [])).bind
    fun id => ?_
  refine Follows.bind (.forM (fun name => ?_) router.inputs) fun _ => .pure _
  exact (declarePort_follows id name .input Signal.io.signature).bind
    fun _ => .pure _

theorem routerInput_follows (router : ComponentId) (name : String) :
    Follows (routerInput router name) (Build.routerInput router name) := by
  refine .get fun d hd => (Follows.liftExcept _).bind fun _ => ?_
  rw [hd.findPort?_eq]
  cases d.graph.findPort? router name with
  | none => exact .throw _
  | some id =>
    show Follows (ite _ _ _) (ite _ _ _)
    split
    · exact .pure _
    · exact .throw _

/-- The new table comes after the port, and has no names for a directory. -/
theorem addRouterInput_follows (router : ComponentId) (name : String) :
    Follows (addRouterInput router name)
      (Build.addRouterInput router name) := by
  refine (declare_follows router name .input .io).bind fun input => ?_
  refine .get fun d _ => (Follows.liftExcept _).bind fun table => ?_
  exact (Follows.update fun g => sameNames_setTable router _).bind
    fun _ => .pure _

/-- Here the table comes first, then the port and its exit. -/
theorem addRouterOutput_follows (router : ComponentId) (name : String) :
    Follows (addRouterOutput router name)
      (Build.addRouterOutput router name) := by
  refine .get fun d hd => ?_
  rw [hd.findPort?_eq]
  cases d.graph.findPort? router name with
  | some id => exact .throw _
  | none =>
    refine (Follows.liftExcept (d.graph.router router)).bind fun table => ?_
    refine (Follows.liftExcept (table.declareOutput name)).bind fun made => ?_
    refine (Follows.update fun g => sameNames_setTable router made.2).bind
      fun _ => ?_
    refine (declare_follows router name .output .io).bind fun output => ?_
    exact (Follows.update fun g => sameNames_pushExit router output.port).bind
      fun _ => .pure _

/-- A mapping names no component and no port. -/
theorem addMapping_sameNames (router : ComponentId) (mapping : Mapping) :
    (Build.addMapping router mapping).Within SameNames := by
  intro g
  rw [Build.on_addMapping]
  split
  · exact refl_of SameNames g
  · exact sameNames_setTable router _

/-- Neither does a binding. -/
theorem bindPorts_sameNames (source target : PortId) :
    (Build.bindPorts source target).Within SameNames := by
  intro g
  obtain hsame | ⟨-, hon⟩ := Build.bindPorts_outcome source target g
  · rw [hsame]
    exact refl_of SameNames g
  · rw [hon]
    exact sameNames_pushBinding source target

theorem addWindow_follows {direction : Direction} (router : ComponentId)
    (name : String) (target : Handle direction .io) (window : Window)
    (rebase : Bool) (attrs : MappingAttrs) :
    Follows (addWindow router name target window rebase attrs)
      (Build.addWindow router name target window rebase attrs) := by
  refine (addRouterOutput_follows router name).bind fun made => ?_
  refine (Follows.lift (addMapping_sameNames router _)).bind fun _ => ?_
  exact (Follows.update fun g => sameNames_pushBinding _ _).bind
    fun _ => .pure _

/-- Both ask for the window and the target before anything is done. -/
theorem mapWindow_follows {direction : Direction} (router : ComponentId)
    (name : String) (target : Handle direction .io) (window : Window)
    (rebase : Bool) (attrs : MappingAttrs) :
    Follows (mapWindow router name target window rebase attrs)
      (Build.mapWindow router name target window rebase attrs) := by
  refine .get fun d _ => (Follows.liftExcept (d.graph.router router)).bind
    fun table => ?_
  refine (Follows.liftExcept (table.checkFree window)).bind fun _ => ?_
  by_cases hsink : (d.graph.port target.port).direction.isSink
  · rw [if_neg (not_not.2 hsink), if_neg (not_not.2 hsink)]
    exact addWindow_follows router name target window rebase attrs
  · rw [if_pos hsink, if_pos hsink]
    exact .throw _

/-- Both names are searched for in the directory, and the ports found are the
same. -/
theorem bindByName_follows (source : ComponentId) (sourcePort : String)
    (target : ComponentId) (targetPort : String) :
    Follows (bindByName source sourcePort target targetPort)
      (Build.bindByName source sourcePort target targetPort) := by
  refine .get fun d hd => ?_
  have hrequire : d.requirePort = d.graph.requirePort := by
    funext owner name
    have hfind := hd.findPort?_eq owner name
    cases hport : d.graph.findPort? owner name <;>
      simp only [requirePort, Graph.requirePort, hfind, hport]
  rw [hrequire]
  refine (Follows.liftExcept _).bind fun sourceId =>
    (Follows.liftExcept _).bind fun targetId => ?_
  exact .lift (bindPorts_sameNames sourceId targetId)

/-- Every operation follows the one without directories. -/
theorem edit_follows (op : Operation) : Follows op.indexedEdit op.edit := by
  cases op with
  | addGroup parent name =>
    exact (addComponent_follows parent name .group).bind fun _ => .pure _
  | addDevice parent name device =>
    exact (addComponent_follows parent name (.device device)).bind
      fun _ => .pure _
  | addTerminal parent name device =>
    exact (addTerminal_follows parent name device).bind fun _ => .pure _
  | addRouter parent router =>
    exact (addRouter_follows parent router).bind fun _ => .pure _
  | declarePort owner name direction signature =>
    exact (declarePort_follows owner name direction signature).bind
      fun _ => .pure _
  | declare owner name direction signal =>
    exact (declare_follows owner name direction signal).bind fun _ => .pure _
  | routerInput router name =>
    exact (routerInput_follows router name).bind fun _ => .pure _
  | addRouterInput router name =>
    exact (addRouterInput_follows router name).bind fun _ => .pure _
  | addRouterOutput router name =>
    exact (addRouterOutput_follows router name).bind fun _ => .pure _
  | addMapping router mapping =>
    exact (Follows.lift (addMapping_sameNames router mapping)).bind
      fun _ => .pure _
  | mapWindow router name target window rebase attrs =>
    exact (mapWindow_follows router name target window rebase attrs).bind
      fun _ => .pure _
  | bind source target =>
    exact (Follows.update fun g => sameNames_pushBinding _ _).bind
      fun _ => .pure _
  | bindPorts source target =>
    exact (Follows.lift (bindPorts_sameNames source target)).bind
      fun _ => .pure _
  | bindByName source sourcePort target targetPort =>
    exact (bindByName_follows source sourcePort target targetPort).bind
      fun _ => .pure _

-- =============================================================== runs

/-- The graph after an operation, whether it succeeded or failed. -/
def after (d : Indexed) (op : Operation) : Indexed := (op.indexedEdit.on d).2

/-- The graph went through the same operations as the session. -/
inductive Alongside : Indexed → Session → Prop
  | new (top : String) : Alongside (new top) (Session.new top)
  | step {d : Indexed} {s : Session} (op : Operation) (h : Alongside d s)
      (hallows : s.Allows op) : Alongside (d.after op) (s.after op)

/-- It is at the same point, with directories that answer. -/
theorem Alongside.consistent {d : Indexed} {s : Session} (h : d.Alongside s) :
    d.Consistent ∧ d.graph = s.graph := by
  induction h with
  | new top => exact ⟨.new top, rfl⟩
  | step op h hallows ih =>
    obtain ⟨hconsistent, hgraph⟩ := ih
    obtain ⟨hafter, hplain⟩ := edit_follows op _ hconsistent
    refine ⟨hafter, ?_⟩
    rw [hgraph] at hplain
    rw [Session.graph_after, hplain]
    rfl

/-- A session that started anew has a graph with directories beside it. -/
theorem exists_alongside {s : Session} (h : s.Reachable) :
    ∃ d, Alongside d s := by
  obtain ⟨top, hrun⟩ := h
  induction hrun with
  | none => exact ⟨_, .new top⟩
  | step op _ hallows ih =>
    obtain ⟨d, hd⟩ := ih
    exact ⟨_, hd.step op hallows⟩

end Indexed

-- ========================================================== statement

/-- All that a graph says of its components and ports agrees. -/
structure WellFormed (g : Graph) : Prop where
  root_exists : 0 < g.components.size
  parent_eq_none_iff : ∀ id : ComponentId, id.index < g.components.size →
    ((g.component id).parent = none ↔ id = root)
  /-- What has a parent came after it, is listed by it once and by no other,
  and has a path that continues the parent's. -/
  below : ∀ id parent, (g.component id).parent = some parent →
    parent.index < id.index ∧ (g.component parent).children.count id = 1
      ∧ (∀ other, other ≠ parent → id ∉ (g.component other).children)
      ∧ g.path id = g.path parent ++ "/" ++ (g.component id).name
  path_injective : ∀ id other : ComponentId, id.index < g.components.size →
    other.index < g.components.size → g.path id = g.path other → id = other
  lookup?_eq_some_iff : ∀ path id,
    g.lookup? path = some id ↔ id.index < g.components.size ∧ g.path id = path
  /-- A port is listed once by its owner and by no other component. -/
  listed : ∀ id : PortId, id.index < g.ports.size →
    (g.port id).owner.index < g.components.size
      ∧ (g.component (g.port id).owner).ports.count id = 1
      ∧ ∀ other, other ≠ (g.port id).owner → id ∉ (g.component other).ports
  name_injective : ∀ id other : PortId, id.index < g.ports.size →
    other.index < g.ports.size →
    (g.port id).owner = (g.port other).owner →
      (g.port id).name = (g.port other).name → id = other
  findPort?_eq_some_iff : ∀ owner name id, g.findPort? owner name = some id ↔
    id.index < g.ports.size ∧ (g.port id).owner = owner
      ∧ (g.port id).name = name
  bound : ∀ b ∈ g.bindings, b.source.index < g.ports.size
    ∧ b.target.index < g.ports.size
  /-- A router has a port for each input of its table. -/
  input : ∀ r table, (g.component r).table? = some table →
    ∀ name ∈ table.inputs, ∃ id, g.findPort? r name = some id
      ∧ g.port id = ⟨r, name, .input, Signal.io.signature⟩

end Graph

/-- In every session from a new graph, whatever operations it went through and
whichever of them failed, the graph is well formed. A graph with directories
can go along; it is the same graph, its directories find what searches find,
and the next operation has the same outcome on both. -/
theorem Session.wellFormed_of_reachable {t : Session} (ht : t.Reachable) :
    t.graph.WellFormed ∧ (∃ d : Graph.Indexed, d.Alongside t)
      ∧ ∀ d : Graph.Indexed, d.Alongside t → d.graph = t.graph
        ∧ (∀ path, d.lookup? path = t.graph.lookup? path)
        ∧ (∀ owner name, d.findPort? owner name = t.graph.findPort? owner name)
        ∧ ∀ op : Operation, (op.indexedEdit.on d).1 =
          (op.edit.on t.graph).1 := by
  have htree := ht.graph.tree
  have hlisted := ht.graph.listed
  have hclosed := ht.graph.closed
  refine ⟨?_, Graph.Indexed.exists_alongside ht, fun d hd => ?_⟩
  · constructor
    case root_exists => exact htree.root_exists
    case parent_eq_none_iff => exact htree.parent_eq_none_iff
    case below =>
      intro id parent hparent
      obtain ⟨hcount, hother⟩ := htree.listed_once hparent
      exact ⟨htree.parent_lt id parent hparent, hcount, hother,
        htree.path_eq id parent hparent⟩
    case path_injective => exact htree.path_injective
    case lookup?_eq_some_iff => exact fun path id => htree.lookup?_eq_some_iff
    case listed =>
      exact fun id hid => ⟨hclosed.owner id hid, hlisted.listed_once hid⟩
    case name_injective => exact hlisted.name_injective
    case findPort?_eq_some_iff =>
      exact fun owner name id => hlisted.findPort?_eq_some_iff
    case bound => exact hclosed.ends
    case input =>
      intro r table htable name hname
      rw [← Graph.inputsOf_of_table? htable] at hname
      obtain ⟨id, hid⟩ := ht.inputsDeclared r name hname
      exact ⟨id, hid.found, hid.port_eq⟩
  · obtain ⟨hconsistent, hgraph⟩ := hd.consistent
    refine ⟨hgraph, ?_, ?_, fun op => ?_⟩
    · exact fun path => hgraph ▸ hconsistent.lookup?_eq path
    · exact fun owner name => hgraph ▸ hconsistent.findPort?_eq owner name
    · obtain ⟨-, hplain⟩ := Graph.Indexed.edit_follows op d hconsistent
      rw [← hgraph, hplain]

/-- A session in which a second group of one name was refused, and then an
input of what is no router, whose port stays. -/
def refusedSession : Session :=
  (((Session.new "top").after (.addGroup Graph.root "hub")).after
    (.addGroup Graph.root "hub")).after
    (.addRouterInput Graph.root "in")

/-- What was refused left no trace in the tree, and the one port that stayed
is listed like any other. -/
theorem refusedSession_wellFormed :
    refusedSession.Reachable ∧ refusedSession.graph.WellFormed
      ∧ refusedSession.graph.components.size = 2
      ∧ refusedSession.graph.lookup? "top/hub" = some ⟨1⟩
      ∧ refusedSession.graph.findPort? Graph.root "in" = some ⟨0⟩ := by
  have hreach : refusedSession.Reachable :=
    ⟨"top", .step _ (.step _ (.step _ .none (show 0 < _ by decide +kernel))
      (show 0 < _ by decide +kernel)) (show 0 < _ by decide +kernel)⟩
  exact ⟨hreach, (Session.wellFormed_of_reachable hreach).1, by decide +kernel,
    by decide +kernel, by decide +kernel⟩

end ChipFabric
