/-
Building a graph, step by step. Every step is an edit: it may fail, and it
leaves behind what it did before it failed. Names of children are unique
through their paths, names of ports on their component. Steps that declare
a port give back a handle of its direction and signal; two handles are
bound without any check, two bare ports only if directions and signatures
fit.
-/
import ChipFabric.Edit
import ChipFabric.Fabric.Graph

namespace ChipFabric

abbrev Build (α : Type) := Edit Graph α

namespace Build

-- ========================================================= components

def addComponent (parent : ComponentId) (name : String)
    (kind : ComponentKind) :
    Build ComponentId := do
  let g ← get
  let path := g.path parent ++ "/" ++ name
  if (g.lookup? path).isSome then
    throw (.duplicateComponent path)
  set (g.pushChild parent name path kind)
  return ⟨g.components.size⟩

def addGroup (parent : ComponentId) (name : String) : Build ComponentId :=
  addComponent parent name .group

/-- Adds a device, without ports. -/
def addDevice (parent : ComponentId) (name : String) (device : Device) :
    Build ComponentId :=
  addComponent parent name (.device device)

-- ============================================================== ports

def declarePort (owner : ComponentId) (name : String) (direction : Direction)
    (signature : String) : Build PortId := do
  let g ← get
  if (g.findPort? owner name).isSome then
    throw (.duplicatePort (g.path owner) name)
  set (g.pushPort { owner, name, direction, signature })
  return ⟨g.ports.size⟩

def declare (owner : ComponentId) (name : String) (direction : Direction)
    (signal : Signal) :
    Build (Handle direction signal) := do
  let port ← declarePort owner name direction signal.signature
  return ⟨port⟩

/-- Adds a device that answers accesses, with its input. -/
def addTerminal (parent : ComponentId) (name : String) (device : Device) :
    Build (ComponentId × InputPort .io) := do
  let id ← addDevice parent name device
  let input ← declare id Router.defaultInput .input .io
  return (id, input)

-- ============================================================ routers

/-- Adds a router made beforehand, and declares a port for each input of
it. -/
def addRouter (parent : ComponentId) (router : Router) :
    Build ComponentId := do
  let id ← addComponent parent router.name (.router router [])
  router.inputs.forM fun name => do
    let _ ← declarePort id name .input Signal.io.signature
  return id

def routerInput (router : ComponentId) (name : String) :
    Build (InputPort .io) := do
  let g ← get
  let _ ← g.router router
  match g.findPort? router name with
  | some id =>
    if (g.port id).direction = .input then
      return ⟨id⟩
    throw (.unboundPort (g.path router) name)
  | none => throw (.unboundPort (g.path router) name)

/-- Declares one more input of a router: the port first, then the input of
the table. -/
def addRouterInput (router : ComponentId) (name : String) :
    Build (InputPort .io) := do
  let input ← declare router name .input .io
  let table ← (← get).router router
  modify (·.setTable router (table.withInput name))
  return input

/-- Declares an output of a router and the port it leaves by. -/
def addRouterOutput (router : ComponentId) (name : String) :
    Build (RouterPort × OutputPort .io) := do
  let g ← get
  if (g.findPort? router name).isSome then
    throw (.duplicatePort (g.path router) name)
  let (port, table) ← (← g.router router).declareOutput name
  modify (·.setTable router table)
  let output ← declare router name .output .io
  modify (·.pushExit router output.port)
  return (port, output)

/-- Adds a mapping to an output of a router that was declared before. -/
def addMapping (router : ComponentId) (mapping : Mapping) : Build Unit := do
  let table ← (← (← get).router router).addMapping mapping
  modify (·.setTable router table)

/-- Declares an output of a router, maps a window to it, and binds it to a
target. -/
def addWindow {direction : Direction} (router : ComponentId) (name : String)
    (target : Handle direction .io) (window : Window) (rebase : Bool)
    (attrs : MappingAttrs) :
    Build (OutputPort .io) := do
  let (port, output) ← addRouterOutput router name
  addMapping router { window, port, rebase, attrs }
  modify (·.pushBinding output.port target.port)
  return output

/-- Adds a window if it is free and the target may receive; both are asked
before anything is declared. -/
def mapWindow {direction : Direction} (router : ComponentId) (name : String)
    (target : Handle direction .io) (window : Window) (rebase : Bool)
    (attrs : MappingAttrs) :
    Build (OutputPort .io) := do
  let g ← get
  (← g.router router).checkFree window
  if ¬ (g.port target.port).direction.isSink then
    throw (g.misdirected target.port .target)
  addWindow router name target window rebase attrs

-- =========================================================== bindings

/-- Binds two handles of one signal. That the first may issue and the second
may receive is known from their directions. -/
def bind {signal : Signal} {d e : Direction} [d.Source] [e.Sink]
    (source : Handle d signal) (target : Handle e signal) : Build Unit :=
  modify (·.pushBinding source.port target.port)

/-- Binds two ports if the first may issue, the second may receive and both
have the same signature. -/
def bindPorts (source target : PortId) : Build Unit := do
  let g ← get
  if ¬ (g.port source).direction.isSource then
    throw (g.misdirected source .source)
  if ¬ (g.port target).direction.isSink then
    throw (g.misdirected target .target)
  let found := (g.port source).signature
  let expected := (g.port target).signature
  if found ≠ expected then
    throw (.signatureMismatch (g.portPath source) (g.portPath target)
      expected found)
  set (g.pushBinding source target)

def bindByName (source : ComponentId) (sourcePort : String)
    (target : ComponentId) (targetPort : String) : Build Unit := do
  let g ← get
  let sourceId ← g.requirePort source sourcePort
  let targetId ← g.requirePort target targetPort
  bindPorts sourceId targetId

end Build

end ChipFabric
