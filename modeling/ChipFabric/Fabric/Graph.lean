/-
The binding graph: a tree of components, the ports they declare, and the
bindings between ports. Components and ports are numbered in the order they
are created and never removed, so a number names the same thing for good.
A path spells the names from the root down, with slashes; a port handle
carries the direction and the signal of its port in its type, which is what
lets a binding between two handles go unchecked.
-/
import ChipFabric.Fabric.Device
import ChipFabric.Fabric.Router

namespace ChipFabric

-- ============================================================== ports

/-- The number of a component. -/
@[ext] structure ComponentId where
  index : Nat
  deriving DecidableEq, Repr, Inhabited

/-- The number of a port. -/
@[ext] structure PortId where
  index : Nat
  deriving DecidableEq, Repr, Inhabited

/-- The part a port plays on its component. -/
inductive Direction where
  /-- Receives. -/
  | input
  /-- Issues. -/
  | output
  /-- Passes on across a boundary of the hierarchy; it both receives and
  issues. -/
  | forward
  deriving DecidableEq, Repr, Inhabited

namespace Direction

/-- A binding may start at a port of this direction. -/
def isSource : Direction → Bool
  | input => false
  | output => true
  | forward => true

/-- A binding may end at a port of this direction. -/
def isSink : Direction → Bool
  | input => true
  | output => false
  | forward => true

def text : Direction → String
  | input => "input"
  | output => "output"
  | forward => "forward"

/-- Handles of this direction may start a binding. -/
class Source (d : Direction) : Prop where
  isSource : d.isSource = true

/-- Handles of this direction may end a binding. -/
class Sink (d : Direction) : Prop where
  isSink : d.isSink = true

instance : Source output := ⟨rfl⟩

instance : Source forward := ⟨rfl⟩

instance : Sink input := ⟨rfl⟩

instance : Sink forward := ⟨rfl⟩

end Direction

/-- What the ports of the chip carry. -/
inductive Signal where
  /-- Reads and writes at addresses. -/
  | io
  /-- One bit. -/
  | wire
  deriving DecidableEq, Repr

/-- The signature of a port that carries the signal; ports are bound only
to ports of the very same signature. -/
def Signal.signature : Signal → String
  | io => "io"
  | wire => "wire<bool>"

structure Port where
  owner : ComponentId
  name : String
  direction : Direction
  signature : String
  deriving DecidableEq, Repr, Inhabited

/-- A port that was declared with that direction and signal. -/
structure Handle (direction : Direction) (signal : Signal) where
  port : PortId
  deriving DecidableEq, Repr

abbrev InputPort := Handle .input

abbrev OutputPort := Handle .output

abbrev ForwardPort := Handle .forward

structure Binding where
  source : PortId
  target : PortId
  deriving DecidableEq, Repr

-- ========================================================= components

/-- What a component is. A router knows, for each output of its table that
was declared through the graph, the port where accesses leave. -/
inductive ComponentKind where
  | group
  | router (table : Router) (exits : List PortId)
  | device (device : Device)
  deriving DecidableEq, Inhabited

structure Component where
  name : String
  /-- The names from the root down to this component. -/
  path : String
  parent : Option ComponentId
  /-- In the order they were created. -/
  children : List ComponentId
  kind : ComponentKind
  /-- In the order they were declared. -/
  ports : List PortId
  deriving DecidableEq, Inhabited

namespace Component

def table? (component : Component) : Option Router :=
  match component.kind with
  | .router table _ => some table
  | _ => none

def device? (component : Component) : Option Device :=
  match component.kind with
  | .device device => some device
  | _ => none

/-- The port where accesses to a router output leave. -/
def exit? (component : Component) (port : RouterPort) : Option PortId :=
  match component.kind with
  | .router _ exits => exits[port.index]?
  | _ => none

def isRouter (component : Component) : Bool := component.table?.isSome

/-- The component answers accesses itself. -/
def isTerminal (component : Component) : Bool :=
  component.device?.any Device.isTerminal

end Component

-- ============================================================== graph

/-- The components, ports and bindings of a topology. -/
structure Graph where
  components : Array Component
  ports : Array Port
  bindings : Array Binding
  deriving DecidableEq

namespace Graph

/-- The component at the top of the tree. -/
def root : ComponentId := ⟨0⟩

/-- A graph that holds a group of that name and nothing else. -/
def new (name : String) : Graph where
  components := #[{
    name
    path := name
    parent := none
    children := []
    kind := .group
    ports := [] }]
  ports := #[]
  bindings := #[]

/-- The component of that number. Numbers are only handed out for
components that exist; any other would name an unowned group without a
name. -/
def component (g : Graph) (id : ComponentId) : Component :=
  g.components[id.index]?.getD default

/-- The port of that number. Numbers are only handed out for ports that
exist. -/
def port (g : Graph) (id : PortId) : Port := g.ports[id.index]?.getD default

def path (g : Graph) (id : ComponentId) : String := (g.component id).path

def lookup? (g : Graph) (path : String) : Option ComponentId :=
  (g.components.findIdx? (·.path = path)).map .mk

def findPort? (g : Graph) (owner : ComponentId) (name : String) :
    Option PortId :=
  (g.ports.findIdx? fun port => port.owner = owner ∧ port.name = name).map .mk

/-- The owner's path and the port's name, with a point between them. -/
def portPath (g : Graph) (id : PortId) : String :=
  g.path (g.port id).owner ++ "." ++ (g.port id).name

/-- The table of a component that has to be a router. -/
def router (g : Graph) (id : ComponentId) : Except Fault Router :=
  match (g.component id).table? with
  | some table => .ok table
  | none => .error (.notARouter (g.path id))

/-- The port of that name on a component that has to have it. -/
def requirePort (g : Graph) (owner : ComponentId) (name : String) :
    Except Fault PortId :=
  match g.findPort? owner name with
  | some id => .ok id
  | none => .error (.unboundPort (g.path owner) name)

/-- The fault that a port cannot be used in a role. -/
def misdirected (g : Graph) (id : PortId) (role : BindingRole) : Fault :=
  .directionMismatch (g.path (g.port id).owner) (g.port id).name role

/-- The ports that bindings lead to from a port, in the order the bindings
were made. -/
def targets (g : Graph) (source : PortId) : List PortId :=
  (g.bindings.toList.filter (·.source = source)).map (·.target)

-- ============================================================ updates

def modifyComponent (g : Graph) (id : ComponentId)
    (change : Component → Component) : Graph :=
  { g with components := g.components.modify id.index change }

/-- The graph with a new component, entered as the last child of its
parent. -/
def pushChild (g : Graph) (parent : ComponentId) (name path : String)
    (kind : ComponentKind) : Graph :=
  let id : ComponentId := ⟨g.components.size⟩
  let grown := { g with
    components := g.components.push {
      name
      path
      parent := some parent
      children := []
      kind
      ports := [] } }
  grown.modifyComponent parent fun c =>
    { c with children := c.children ++ [id] }

/-- The graph with a new port, entered as the last of its owner. -/
def pushPort (g : Graph) (port : Port) : Graph :=
  let id : PortId := ⟨g.ports.size⟩
  let grown := { g with ports := g.ports.push port }
  grown.modifyComponent port.owner fun c => { c with ports := c.ports ++ [id] }

def pushBinding (g : Graph) (source target : PortId) : Graph :=
  { g with bindings := g.bindings.push ⟨source, target⟩ }

def setTable (g : Graph) (id : ComponentId) (table : Router) : Graph :=
  g.modifyComponent id fun c =>
    match c.kind with
    | .router _ exits => { c with kind := .router table exits }
    | _ => c

def pushExit (g : Graph) (id : ComponentId) (exit : PortId) : Graph :=
  g.modifyComponent id fun c =>
    match c.kind with
    | .router table exits => { c with kind := .router table (exits ++ [exit]) }
    | _ => c

end Graph

end ChipFabric
