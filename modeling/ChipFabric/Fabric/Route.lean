/-
Routing an address through the graph. One hop looks the address up in the
table of a router, leaves by the exit of the mapping's output and follows
the bindings from there; it ends at another router, which takes the next
hop, or at a device that answers. `validate` makes sure beforehand that
every mapping leads to one or the other.
-/
import ChipFabric.Fabric.Reach
import ChipFabric.Text.Column

namespace ChipFabric

/-- Routing gives up after this many hops. -/
def hopLimit : Nat := 16

structure Hop where
  router : String
  mapping : Mapping
  addrIn : Nat
  addrOut : Nat
  deriving DecidableEq

/-- How an access reached the device that answers it. -/
structure Route where
  target : ComponentId
  targetPath : String
  /-- The address that the device sees. -/
  localAddr : Nat
  hops : List Hop
  attrs : MappingAttrs
  deriving DecidableEq

namespace Graph

/-- The component that answers or routes what leaves by a router output. -/
def beyond (g : Graph) (router : Component) (port : RouterPort) :
    Except Fault ComponentId := do
  let some exit := router.exit? port
    | throw (.undeclaredOutput router.path port.index)
  let owner := (g.port (← g.follow exit)).owner
  if (g.component owner).isRouter ∨ (g.component owner).isTerminal then
    return owner
  throw (.notTerminal router.path (g.port exit).name)

/-- Every mapping of every router leads to a router or to a device that
answers. -/
def validate (g : Graph) : Except Fault Unit :=
  g.components.toList.forM fun component =>
    match component.table? with
    | none => return
    | some table => table.mappings.forM fun mapping => do
      let _ ← g.beyond component mapping.port

/-- One hop of an address that enters a router, and the component where it
goes next. -/
def hop (g : Graph) (router : ComponentId) (addr : Nat) :
    Except Fault (Hop × ComponentId) := do
  let resolved ← (← g.router router).resolve addr
  let next ← g.beyond (g.component router) resolved.mapping.port
  return ({
    router := g.path router
    mapping := resolved.mapping
    addrIn := addr
    addrOut := resolved.localAddr }, next)

/-- The route of an address that enters a router and has `hops` hops left;
`issued` is the address that the access started with. -/
def routeWithin (g : Graph) (issued : Nat) :
    (hops : Nat) → (router : ComponentId) → (addr : Nat) → Except Fault Route
  | 0, _, _ => .error (.routingLoop issued hopLimit)
  | hops + 1, router, addr => do
    let (step, next) ← g.hop router addr
    if (g.component next).isRouter then
      let onward ← g.routeWithin issued hops next step.addrOut
      return { onward with hops := step :: onward.hops }
    return {
      target := next
      targetPath := g.path next
      localAddr := step.addrOut
      hops := [step]
      attrs := step.mapping.attrs }

def route (g : Graph) (router : ComponentId) (addr : Nat) :
    Except Fault Route :=
  g.routeWithin addr hopLimit router addr

def routeFrom (g : Graph) (source : OutputPort .io) (addr : Nat) :
    Except Fault Route := do
  let owner := (g.port (← g.follow source.port)).owner
  if (g.component owner).isRouter then
    g.route owner addr
  else if (g.component owner).isTerminal then
    return {
      target := owner
      targetPath := g.path owner
      localAddr := addr
      hops := []
      attrs := {} }
  else
    throw (.notTerminal (g.path (g.port source.port).owner)
      (g.port source.port).name)

end Graph

-- ============================================================= report

/-- The hop as a line of a report. -/
def Hop.text (hop : Hop) : String :=
  Text.column 24 hop.router ++ " " ++ Numeral.hexFilled 12 hop.addrIn ++ " -> "
    ++ Numeral.hexFilled 12 hop.addrOut ++ "  via " ++ hop.mapping.window.text
    ++ (if hop.mapping.rebase then " (rebase)" else "")

/-- The route as a report: a line for each hop, and one for the device. -/
def Route.text (route : Route) : String :=
  String.join (route.hops.map fun hop => hop.text ++ "\n")
    ++ route.targetPath ++ " @ " ++ Numeral.hex route.localAddr

end ChipFabric
