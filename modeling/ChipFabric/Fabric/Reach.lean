/-
Where a port leads. A binding to an input ends there, one to a forward port
goes on from that port; so the inputs a port leads to are the ends of the
chains of bindings through forward ports. An input that several chains
lead to is listed once for each. A chain cannot be longer than there are
ports unless it runs in a circle.
-/
import ChipFabric.Fabric.Graph

namespace ChipFabric.Graph

/-- The port passes on what it receives. -/
def isForward (g : Graph) (id : PortId) : Bool :=
  (g.port id).direction = .forward

/-- The inputs a port leads to through chains of fewer than `depth` forward
ports, or nothing if a chain is longer than that. Inputs bound directly
come first; of the forward ports the last one bound is followed first. -/
def inputsWithin (g : Graph) : (depth : Nat) → PortId → Option (List PortId)
  | 0, _ => none
  | depth + 1, source => do
    let direct := (g.targets source).filter fun target => !g.isForward target
    let onward := (g.targets source).filter g.isForward
    let further ← onward.reverse.mapM (g.inputsWithin depth)
    return direct ++ further.flatten

def reachableInputs (g : Graph) (source : PortId) :
    Except Fault (List PortId) :=
  match g.inputsWithin (g.ports.size + 1) source with
  | some found => .ok found
  | none => .error (.routingLoop 0 (g.ports.size + 1))

/-- The one input that a port leads to. -/
def follow (g : Graph) (source : PortId) : Except Fault PortId := do
  let owner := g.path (g.port source).owner
  match ← g.reachableInputs source with
  | [target] => return target
  | [] => throw (.unboundPort owner (g.port source).name)
  | found => throw (.ambiguousBinding owner (g.port source).name found.length)

end ChipFabric.Graph
