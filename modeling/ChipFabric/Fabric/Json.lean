/-
Graphs and routes as JSON. Components, ports and router outputs are named
by their numbers, and the exits of a router stay inside the program.
-/
import ChipFabric.Fabric.Route

namespace ChipFabric

def ComponentId.toJson (id : ComponentId) : Json := .natural id.index

def PortId.toJson (id : PortId) : Json := .natural id.index

/-- What a component is, and the fields that belong to that. -/
def ComponentKind.fields : ComponentKind → List (String × Json)
  | .group => [("kind", .string "group")]
  | .router table _ => ("kind", .string "router") :: table.fields
  | .device d => ("kind", .string "device") :: d.fields

/-- The component, its kind standing between its children and its ports. -/
def Component.toJson (component : Component) : Json :=
  .object <|
    [("name", .string component.name),
      ("path", .string component.path),
      ("parent", .ofOption ComponentId.toJson component.parent),
      ("children", .array (component.children.map ComponentId.toJson))]
    ++ component.kind.fields
    ++ [("ports", .array (component.ports.map PortId.toJson))]

def Port.toJson (port : Port) : Json :=
  .object [
    ("owner", port.owner.toJson),
    ("name", .string port.name),
    ("direction", .string port.direction.text),
    ("signature", .string port.signature)]

def Binding.toJson (binding : Binding) : Json :=
  .object [("from", binding.source.toJson), ("to", binding.target.toJson)]

def Graph.toJson (g : Graph) : Json :=
  .object [
    ("components", .array (g.components.toList.map Component.toJson)),
    ("ports", .array (g.ports.toList.map Port.toJson)),
    ("bindings", .array (g.bindings.toList.map Binding.toJson))]

/-- The hop, with the mapping it went by. -/
def Hop.toJson (hop : Hop) : Json :=
  .object [
    ("router", .string hop.router),
    ("entry", hop.mapping.toJson),
    ("addr_in", .natural hop.addrIn),
    ("addr_out", .natural hop.addrOut)]

def Route.toJson (route : Route) : Json :=
  .object [
    ("target", route.target.toJson),
    ("target_path", .string route.targetPath),
    ("local_addr", .natural route.localAddr),
    ("hops", .array (route.hops.map Hop.toJson)),
    ("attrs", route.attrs.toJson)]

end ChipFabric
