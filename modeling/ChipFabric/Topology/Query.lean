/-
Questions to a topology that was built: where an address of a plane or of
the loader ends up, what starts with the loader's signal, and the table of
a router with the inputs its windows lead to.
-/
import ChipFabric.Fabric.Json
import ChipFabric.Topology.Build

namespace ChipFabric

/-- One row of the address map of a router. -/
structure MapRow where
  window : Window
  port : String
  /-- The path of the input that the output leads to. -/
  target : String
  rebase : Bool
  attrs : MappingAttrs
  deriving DecidableEq

def MapRow.toJson (row : MapRow) : Json :=
  .object [
    ("range", row.window.toJson),
    ("port", .string row.port),
    ("target", .string row.target),
    ("rebase", .bool row.rebase),
    ("attrs", row.attrs.toJson)]

namespace Topology

def resolveNarrow (t : Topology) (addr : Nat) : Except Fault Route :=
  t.graph.route t.narrow addr

def resolveWide (t : Topology) (addr : Nat) : Except Fault Route :=
  t.graph.route t.wide addr

/-- The route of a write of the loader. -/
def resolveLoad (t : Topology) (addr : Nat) : Except Fault Route :=
  t.graph.routeFrom t.loaderOut addr

/-- The inputs that the loader's start signal leads to. -/
def startTargets (t : Topology) : Except Fault (List PortId) :=
  t.graph.reachableInputs t.loaderStart.port

/-- The row of the address map for a mapping of a router. -/
def mapRow (t : Topology) (router : ComponentId) (table : Router)
    (mapping : Mapping) :
    Except Fault MapRow := do
  let port := (table.outputName? mapping.port).getD ""
  let target ← t.graph.follow (← t.graph.requirePort router port)
  return {
    window := mapping.window
    port
    target := t.graph.portPath target
    rebase := mapping.rebase
    attrs := mapping.attrs }

def addressMap (t : Topology) (router : ComponentId) :
    Except Fault (List MapRow) := do
  let table ← t.graph.router router
  table.byAddress.mapM (t.mapRow router table)

def toJson (t : Topology) : Json :=
  .object [
    ("arch", t.layout.toJson),
    ("graph", t.graph.toJson),
    ("narrow", t.narrow.toJson),
    ("wide", t.wide.toJson)]

end Topology

end ChipFabric
