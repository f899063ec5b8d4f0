/-
Address routers: any number of inputs, a table of windows, and outputs that
the windows lead to. A new window is refused if it shares an address with
one in the table, so an address selects at most one entry, and it is enough
to look at one: the entry of the greatest base at or below the address. The
entry forwards the address as it is or counted from the base of its window.
-/
import ChipFabric.Address.Carve

namespace ChipFabric

/-- An output of one router, by its place among the outputs. -/
structure RouterPort where
  index : Nat
  deriving DecidableEq, Repr

/-- What a mapping notes about the accesses through it, for the caller. -/
structure MappingAttrs where
  latency : Option Nat := none
  bandwidth : Option Nat := none
  deriving DecidableEq, Repr

structure Mapping where
  window : Window
  port : RouterPort
  /-- Forward addresses counted from the base of the window. -/
  rebase : Bool
  attrs : MappingAttrs
  deriving DecidableEq

/-- The address that an address in the window is forwarded as. -/
def Mapping.forward (mapping : Mapping) (addr : Nat) : Nat :=
  if mapping.rebase then addr - mapping.window.base else addr

/-- What a router makes of an address: the mapping and the address that
leaves by its port. -/
structure Resolved where
  mapping : Mapping
  localAddr : Nat
  deriving DecidableEq

/-- A router with its table, the mappings in the order they were added. -/
structure Router where
  name : String
  /-- Bytes per cycle; for information only. -/
  bandwidth : Nat
  inputs : List String
  outputs : List String
  mappings : List Mapping
  deriving DecidableEq

namespace Router

def defaultInput : String := "input"

/-- A router with its default input and nothing else. -/
def new (name : String) (bandwidth : Nat) : Router :=
  { name, bandwidth, inputs := [defaultInput], outputs := [], mappings := [] }

def withInput (router : Router) (name : String) : Router :=
  if name ∈ router.inputs then router
  else { router with inputs := router.inputs ++ [name] }

/-- Declares an output; its name must be new on the router. -/
def declareOutput (router : Router) (name : String) :
    Except Fault (RouterPort × Router) :=
  if name ∈ router.outputs then .error (.duplicatePort router.name name)
  else .ok (⟨router.outputs.length⟩,
    { router with outputs := router.outputs ++ [name] })

def outputName? (router : Router) (port : RouterPort) : Option String :=
  router.outputs[port.index]?

/-- The mapping of the greatest base below a bound. -/
def lastBelow? (router : Router) (bound : Nat) : Option Mapping :=
  (router.mappings.filter (·.window.base < bound)).maxOn? (·.window.base)

/-- The window shares no address with a window in the table. Only the last
of those that start before the new one ends can reach into it. -/
def checkFree (router : Router) (window : Window) : Except Fault Unit :=
  match router.lastBelow? window.stop with
  | some existing =>
    if existing.window.Overlaps window then
      .error (.overlappingMapping router.name window existing.window)
    else .ok ()
  | none => .ok ()

/-- The router with one more mapping, to a declared output and over a free
window. -/
def addMapping (router : Router) (mapping : Mapping) :
    Except Fault Router := do
  if router.outputs.length ≤ mapping.port.index then
    throw (.undeclaredOutput router.name mapping.port.index)
  router.checkFree mapping.window
  return { router with mappings := router.mappings ++ [mapping] }

/-- The mapping whose window holds the address. -/
def mappingAt? (router : Router) (addr : Nat) : Option Mapping :=
  (router.lastBelow? (addr + 1)).filter fun mapping => addr ∈ mapping.window

def resolve (router : Router) (addr : Nat) : Except Fault Resolved :=
  match router.mappingAt? addr with
  | some mapping => .ok { mapping, localAddr := mapping.forward addr }
  | none => .error (.unmappedAddress router.name addr)

/-- The table in the order of the windows. -/
def byAddress (router : Router) : List Mapping :=
  router.mappings.mergeSort fun a b => a.window.base ≤ b.window.base

end Router

-- =============================================================== JSON

def MappingAttrs.toJson (attrs : MappingAttrs) : Json :=
  .object [
    ("latency", .ofOption .natural attrs.latency),
    ("bandwidth", .ofOption .natural attrs.bandwidth)]

def Mapping.toJson (mapping : Mapping) : Json :=
  .object [
    ("range", mapping.window.toJson),
    ("port", .natural mapping.port.index),
    ("rebase", .bool mapping.rebase),
    ("attrs", mapping.attrs.toJson)]

def Resolved.toJson (resolved : Resolved) : Json :=
  .object [
    ("port", .natural resolved.mapping.port.index),
    ("local_addr", .natural resolved.localAddr),
    ("entry", resolved.mapping.toJson)]

namespace Router

/-- The fields of a router as JSON, without its name. -/
def fields (router : Router) : List (String × Json) :=
  [("bandwidth", .natural router.bandwidth),
    ("inputs", .array (router.inputs.map .string)),
    ("outputs", .array (router.outputs.map .string)),
    ("entries", .array (router.mappings.map Mapping.toJson))]

def toJson (router : Router) : Json := .object router.fields

end Router

end ChipFabric
