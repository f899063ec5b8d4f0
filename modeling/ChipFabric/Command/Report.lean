/-
The reports for reading: the table of properties, and the layout of the
chip with the address maps of its two routers. Every line ends in a
newline.
-/
import ChipFabric.Config.Override
import ChipFabric.Topology.Query

namespace ChipFabric.Command

open Text (column)

/-- Lines, each with its newline. -/
def ofLines (lines : List String) : String :=
  String.join (lines.map (· ++ "\n"))

-- ========================================================= properties

/-- The lines of one property; a star marks a value that a user gave. -/
def propertyLines (entry : Property.Entry) : List String :=
  let line := (if entry.overridden then "*" else " ") ++ " " ++ column 24
    entry.decl.name ++ " " ++ entry.value.shown ++ " "
    ++ entry.decl.description
  match entry.decl.allowed with
  | none => [line]
  | some values =>
    [line, "  " ++ column 24 "" ++ " allowed: " ++ ", ".intercalate values]

def propertyTable (registry : Property.Registry) : String :=
  ofLines (registry.describe.flatMap propertyLines)

-- ========================================================= address map

/-- The line of a cluster: its window and its harts. -/
def clusterLine (cluster : ClusterLayout) : String :=
  "  cluster " ++ column 2 (Numeral.decimal cluster.id) ++ " "
    ++ cluster.region.text ++ "  harts " ++ Numeral.decimal cluster.firstHart
    ++ ".." ++ Numeral.decimal cluster.endHart

/-- The lines of the layout: the fixed regions, then the clusters. -/
def layoutLines (layout : ChipLayout) : List String :=
  ["Layout",
    "  bootrom   " ++ layout.bootrom.text,
    "  hbm       " ++ layout.hbm.text ++ " (" ++ layout.hbmModel.spelling
      ++ ")",
    "  entry     " ++ Numeral.hex layout.loaderEntry]
  ++ layout.clusters.map clusterLine

/-- The line of a window in the address map of a router. -/
def rowLine (row : MapRow) : String :=
  "  " ++ column 34 row.window.text ++ " " ++ column 12 row.port ++ " -> "
    ++ row.target ++ (if row.rebase then "  [rebase]" else "")

/-- The address map of a router, under its path and bandwidth. -/
def routerLines (t : Topology) (router : ComponentId) :
    Except Fault (List String) := do
  let table ← t.graph.router router
  let rows ← t.addressMap router
  return ["", t.graph.path router ++ " ("
    ++ Numeral.decimal table.bandwidth ++ " B/cycle)"] ++ rows.map rowLine

def mapReport (t : Topology) : Except Fault String := do
  let narrow ← routerLines t t.narrow
  let wide ← routerLines t t.wide
  return ofLines (layoutLines t.layout ++ narrow ++ wide)

-- ============================================================== route

/-- The route of an access and the latency noted on its last mapping. -/
def routeReport (route : Route) : String :=
  ofLines <| route.text :: match route.attrs.latency with
    | some cycles => ["  latency: " ++ Numeral.decimal cycles ++ " cycles"]
    | none => []

end ChipFabric.Command
