/-
Answering a command line: configuration, overrides, layout, topology, and
then the report asked for. The answer is what the program prints and its
exit status: 0, or 1 with the fault on the error output, or 2 if the
command line was not understood. A program that ends on its way there has
the status 101.
-/
import ChipFabric.Command.Line
import ChipFabric.Command.Report

namespace ChipFabric.Command

/-- What the program leaves behind. -/
structure Answer where
  status : Nat
  output : String
  errors : String
  deriving DecidableEq, Repr

/-- The configuration that the options start from; `read` gives the content
of a file that exists. -/
def Options.config? (options : Options) (read : String → Option ByteArray) :
    Except Fault Config :=
  match options.config with
  | some path => Config.ofFile (read path)
  | none => .ok {}

def Invocation.output (invocation : Invocation)
    (read : String → Option ByteArray) :
    Except Fault String := do
  let start ← invocation.options.config? read
  let (config, registry) ← start.override invocation.options.overrides
  match invocation.request with
  | .properties => return propertyTable registry
  | .map asJson =>
    let t ← topology config
    if asJson then return t.toJson.indented ++ "\n" else mapReport t
  | .route addr .narrow =>
    return routeReport (← (← topology config).resolveNarrow addr)
  | .route addr .wide =>
    return routeReport (← (← topology config).resolveWide addr)
where
  /-- The chip with standard clusters. -/
  topology (config : Config) : Except Fault Topology := do
    Topology.build (← ChipLayout.plan config) StandardCluster.build
      invocation.options.binary

def usage : String :=
  ofLines
    ["usage: [--config FILE] [-p NAME=VALUE]... [--binary FILE] [-v] REQUEST",
      "requests: map [--json] | route ADDR [--plane narrow|wide] | properties"]

/-- The answer to a command line. -/
def answer (args : List String) (read : String → Option ByteArray) : Answer :=
  match invocation? args with
  | none => { status := 2, output := "", errors := usage }
  | some invocation =>
    match invocation.output read with
    | .ok output => { status := 0, output, errors := "" }
    | .error .capacityOverflow =>
      { status := 101
        output := ""
        errors := Fault.message .capacityOverflow ++ "\n" }
    | .error fault =>
      { status := 1
        output := ""
        errors := "Error: " ++ fault.message ++ "\n" }

end ChipFabric.Command
