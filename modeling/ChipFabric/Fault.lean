/-
What can go wrong. A fault is the cause, with the names and numbers that
belong to it; the wording is one function of the fault. Faults of the
configuration stop a build, an unmapped address is a bus fault of an access
that was routed, and a signature mismatch is a binding between ports of two
sorts. One fault is not handed to anybody: to ask for more room than there
can be ends the program.
-/
import ChipFabric.Address.Window
import ChipFabric.Text.Quoted

namespace ChipFabric

/-- The use a port was put to in a binding. -/
inductive BindingRole where
  | source
  | target
  deriving DecidableEq, Repr

def BindingRole.text : BindingRole → String
  | source => "source"
  | target => "target"

/-- The cause of a failure. -/
inductive Fault where
  /-- A window that is empty or does not end within the address space. -/
  | invalidWindow (base size : Nat)
  /-- A mapping whose window shares addresses with one already in the table. -/
  | overlappingMapping (router : String) (new existing : Window)
  | undeclaredOutput (router : String) (port : Nat)
  /-- A second port of one name on a component or router. -/
  | duplicatePort (component port : String)
  | duplicateProperty (name : String)
  | undeclaredProperty (name : String)
  /-- An override recorded after its property was declared. -/
  | lateOverride (name : String)
  /-- An override of a property that nobody declared. -/
  | unknownProperty (name : String)
  /-- A text that cannot be read as the value expected. -/
  | unreadableValue (name value expected : String)
  | notAllowed (name value : String) (allowed : List String)
  | notPositive (setting : String)
  | clusterCountMismatch (expected found : Nat)
  | noCores (cluster : Nat)
  /-- The hart numbers of a cluster do not fit in a word. -/
  | hartOverflow (cluster : Nat)
  /-- The memories of a cluster do not fit into its window. -/
  | clusterFootprint (footprint stride : Nat)
  | regionOverlap (first : String) (firstWindow : Window)
      (second : String) (secondWindow : Window)
  /-- A cluster was built with another number of cores than was laid out. -/
  | coreCountMismatch (cluster expected reported : Nat)
  | unboundPort (component port : String)
  /-- A port that leads to more than one input. -/
  | ambiguousBinding (component port : String) (count : Nat)
  | directionMismatch (component port : String) (role : BindingRole)
  | duplicateComponent (path : String)
  /-- An access that was still on its way after that many hops. -/
  | routingLoop (addr hops : Nat)
  | notARouter (path : String)
  /-- A port that leads to something that cannot answer an access. -/
  | notTerminal (component port : String)
  | unmappedAddress (router : String) (addr : Nat)
  | signatureMismatch (source target expected found : String)
  /-- A configuration text that does not fit the configuration. -/
  | malformedConfig
  | unreadableFile
  /-- More room asked for at once than an allocation can have. Nobody gets
  this fault for an answer: the program ends where it arises. -/
  | capacityOverflow
  deriving DecidableEq

namespace Fault

def message : Fault → String
  | invalidWindow base size =>
    "invalid address range: base " ++ Numeral.hex base ++ ", size "
      ++ Numeral.hex size
  | overlappingMapping router new existing =>
    "router '" ++ router ++ "': mapping " ++ new.text
      ++ " overlaps existing mapping " ++ existing.text
  | undeclaredOutput router port =>
    "router '" ++ router ++ "' has no output port #" ++ Numeral.decimal port
  | duplicatePort component port =>
    "'" ++ component ++ "' already declares port '" ++ port ++ "'"
  | duplicateProperty name => "property '" ++ name ++ "' is already declared"
  | undeclaredProperty name => "property '" ++ name ++ "' is not declared"
  | lateOverride name =>
    "property '" ++ name ++ "' is already declared; overrides must come first"
  | unknownProperty name => "unknown property '" ++ name ++ "'"
  | unreadableValue name value expected =>
    "property '" ++ name ++ "': cannot read '" ++ value ++ "' as " ++ expected
  | notAllowed name value allowed =>
    "property '" ++ name ++ "': '" ++ value ++ "' is not one of "
      ++ Text.quotedList allowed
  | notPositive setting => "'" ++ setting ++ "' must be greater than zero"
  | clusterCountMismatch expected found =>
    "cluster_cores lists " ++ Numeral.decimal found
      ++ " clusters but nb_cluster is " ++ Numeral.decimal expected
  | noCores cluster => "cluster " ++ Numeral.decimal cluster ++ " has no cores"
  | hartOverflow cluster =>
    "hart IDs of cluster " ++ Numeral.decimal cluster
      ++ " overflow the hart counter"
  | clusterFootprint footprint stride =>
    "cluster footprint " ++ Numeral.hex footprint
      ++ " exceeds the cluster stride " ++ Numeral.hex stride
  | regionOverlap first firstWindow second secondWindow =>
    "region '" ++ first ++ "' " ++ firstWindow.text
      ++ " overlaps region '" ++ second ++ "' " ++ secondWindow.text
  | coreCountMismatch cluster expected reported =>
    "cluster " ++ Numeral.decimal cluster ++ " reports "
      ++ Numeral.decimal reported ++ " cores, layout expects "
      ++ Numeral.decimal expected
  | unboundPort component port =>
    "port '" ++ port ++ "' of '" ++ component ++ "' is not bound"
  | ambiguousBinding component port count =>
    "port '" ++ port ++ "' of '" ++ component ++ "' is bound to "
      ++ Numeral.decimal count ++ " targets"
  | directionMismatch component port role =>
    "port '" ++ port ++ "' of '" ++ component ++ "' cannot be used as "
      ++ role.text
  | duplicateComponent path => "component '" ++ path ++ "' already exists"
  | routingLoop addr hops =>
    "routing " ++ Numeral.hex addr ++ " did not terminate after "
      ++ Numeral.decimal hops ++ " hops"
  | notARouter path => "component '" ++ path ++ "' is not a router"
  | notTerminal component port =>
    "port '" ++ port ++ "' of '" ++ component
      ++ "' does not lead to a router or terminal device"
  | unmappedAddress router addr =>
    "unmapped address " ++ Numeral.hex addr ++ " on router '" ++ router ++ "'"
  | signatureMismatch source target expected found =>
    "cannot bind '" ++ source ++ "' to '" ++ target
      ++ "': signature '" ++ found ++ "' does not match '" ++ expected ++ "'"
  | malformedConfig => "invalid configuration"
  | unreadableFile => "cannot read"
  | capacityOverflow => "capacity overflow"

end Fault

end ChipFabric
