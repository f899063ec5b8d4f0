import ChipFabric.Main
import ChipFabric.Property.Registry.Lemmas
import ChipFabric.Proofs.Fabric.Exits
import ChipFabric.Proofs.Fabric.Validation
import ChipFabric.Proofs.Topology.Routing
import ChipFabric.Proofs.Layout.Harts
import ChipFabric.Proofs.Layout.Acceptance
import ChipFabric.Proofs.Fabric.Reaches
import ChipFabric.Proofs.Topology.Cores
import ChipFabric.Proofs.Topology.Masters
import ChipFabric.Proofs.Fabric.Served
import ChipFabric.Proofs.Fabric.Outside
import ChipFabric.Proofs.Topology.Standing
import ChipFabric.Proofs.Topology.Collaborator
import ChipFabric.Proofs.Topology.Intact
import ChipFabric.Proofs.Topology.AddressMap
import ChipFabric.Proofs.Topology.Devices
import ChipFabric.Proofs.Fabric.Index
import ChipFabric.Proofs.Layout.Partition
import ChipFabric.Proofs.Fabric.Bindings
import ChipFabric.Proofs.Fabric.Extension
import ChipFabric.Proofs.Fabric.Inputs
import ChipFabric.Proofs.Fabric.Handles
import ChipFabric.Proofs.Fabric.Directory
import ChipFabric.Proofs.Property.History
import ChipFabric.Proofs.Topology.Entry
import ChipFabric.Proofs.Fabric.Trail
import ChipFabric.Proofs.Json.RoundTrip
import ChipFabric.Proofs.Json.Section
import ChipFabric.Proofs.Config.RoundTrip
import ChipFabric.Proofs.Config.Reading
import ChipFabric.Proofs.Fabric.Worklist
import ChipFabric.Proofs.Fabric.Ways
import ChipFabric.Proofs.Fabric.Atomic
import ChipFabric.Proofs.Fabric.Reordering
import ChipFabric.Proofs.Fabric.Siblings
import ChipFabric.Proofs.Fabric.LateInput
import ChipFabric.Proofs.Text.Numeral
import ChipFabric.Proofs.Property.Settled
import ChipFabric.Proofs.Config.Override
import ChipFabric.Proofs.Layout.Cluster
import ChipFabric.Proofs.Fabric.Beside
import ChipFabric.Proofs.Fabric.Added
import ChipFabric.Proofs.Topology.Crossbar
import ChipFabric.Proofs.Topology.Inserted
import ChipFabric.Proofs.Property.Shown
import ChipFabric.Proofs.Address.Addresses
