/-
The leaf devices of a topology, as structure only: what each is, how large
its window is, and whether it answers accesses itself. Memories and
peripherals do; the loader, cores and DMA engines only issue accesses.
-/
import ChipFabric.Config.Text

namespace ChipFabric

inductive Device where
  | bootRom (size : Nat)
  | hbm (model : HbmModel) (size : Nat)
  /-- Plain memory; a `zero` memory reads as zero and drops writes. -/
  | memory (size : Nat) (zero : Bool)
  | peripherals (size : Nat)
  /-- The loader of the binary, if one is given, which starts the cores at
  `entry`. -/
  | loader (binary : Option String) (entry : Nat)
  /-- A core with its number on the chip and in its cluster. -/
  | core (hart localId : Nat)
  | dma (cluster : Nat)
  deriving DecidableEq, Repr

namespace Device

/-- The image the boot ROM is filled from. -/
def bootImage : String := "pulp/snitch/bootrom.bin"

/-- The size of the window the device answers in, if it answers accesses. -/
def size? : Device → Option Nat
  | bootRom size => some size
  | hbm _ size => some size
  | memory size _ => some size
  | peripherals size => some size
  | loader .. => none
  | core .. => none
  | dma _ => none

def isTerminal (device : Device) : Bool := device.size?.isSome

/-- The sort of device, for reports. -/
def label : Device → String
  | bootRom _ => "rom"
  | hbm .simple _ => "memory"
  | hbm .dramsys _ => "dramsys"
  | memory .. => "memory"
  | peripherals _ => "peripherals"
  | loader .. => "loader"
  | core .. => "core"
  | dma _ => "dma"

/-- The fields of the device as JSON; `type` says which they are. -/
def fields : Device → List (String × Json)
  | bootRom size =>
    [("type", .string "boot_rom"), ("size", .natural size),
      ("stim_file", .string bootImage)]
  | hbm .simple size =>
    [("type", .string "hbm"), ("model", .string "simple"),
      ("size", .natural size), ("atomics", .bool true)]
  | hbm .dramsys size =>
    [("type", .string "hbm"), ("model", .string "dramsys"),
      ("size", .natural size)]
  | memory size zero =>
    [("type", .string "memory"), ("size", .natural size), ("zero", .bool zero)]
  | peripherals size =>
    [("type", .string "peripherals"), ("size", .natural size)]
  | loader binary entry =>
    [("type", .string "loader"), ("binary", .ofOption .string binary),
      ("entry_addr", .natural entry)]
  | core hart localId =>
    [("type", .string "core"), ("hart_id", .natural hart),
      ("local_id", .natural localId)]
  | dma cluster => [("type", .string "dma"), ("cluster", .natural cluster)]

def toJson (device : Device) : Json := .object device.fields

end Device

/-- The name of the external memory on the board. -/
def HbmModel.instanceName : HbmModel → String
  | simple => "mem"
  | dramsys => "ddr"

end ChipFabric
