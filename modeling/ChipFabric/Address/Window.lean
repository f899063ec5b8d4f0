/-
Address windows: half-open intervals of the 64-bit address space. A window
holds at least one address and its end is itself a word, so it never wraps
and the last address of the space belongs to none; both facts are part of
the type. Everything else in the address map — regions, mappings, device
windows — is made of these.
-/
import ChipFabric.Json.Value
import ChipFabric.Text.Numeral

namespace ChipFabric

/-- The addresses from `base` up to, but not including, `base + size`. -/
structure Window where
  base : Nat
  size : Nat
  size_pos : 0 < size
  fits : base + size ≤ maxWord
  deriving DecidableEq

namespace Window

def stop (w : Window) : Nat := w.base + w.size

instance : Membership Nat Window where
  mem w addr := w.base ≤ addr ∧ addr < w.stop

instance (addr : Nat) (w : Window) : Decidable (addr ∈ w) :=
  inferInstanceAs (Decidable (w.base ≤ addr ∧ addr < w.stop))

theorem mem_def {addr : Nat} {w : Window} :
    addr ∈ w ↔ w.base ≤ addr ∧ addr < w.base + w.size := Iff.rfl

/-- No window is empty. -/
theorem base_mem (w : Window) : w.base ∈ w :=
  mem_def.2 ⟨Nat.le_refl _, Nat.lt_add_of_pos_right w.size_pos⟩

/-- How far into the window an address lies. -/
def offset? (w : Window) (addr : Nat) : Option Nat :=
  if addr ∈ w then some (addr - w.base) else none

def Overlaps (v w : Window) : Prop := v.base < w.stop ∧ w.base < v.stop

instance (v w : Window) : Decidable (v.Overlaps w) :=
  inferInstanceAs (Decidable (v.base < w.stop ∧ w.base < v.stop))

/-- The first window holds every address of the second. -/
def Encloses (v w : Window) : Prop := v.base ≤ w.base ∧ w.stop ≤ v.stop

instance (v w : Window) : Decidable (v.Encloses w) :=
  inferInstanceAs (Decidable (v.base ≤ w.base ∧ w.stop ≤ v.stop))

/-- Windows are ordered by base, and those of one base by size. -/
instance : Ord Window where
  compare v w := (compare v.base w.base).then (compare v.size w.size)

def text (w : Window) : String :=
  "[" ++ Numeral.hex w.base ++ ", " ++ Numeral.hex w.stop ++ ")"

def toJson (w : Window) : Json :=
  .object [("base", .natural w.base), ("size", .natural w.size)]

end Window

end ChipFabric
