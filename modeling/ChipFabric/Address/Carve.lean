/-
Making windows out of numbers, and windows inside windows. Both refuse what
would not be a window of the address space and name the base and size that
were asked for.
-/
import ChipFabric.Fault
import ChipFabric.Json.Section

namespace ChipFabric.Window

/-- The window of that base and size. -/
def make (base size : Nat) : Except Fault Window :=
  if h : 0 < size ∧ base + size ≤ maxWord then
    .ok ⟨base, size, h.1, h.2⟩
  else
    .error (.invalidWindow base size)

/-- The window of `size` addresses that starts `offset` addresses into `w`;
it has to lie inside `w`. -/
def carve (w : Window) (offset size : Nat) : Except Fault Window := do
  if maxWord < w.base + offset then
    throw (.invalidWindow w.base offset)
  let part ← make (w.base + offset) size
  if w.Encloses part then
    return part
  throw (.invalidWindow part.base part.size)

/-- The window that a JSON value describes: an object of its base and size,
or an array of the two. -/
def ofJson? (v : Json) : Option Window := do
  let [some base, some size] ← v.fields? ["base", "size"] | none
  (make (← base.word?).toNat (← size.word?).toNat).toOption

end ChipFabric.Window
