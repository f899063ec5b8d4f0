/-
What a table lets in. A new window is compared with one mapping, the last that
starts before the window ends, and a refusal names that mapping. It speaks for
the whole table: if any window shares an address with the new one then this
one does, because a window that reached past it into the new one would share
its base (`Sound.checkFree_eq_ok_iff`); and of all that overlap it is the one
of the greatest base (`Blocks`), because every one of them starts before the
new window ends.

# A refusal leaves nothing behind

`Indexed.extend` adds a mapping to a router with an index as it stands, by an
update of the index and one of the table. Both come after everything that can
refuse the mapping, so it is all or nothing (`on_extend`).

# The statement

`calls_admit`: so every router answers that comes from a new one by calls, and
the router with an index does the same.
-/
import ChipFabric.Proofs.Fabric.Index

namespace ChipFabric

open Edit

namespace Router

variable {router : Router} {window : Window} {fault : Fault}

-- ==================================================== refused windows

/-- The mapping is the one of the greatest base among those whose windows
overlap the window. -/
structure Blocks (router : Router) (window : Window) (existing : Mapping) :
    Prop where
  mem : existing ∈ router.mappings
  overlaps : existing.window.Overlaps window
  greatest : ∀ m ∈ router.mappings, m.window.Overlaps window →
    m.window.base ≤ existing.window.base

/-- Two mappings of one base share that address, so that at most one blocks. -/
theorem Sound.eq_of_blocks (h : router.Sound) {a b : Mapping}
    (ha : router.Blocks window a) (hb : router.Blocks window b) : a = b := by
  have hle := ha.greatest b hb.mem hb.overlaps
  have hge := hb.greatest a ha.mem ha.overlaps
  have hbase : a.window.base ∈ b.window := by
    rw [Nat.le_antisymm hge hle]
    exact b.window.base_mem
  exact h.eq_of_mem ha.mem hb.mem a.window.base_mem hbase

/-- What refuses a window blocks it. -/
theorem exists_blocks_of_checkFree
    (hfault : router.checkFree window = .error fault) :
    ∃ existing, router.Blocks window existing
      ∧ fault = .overlappingMapping router.name window existing.window := by
  unfold checkFree at hfault
  cases hlast : router.lastBelow? window.stop with
  | none =>
    rw [hlast] at hfault
    cases hfault
  | some existing =>
    simp only [hlast] at hfault
    split at hfault
    · rename_i hover
      obtain ⟨hmem, -, hmax⟩ := lastBelow?_eq_some hlast
      refine ⟨existing, ⟨hmem, hover, ?_⟩, (Except.error.inj hfault).symm⟩
      intro m hm hm'
      exact hmax m hm hm'.1
    · cases hfault

/-- A window is refused exactly if a mapping blocks it, and by that mapping. -/
theorem Sound.checkFree_eq_error_iff (h : router.Sound) :
    router.checkFree window = .error fault ↔
      ∃ existing, router.Blocks window existing
      ∧ fault = .overlappingMapping router.name window existing.window := by
  constructor
  · exact exists_blocks_of_checkFree
  intro hblocked
  obtain ⟨existing, hblocks, rfl⟩ := hblocked
  cases hfree : router.checkFree window with
  | ok _ =>
    exact absurd hblocks.overlaps
      (h.checkFree_eq_ok_iff.1 hfree existing hblocks.mem)
  | error other =>
    obtain ⟨found, hfound, rfl⟩ := exists_blocks_of_checkFree hfree
    rw [h.eq_of_blocks hblocks hfound]

theorem Sound.exists_checkFree_eq_error_iff (h : router.Sound) :
    (∃ fault, router.checkFree window = .error fault) ↔
      ∃ m ∈ router.mappings, ∃ addr, addr ∈ m.window ∧ addr ∈ window := by
  constructor
  · intro hrefused
    obtain ⟨fault, hfault⟩ := hrefused
    obtain ⟨existing, hblocks, -⟩ := exists_blocks_of_checkFree hfault
    exact ⟨existing, hblocks.mem,
      Window.overlaps_iff_exists_mem.1 hblocks.overlaps⟩
  · intro hshared
    obtain ⟨m, hm, hover⟩ := hshared
    cases hfree : router.checkFree window with
    | ok _ =>
      have hapart := h.checkFree_eq_ok_iff.1 hfree m hm
      exact absurd (Window.overlaps_iff_exists_mem.2 hover) hapart
    | error fault => exact ⟨fault, rfl⟩

-- =================================================== refused mappings

/-- The output is asked for first. -/
theorem addMapping_eq_error_iff {m : Mapping} :
    router.addMapping m = .error fault ↔
      router.outputName? m.port = none
        ∧ fault = .undeclaredOutput router.name m.port.index
      ∨ router.outputName? m.port ≠ none
        ∧ router.checkFree m.window = .error fault := by
  rw [outputName?, Ne, List.getElem?_eq_none_iff, addMapping]
  by_cases hport : router.outputs.length ≤ m.port.index
  · simp [hport, eq_comm]
  · cases hfree : router.checkFree m.window <;> simp [hport]

/-- What callers rely on who add mappings to a router. -/
structure Admits (router : Router) : Prop where
  /-- A window is refused exactly if one in the table shares an address with
  it, -/
  refused_iff : ∀ window, (∃ fault, router.checkFree window = .error fault) ↔
    ∃ m ∈ router.mappings, ∃ addr, addr ∈ m.window ∧ addr ∈ window
  /-- and the fault names the one of the greatest base that overlaps it. -/
  names : ∀ window fault, router.checkFree window = .error fault → ∃ existing,
    router.Blocks window existing
      ∧ fault = .overlappingMapping router.name window existing.window
  /-- A mapping is refused for its port or for its window, -/
  fails_iff : ∀ m, (∃ fault, router.addMapping m = .error fault) ↔
    router.outputName? m.port = none
      ∨ ∃ fault, router.checkFree m.window = .error fault
  /-- with a fault of its own for the port. -/
  fault_iff : ∀ m fault, router.addMapping m = .error fault ↔
    router.outputName? m.port = none
      ∧ fault = .undeclaredOutput router.name m.port.index
    ∨ router.outputName? m.port ≠ none
      ∧ router.checkFree m.window = .error fault
  /-- One that is added stands last in the table, and nothing else is new. -/
  added : ∀ m extended, router.addMapping m = .ok extended →
    extended = { router with mappings := router.mappings ++ [m] }
  /-- Every address in its window is its own, -/
  inside : ∀ m extended, router.addMapping m = .ok extended →
    ∀ addr ∈ m.window, extended.resolve addr = .ok ⟨m, m.forward addr⟩
  /-- and every other is whose it was. -/
  outside : ∀ m extended, router.addMapping m = .ok extended →
    ∀ addr, addr ∉ m.window → extended.resolve addr = router.resolve addr

/-- The addresses of a table that a mapping was added to. -/
theorem Sound.resolve_addMapping (h : router.Sound) {extended : Router}
    {m : Mapping} (hstep : router.addMapping m = .ok extended) (addr : Nat) :
    extended.resolve addr =
      if addr ∈ m.window then .ok ⟨m, m.forward addr⟩
        else router.resolve addr := by
  have hextended := h.addMapping hstep
  obtain ⟨-, -, rfl⟩ := addMapping_eq_ok_iff.1 hstep
  exact h.resolve_concat hextended rfl rfl addr

theorem Sound.admits (h : router.Sound) : router.Admits := by
  constructor
  case refused_iff => exact fun _ => h.exists_checkFree_eq_error_iff
  case names => exact fun _ _ => exists_blocks_of_checkFree
  case fails_iff =>
    intro m
    simp only [addMapping_eq_error_iff]
    by_cases hport : router.outputName? m.port = none
    · simp [hport]
    · simp [hport]
  case fault_iff => exact fun _ _ => addMapping_eq_error_iff
  case added => exact fun _ _ hstep => (addMapping_eq_ok_iff.1 hstep).2.2
  case inside =>
    intro m extended hstep addr haddr
    rw [h.resolve_addMapping hstep, if_pos haddr]
  case outside =>
    intro m extended hstep addr haddr
    rw [h.resolve_addMapping hstep, if_neg haddr]

-- ==================================================== indexed routers

namespace Indexed

/-- Adds a mapping to the router: its place to the index, then itself to the
table. -/
def extend (mapping : Mapping) : Edit Indexed Unit := do
  let r ← get
  if r.table.outputs.length ≤ mapping.port.index then
    throw (.undeclaredOutput r.table.name mapping.port.index)
  r.checkFree mapping.window
  modify fun r =>
    { r with
      index :=
        r.index.insert mapping.window.base r.table.mappings.length }
  modify fun r => { r with table.mappings := r.table.mappings ++ [mapping] }

/-- It does what adding a mapping does, and leaves the router as it is where
that fails. -/
theorem on_extend (mapping : Mapping) (r : Indexed) :
    (extend mapping).on r =
      match r.addMapping mapping with
      | .error fault => (.error fault, r)
      | .ok extended => (.ok (), extended) := by
  simp only [extend, addMapping, on_bind, on_get]
  by_cases hport : r.table.outputs.length ≤ mapping.port.index
  · simp [hport]
  · cases hfree : r.checkFree mapping.window with
    | error fault => simp [hport, on_bind]
    | ok _ => simp [hport, on_bind, pure, Except.pure]

end Indexed

-- ========================================================== statement

/-- Whatever was called on a new router, it lets in the windows that share no
address with those in its table, and names the last of those that do; a mapping
that it lets in takes over its window and nothing else. A router with an index
refuses the same, and leaves its table and its index as they were; and where it
adds a mapping it comes to the same table and the same answers. -/
theorem calls_admit (name : String) (bandwidth : Nat) (calls : List Call) :
    let router := calls.foldl Router.after (Router.new name bandwidth)
    let indexed := calls.foldl Indexed.after (Indexed.new name bandwidth)
    router.Admits ∧ indexed.table = router
      ∧ (∀ window, indexed.checkFree window = router.checkFree window)
      ∧ (∀ m fault, router.addMapping m = .error fault →
          (Indexed.extend m).on indexed = (.error fault, indexed))
      ∧ ∀ m extended, router.addMapping m = .ok extended →
          ∃ next, (Indexed.extend m).on indexed = (.ok (), next)
            ∧ next.Consistent
            ∧ next.table = extended
            ∧ ∀ addr, next.resolve addr = extended.resolve addr := by
  intro router indexed
  have hsound : router.Sound := ((Made.new name bandwidth).calls calls).sound
  obtain ⟨hconsistent, htable⟩ : indexed.Consistent ∧ indexed.table = router :=
    (Indexed.consistent_new name bandwidth).calls (.new name bandwidth) calls
  have hsound' : indexed.table.Sound := htable ▸ hsound
  refine ⟨hsound.admits, htable, ?_, ?_, ?_⟩
  · intro window
    rw [hconsistent.checkFree_eq hsound', htable]
  · intro m fault hfault
    have hadd := hconsistent.addMapping_eq hsound' m
    rw [htable, hfault, map_error] at hadd
    rw [Indexed.on_extend, hadd]
  · intro m extended hstep
    have hadd := hconsistent.addMapping_eq hsound' m
    rw [htable, hstep, map_ok] at hadd
    refine ⟨_, by rw [Indexed.on_extend, hadd],
      hconsistent.addMapping hsound' hadd, rfl, ?_⟩
    exact (hconsistent.addMapping hsound' hadd).resolve_eq
      (hsound.addMapping hstep)

end Router

end ChipFabric
