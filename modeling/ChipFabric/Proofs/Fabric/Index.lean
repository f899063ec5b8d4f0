/-
Tables with an index. A router can find the mapping of the greatest base
below a bound by an index from bases to places in the table, kept in the
order of the bases, instead of a search of the table; `Indexed` does all it
does by the index. `Consistent` says that the index and the table hold the
same: each place stands in the index once, under the base of its mapping.

# The statement

`calls_decode`: whatever is called on a new router, in any order and with or
without success, the table can be searched one mapping after another with the
same outcome (`Decodes`), and the router with an index goes through the same
tables and gives the same answers.
-/
import ChipFabric.Proofs.Fabric.Table
import Mathlib.Data.List.Sort

namespace ChipFabric

namespace Router

-- ============================================================== calls

/-- A call that declares something on a router or adds to its table. -/
inductive Call where
  | input (name : String)
  | output (name : String)
  | mapping (m : Mapping)

/-- The router after a call; one that fails changes nothing. -/
def after (router : Router) : Call → Router
  | .input name => router.withInput name
  | .output name => (router.declareOutput name).toOption.elim router (·.2)
  | .mapping m => (router.addMapping m).toOption.getD router

theorem Made.after {router : Router} (h : Made router) (call : Call) :
    Made (router.after call) := by
  cases call with
  | input name => exact h.withInput name
  | output name =>
    cases hstep : router.declareOutput name with
    | error fault => simpa [Router.after, hstep, Except.toOption] using h
    | ok declared =>
      simpa [Router.after, hstep, Except.toOption] using h.declareOutput hstep
  | mapping m =>
    cases hstep : router.addMapping m with
    | error fault => simpa [Router.after, hstep, Except.toOption] using h
    | ok extended =>
      simpa [Router.after, hstep, Except.toOption] using h.addMapping hstep

theorem Made.calls {router : Router} (h : Made router) (calls : List Call) :
    Made (calls.foldl Router.after router) := by
  induction calls generalizing router with
  | nil => exact h
  | cons call calls ih => exact ih (h.after call)

@[simp] theorem name_after (router : Router) (call : Call) :
    (router.after call).name = router.name := by
  cases call with
  | input name =>
    rw [Router.after, withInput]
    split <;> rfl
  | output name =>
    by_cases hname : name ∈ router.outputs <;>
      simp [Router.after, declareOutput, hname, Except.toOption]
  | mapping m =>
    cases hstep : router.addMapping m with
    | error fault => simp [Router.after, hstep, Except.toOption]
    | ok extended =>
      obtain ⟨-, -, rfl⟩ := addMapping_eq_ok_iff.1 hstep
      simp [Router.after, hstep, Except.toOption]

end Router

-- ============================================================== index

/-- Places by base, in the order of the bases. -/
abbrev Index := List (Nat × Nat)

namespace Index

/-- The index with the place of a base; if the base had a place before, that
one is dropped. -/
def insert (index : Index) (base place : Nat) : Index :=
  index.filter (·.1 < base) ++ (base, place) :: index.filter (base < ·.1)

/-- The place of the greatest base below a bound. -/
def lastBelow? (index : Index) (bound : Nat) : Option Nat :=
  (index.filter (·.1 < bound)).getLast?.map (·.2)

theorem mem_insert {index : Index} {base place : Nat} {at' : Nat × Nat} :
    at' ∈ index.insert base place ↔ at' = (base, place) ∨ at' ∈ index
      ∧ at'.1 ≠ base := by
  simp only [insert, List.mem_append, List.mem_cons, List.mem_filter,
    decide_eq_true_eq]
  have := Nat.lt_trichotomy at'.1 base
  grind

theorem pairwise_insert {index : Index} (h : index.Pairwise (·.1 < ·.1))
    (base place : Nat) : (index.insert base place).Pairwise (·.1 < ·.1) := by
  refine List.pairwise_append.2
    ⟨h.filter _, List.pairwise_cons.2 ⟨?_, h.filter _⟩, ?_⟩
  · intro later hlater
    simpa using (List.mem_filter.1 hlater).2
  · intro earlier hearlier other hother
    have hlt : earlier.1 < base := by
      simpa using (List.mem_filter.1 hearlier).2
    rcases List.mem_cons.1 hother with rfl | hother
    · exact hlt
    · exact Nat.lt_trans hlt (by simpa using (List.mem_filter.1 hother).2)

/-- The place found is in the index, below the bound, and no base below the
bound is greater. -/
theorem lastBelow?_eq_some {index : Index} (h : index.Pairwise (·.1 < ·.1))
    {bound place : Nat} (hplace : index.lastBelow? bound = some place) :
    ∃ base, (base, place) ∈ index ∧ base < bound
      ∧ ∀ other ∈ index, other.1 < bound → other.1 ≤ base := by
  obtain ⟨⟨base, place'⟩, hlast, rfl⟩ := Option.map_eq_some_iff.1 hplace
  obtain ⟨init, hinit⟩ := List.getLast?_eq_some_iff.1 hlast
  have hmem : (base, place') ∈ index.filter (·.1 < bound) := by simp [hinit]
  obtain ⟨hin, hbelow⟩ := List.mem_filter.1 hmem
  refine ⟨base, hin, by simpa using hbelow, fun other hother hlt => ?_⟩
  have hother' : other ∈ index.filter (·.1 < bound) :=
    List.mem_filter.2 ⟨hother, by simpa using hlt⟩
  have hsorted := h.filter (·.1 < bound)
  rw [hinit] at hother' hsorted
  rcases List.mem_append.1 hother' with hbefore | hat
  · obtain ⟨-, -, hbelow'⟩ := List.pairwise_append.1 hsorted
    exact Nat.le_of_lt (hbelow' other hbefore _ (List.mem_singleton_self _))
  · rw [List.mem_singleton.1 hat]

theorem lastBelow?_eq_none {index : Index} {bound : Nat}
    (h : index.lastBelow? bound = none) :
    ∀ other ∈ index, bound ≤ other.1 := by
  intro other hother
  rw [lastBelow?, Option.map_eq_none_iff, List.getLast?_eq_none_iff] at h
  have hnot := List.filter_eq_nil_iff.1 h other hother
  simpa using hnot

end Index

namespace Router

-- ==================================================== indexed routers

/-- A router with an index of its table. -/
structure Indexed where
  table : Router
  index : Index

namespace Indexed

def new (name : String) (bandwidth : Nat) : Indexed :=
  ⟨Router.new name bandwidth, []⟩

/-- The mapping of the greatest base below a bound, found by the index. -/
def lastBelow? (r : Indexed) (bound : Nat) : Option Mapping := do
  r.table.mappings[← r.index.lastBelow? bound]?

def checkFree (r : Indexed) (window : Window) : Except Fault Unit :=
  match r.lastBelow? window.stop with
  | some existing =>
    if existing.window.Overlaps window then
      .error (.overlappingMapping r.table.name window existing.window)
    else .ok ()
  | none => .ok ()

/-- A new mapping has the next place, and the index takes it in. -/
def addMapping (r : Indexed) (mapping : Mapping) : Except Fault Indexed := do
  if r.table.outputs.length ≤ mapping.port.index then
    throw (.undeclaredOutput r.table.name mapping.port.index)
  r.checkFree mapping.window
  return {
    table := { r.table with mappings := r.table.mappings ++ [mapping] }
    index := r.index.insert mapping.window.base r.table.mappings.length }

def resolve (r : Indexed) (addr : Nat) : Except Fault Resolved :=
  match (r.lastBelow? (addr + 1)).filter fun mapping =>
    addr ∈ mapping.window with
  | some mapping => .ok { mapping, localAddr := mapping.forward addr }
  | none => .error (.unmappedAddress r.table.name addr)

/-- The table in the order of the index. -/
def byAddress (r : Indexed) : List Mapping :=
  r.index.filterMap fun entry => r.table.mappings[entry.2]?

/-- The router after a call. Declarations do not touch the index. -/
def after (r : Indexed) : Call → Indexed
  | .input name => { r with table := r.table.after (.input name) }
  | .output name => { r with table := r.table.after (.output name) }
  | .mapping m => (r.addMapping m).toOption.getD r

/-- Every place of the table is in the index, under the base of its mapping,
and nothing else; the bases ascend. -/
structure Consistent (r : Indexed) : Prop where
  ascending : r.index.Pairwise (·.1 < ·.1)
  mem_iff : ∀ base place, (base, place) ∈ r.index ↔
    ∃ m, r.table.mappings[place]? = some m ∧ m.window.base = base

variable {r : Indexed}

/-- The index finds what a search of the table finds. -/
theorem Consistent.lastBelow?_eq (h : r.Consistent) (hsound : r.table.Sound)
    (bound : Nat) : r.lastBelow? bound = r.table.lastBelow? bound := by
  rw [lastBelow?]
  cases hplace : r.index.lastBelow? bound with
  | none =>
    cases hlast : r.table.lastBelow? bound with
    | none => rfl
    | some last =>
      obtain ⟨hmem, hbelow, -⟩ := Router.lastBelow?_eq_some hlast
      obtain ⟨place, hat⟩ := List.mem_iff_getElem?.1 hmem
      have hle :=
        Index.lastBelow?_eq_none hplace _ ((h.mem_iff _ _).2 ⟨last, hat, rfl⟩)
      exact absurd hbelow (Nat.not_lt.2 hle)
  | some place =>
    obtain ⟨base, hin, hbelow, hmax⟩ :=
      Index.lastBelow?_eq_some h.ascending hplace
    obtain ⟨m, hat, rfl⟩ := (h.mem_iff _ _).1 hin
    have hm := List.mem_of_getElem? hat
    cases hlast : r.table.lastBelow? bound with
    | none =>
      exact absurd hbelow (Nat.not_lt.2 (Router.lastBelow?_eq_none hlast m hm))
    | some last =>
      obtain ⟨hmem, hlt, hmax'⟩ := Router.lastBelow?_eq_some hlast
      obtain ⟨place', hat'⟩ := List.mem_iff_getElem?.1 hmem
      have hle : last.window.base ≤ m.window.base :=
        hmax _ ((h.mem_iff _ _).2 ⟨last, hat', rfl⟩) hlt
      -- two mappings of one base share that address, so they are one
      have hbase : m.window.base ∈ last.window := by
        rw [Nat.le_antisymm (hmax' m hm hbelow) hle]
        exact last.window.base_mem
      rw [hsound.eq_of_mem hmem hm hbase m.window.base_mem]
      exact hat

theorem Consistent.checkFree_eq (h : r.Consistent) (hsound : r.table.Sound)
    (window : Window) : r.checkFree window = r.table.checkFree window := by
  have hlast := h.lastBelow?_eq hsound window.stop
  cases htable : r.table.lastBelow? window.stop with
  | none => simp [checkFree, Router.checkFree, hlast, htable]
  | some last => simp [checkFree, Router.checkFree, hlast, htable]

theorem Consistent.resolve_eq (h : r.Consistent) (hsound : r.table.Sound)
    (addr : Nat) : r.resolve addr = r.table.resolve addr := by
  have hlast := h.lastBelow?_eq hsound (addr + 1)
  cases hat : r.table.mappingAt? addr with
  | none =>
    rw [mappingAt?] at hat
    simp [resolve, Router.resolve, mappingAt?, hlast, hat]
  | some m =>
    rw [mappingAt?] at hat
    simp [resolve, Router.resolve, mappingAt?, hlast, hat]

/-- Adding a mapping by the index does to the table what adding it without
does. -/
theorem Consistent.addMapping_eq (h : r.Consistent) (hsound : r.table.Sound)
    (m : Mapping) :
    r.addMapping m = (r.table.addMapping m).map fun extended =>
      ⟨extended, r.index.insert m.window.base r.table.mappings.length⟩ := by
  rw [addMapping, Router.addMapping, h.checkFree_eq hsound]
  by_cases hport : r.table.outputs.length ≤ m.port.index
  · simp [hport]
  · cases hfree : r.table.checkFree m.window
      <;> simp [hport, pure, Except.pure]

-- =============================================================== steps

theorem consistent_new (name : String) (bandwidth : Nat) :
    (new name bandwidth).Consistent :=
  ⟨.nil, by simp [new, Router.new]⟩

/-- An index that is consistent stays so while the mappings stay. -/
theorem Consistent.of_mappings_eq (h : r.Consistent) {table : Router}
    (hmappings : table.mappings = r.table.mappings) :
    Consistent { r with table } :=
  ⟨h.ascending,
    fun base place => by rw [hmappings]; exact h.mem_iff base place⟩

/-- A mapping that is added has a base that no other has, because its window
is free. -/
theorem Consistent.addMapping {extended : Indexed} {m : Mapping}
    (h : r.Consistent) (hsound : r.table.Sound)
    (hstep : r.addMapping m = .ok extended) : extended.Consistent := by
  rw [h.addMapping_eq hsound] at hstep
  cases hadd : r.table.addMapping m with
  | error fault =>
    rw [hadd] at hstep
    cases hstep
  | ok table =>
    rw [hadd, map_ok] at hstep
    cases hstep
    obtain ⟨-, hfree, rfl⟩ := addMapping_eq_ok_iff.1 hadd
    have hdisjoint := hsound.checkFree_eq_ok_iff.1 hfree
    refine ⟨Index.pairwise_insert h.ascending _ _, fun base place => ?_⟩
    rw [Index.mem_insert, Prod.mk.injEq, h.mem_iff]
    simp only [List.getElem?_append]
    constructor
    · rintro (⟨rfl, rfl⟩ | ⟨⟨old, hat, rfl⟩, -⟩)
      · exact ⟨m, by simp, rfl⟩
      · have hlt := (List.getElem?_eq_some_iff.1 hat).1
        exact ⟨old, by rw [if_pos hlt, hat], rfl⟩
    · rintro ⟨old, hat, rfl⟩
      split at hat
      · refine .inr ⟨⟨old, hat, rfl⟩, fun heq => ?_⟩
        have hover := Window.overlaps_of_mem old.window.base_mem
          (heq ▸ m.window.base_mem)
        exact hdisjoint old (List.mem_of_getElem? hat) hover
      · obtain ⟨hlt, rfl⟩ := List.getElem?_eq_some_iff.1 hat
        rw [List.length_singleton] at hlt
        exact .inl ⟨by simp, by omega⟩

/-- What a call does to the table is what it does to a router without an
index, and the index follows. -/
theorem Consistent.after (h : r.Consistent) (hsound : r.table.Sound)
    (call : Call) :
    (r.after call).Consistent ∧ (r.after call).table = r.table.after call := by
  cases call with
  | input name => exact ⟨h.of_mappings_eq (mappings_withInput _ _), rfl⟩
  | output name =>
    refine ⟨h.of_mappings_eq ?_, rfl⟩
    by_cases hname : name ∈ r.table.outputs <;>
      simp [Router.after, declareOutput, hname, Except.toOption]
  | mapping m =>
    have heq := h.addMapping_eq hsound m
    cases hadd : r.table.addMapping m with
    | error fault =>
      rw [hadd, map_error] at heq
      simpa [Indexed.after, Router.after, heq, hadd, Except.toOption] using h
    | ok table =>
      rw [hadd, map_ok] at heq
      have hnext := h.addMapping hsound heq
      simpa [Indexed.after, Router.after, heq, hadd,
        Except.toOption] using hnext

end Indexed

-- ========================================================== statement

/-- What callers rely on in a router: its windows are disjoint, its mappings
leave by declared outputs, and it answers as if it searched the table one
mapping after another. -/
structure Decodes (router : Router) : Prop where
  disjoint : router.mappings.Pairwise fun a b => a.window.Disjoint b.window
  declared : ∀ m ∈ router.mappings, ∃ output,
    router.outputName? m.port = some output
  /-- The look-up is the plain search, with the same fault where that finds
  nothing. -/
  resolve_eq : ∀ addr, router.resolve addr =
    match router.mappings.find? (addr ∈ ·.window) with
    | some mapping => .ok { mapping, localAddr := mapping.forward addr }
    | none => .error (.unmappedAddress router.name addr)
  ok_iff : ∀ addr, (∃ resolved, router.resolve addr = .ok resolved)
    ↔ ∃ m ∈ router.mappings, addr ∈ m.window
  unmapped_iff : ∀ addr, router.resolve addr = .error
    (.unmappedAddress router.name addr) ↔
    ∀ m ∈ router.mappings, addr ∉ m.window
  /-- The mapping returned is the one of the table that holds the address. -/
  only : ∀ addr resolved, router.resolve addr = .ok resolved → ∀ m,
    m ∈ router.mappings ∧ addr ∈ m.window ↔ m = resolved.mapping
  /-- Where addresses count from the base, they stay below the size. -/
  rebased : ∀ addr resolved, router.resolve addr = .ok resolved →
    resolved.mapping.rebase = true →
    resolved.mapping.window.base + resolved.localAddr = addr
      ∧ resolved.localAddr < resolved.mapping.window.size
  kept : ∀ addr resolved, router.resolve addr = .ok resolved →
    resolved.mapping.rebase = false →
    resolved.localAddr = addr
  byAddress_perm : router.byAddress.Perm router.mappings
  byAddress_ascending : router.byAddress.Pairwise fun a b =>
    a.window.base < b.window.base

variable {router : Router}

theorem resolve_eq_ok_iff {addr : Nat} {resolved : Resolved} :
    router.resolve addr = .ok resolved ↔
      router.mappingAt? addr = some resolved.mapping
      ∧ resolved.localAddr = resolved.mapping.forward addr := by
  obtain ⟨mapping, localAddr⟩ := resolved
  rw [resolve]
  cases router.mappingAt? addr with
  | none => simp
  | some m =>
    simp only [Except.ok.injEq, Resolved.mk.injEq, Option.some.injEq]; grind

/-- In a sound table the mapping found is the first that a plain search
finds. -/
theorem Sound.mappingAt?_eq_find? (h : router.Sound) (addr : Nat) :
    router.mappingAt? addr = router.mappings.find? (addr ∈ ·.window) := by
  cases hfind : router.mappings.find? (addr ∈ ·.window) with
  | none =>
    rw [h.mappingAt?_eq_none_iff]
    simpa using List.find?_eq_none.1 hfind
  | some m =>
    refine h.mappingAt?_eq_some_iff.2 ⟨List.mem_of_find?_eq_some hfind, ?_⟩
    simpa using List.find?_some hfind

/-- Mappings of disjoint windows have different bases. -/
theorem Sound.pairwise_base_ne (h : router.Sound) :
    router.mappings.Pairwise fun a b => a.window.base ≠ b.window.base :=
  h.disjoint.imp fun {a b} hdisjoint (heq : a.window.base = b.window.base) =>
    hdisjoint (Window.overlaps_of_mem a.window.base_mem
      (heq ▸ b.window.base_mem))

/-- There is one order in which the bases of the same mappings ascend. -/
theorem eq_of_ascending {ms ms' : List Mapping}
    (h : ms.Pairwise fun a b => a.window.base < b.window.base)
    (h' : ms'.Pairwise fun a b => a.window.base < b.window.base)
    (hmem : ∀ m, m ∈ ms ↔ m ∈ ms') : ms = ms' := by
  have hantisymm : Std.Antisymm fun a b : Mapping =>
      a.window.base < b.window.base :=
    ⟨fun _ _ hlt hgt => absurd hlt (Nat.lt_asymm hgt)⟩
  have hirrefl : Std.Irrefl fun a b : Mapping =>
      a.window.base < b.window.base :=
    ⟨fun _ => Nat.lt_irrefl _⟩
  exact h.eq_of_mem_iff h' hmem

theorem Sound.byAddress_ascending (h : router.Sound) :
    router.byAddress.Pairwise fun a b => a.window.base < b.window.base := by
  have hle : router.byAddress.Pairwise fun a b =>
      a.window.base ≤ b.window.base := by
    have htrans : ∀ a b c : Mapping, decide (a.window.base ≤ b.window.base) →
        decide (b.window.base ≤ c.window.base) →
          decide (a.window.base ≤ c.window.base) :=
      fun _ _ _ => by simpa using Nat.le_trans
    have htotal : ∀ a b : Mapping,
        decide (a.window.base ≤ b.window.base) || decide
          (b.window.base ≤ a.window.base) :=
      fun a b => by simp [Nat.le_total]
    simpa [byAddress] using List.pairwise_mergeSort htrans htotal
      router.mappings
  have hperm : router.byAddress.Perm router.mappings := List.mergeSort_perm _ _
  have hne :=
    (hperm.pairwise_iff fun hab heq => hab heq.symm).2 h.pairwise_base_ne
  exact (hle.and hne).imp fun hboth => Nat.lt_of_le_of_ne hboth.1 hboth.2

theorem Sound.decodes (h : router.Sound) : router.Decodes := by
  constructor
  case disjoint => exact h.disjoint.imp Window.disjoint_of_not_overlaps
  case declared =>
    intro m hm
    exact ⟨_, List.getElem?_eq_getElem (h.declared m hm)⟩
  case resolve_eq =>
    intro addr
    have hat := h.mappingAt?_eq_find? addr
    cases hfind : router.mappings.find? (addr ∈ ·.window) with
    | none => simp [resolve, hat, hfind]
    | some m => simp [resolve, hat, hfind]
  case ok_iff =>
    intro addr
    simp only [resolve_eq_ok_iff, h.mappingAt?_eq_some_iff]
    constructor
    · rintro ⟨resolved, hfound, -⟩
      exact ⟨resolved.mapping, hfound⟩
    · rintro ⟨m, hm⟩
      exact ⟨⟨m, m.forward addr⟩, hm, rfl⟩
  case unmapped_iff =>
    intro addr
    rw [← h.mappingAt?_eq_none_iff, resolve]
    cases router.mappingAt? addr <;> simp
  case only =>
    intro addr resolved hok m
    obtain ⟨hfound, -⟩ := resolve_eq_ok_iff.1 hok
    rw [← h.mappingAt?_eq_some_iff, hfound, Option.some.injEq, eq_comm]
  case rebased =>
    intro addr resolved hok hrebase
    obtain ⟨hfound, hlocal⟩ := resolve_eq_ok_iff.1 hok
    obtain ⟨hbase, hend⟩ := (mem_of_mappingAt? hfound).2
    rw [Mapping.forward, if_pos hrebase] at hlocal
    rw [Window.stop] at hend
    omega
  case kept =>
    intro addr resolved hok hkeep
    obtain ⟨-, hlocal⟩ := resolve_eq_ok_iff.1 hok
    rw [hlocal, Mapping.forward, hkeep]
    rfl
  case byAddress_perm => exact List.mergeSort_perm _ _
  case byAddress_ascending => exact h.byAddress_ascending

namespace Indexed

/-- The table in the order of a consistent index is the table in the order of
the windows. -/
theorem Consistent.byAddress_eq {r : Indexed} (h : r.Consistent)
    (hsound : r.table.Sound) : r.byAddress = r.table.byAddress := by
  have hascending : r.byAddress.Pairwise fun a b =>
      a.window.base < b.window.base := by
    refine List.pairwise_filterMap.2 (h.ascending.imp_of_mem ?_)
    intro entry other hentry hother hlt m hm m' hm'
    obtain ⟨old, hat, hbase⟩ := (h.mem_iff _ _).1 hentry
    obtain ⟨old', hat', hbase'⟩ := (h.mem_iff _ _).1 hother
    obtain rfl := Option.some.inj (hat.symm.trans hm)
    obtain rfl := Option.some.inj (hat'.symm.trans hm')
    rwa [hbase, hbase']
  have hmem : ∀ m, m ∈ r.byAddress ↔ m ∈ r.table.byAddress := by
    intro m
    rw [hsound.decodes.byAddress_perm.mem_iff, byAddress, List.mem_filterMap,
      List.mem_iff_getElem?]
    constructor
    · rintro ⟨entry, -, hat⟩
      exact ⟨entry.2, hat⟩
    · rintro ⟨place, hat⟩
      exact ⟨_, (h.mem_iff _ _).2 ⟨m, hat, rfl⟩, hat⟩
  exact eq_of_ascending hascending hsound.byAddress_ascending hmem

/-- Calls take a router with an index through the same tables as one
without. -/
theorem Consistent.calls {r : Indexed} (h : r.Consistent)
    (hmade : r.table.Made) (calls : List Call) :
    (calls.foldl Indexed.after r).Consistent
      ∧ (calls.foldl Indexed.after r).table =
        calls.foldl Router.after r.table := by
  induction calls generalizing r with
  | nil => exact ⟨h, rfl⟩
  | cons call calls ih =>
    obtain ⟨hnext, htable⟩ := h.after hmade.sound call
    obtain ⟨hlast, hall⟩ := ih hnext (htable ▸ hmade.after call)
    exact ⟨hlast, hall.trans (by rw [htable, List.foldl_cons])⟩

end Indexed

theorem name_calls (router : Router) (calls : List Call) :
    (calls.foldl Router.after router).name = router.name := by
  induction calls generalizing router with
  | nil => rfl
  | cons call calls ih => exact (ih _).trans (router.name_after call)

/-- Whatever was called on a new router, it answers as if it searched its
table; and so does a router that keeps an index, since the index holds every
place of the table once, in the order of the bases. -/
theorem calls_decode (name : String) (bandwidth : Nat) (calls : List Call) :
    let router := calls.foldl Router.after (Router.new name bandwidth)
    let indexed := calls.foldl Indexed.after (Indexed.new name bandwidth)
    router.Decodes ∧ router.name = name
      ∧ indexed.Consistent ∧ indexed.table = router
      ∧ indexed.byAddress = router.byAddress
      ∧ (∀ addr, indexed.resolve addr = router.resolve addr)
      ∧ ∀ window, indexed.checkFree window = router.checkFree window := by
  intro router indexed
  have hmade : router.Made := (Made.new name bandwidth).calls calls
  obtain ⟨hconsistent, htable⟩ : indexed.Consistent ∧ indexed.table = router :=
    (Indexed.consistent_new name bandwidth).calls (.new name bandwidth) calls
  have hsound : indexed.table.Sound := htable ▸ hmade.sound
  refine ⟨hmade.sound.decodes, name_calls _ calls, hconsistent, htable,
    ?_, ?_, ?_⟩
  · rw [hconsistent.byAddress_eq hsound, htable]
  · intro addr
    rw [hconsistent.resolve_eq hsound, htable]
  · intro window
    rw [hconsistent.checkFree_eq hsound, htable]

end Router

end ChipFabric
