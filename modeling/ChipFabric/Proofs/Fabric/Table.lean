/-
Router tables. A router looks an address up by taking the mapping of the
greatest base at or below it and asking whether that one window holds the
address; a new window is compared with one mapping only, the last that
starts before it ends. Both shortcuts are right because windows in a table
are disjoint, and they stay disjoint because of the second one.

# The invariant

`Router.Sound` says what holds of every table that was made by declaring
inputs and outputs and adding mappings: no two windows share an address,
every mapping leaves by a declared output, and no name stands twice among
the inputs or among the outputs.
`Router.Made.sound` is the induction. With it, `mappingAt?_eq_some_iff`
replaces the look-up by plain membership, and `checkFree_eq_ok_iff` the
comparison with one window by that with all of them.
-/
import ChipFabric.Fabric.Router
import ChipFabric.Proofs.Address.Window
import Mathlib.Data.List.Nodup
import Mathlib.Data.List.Pairwise
import Mathlib.Tactic.ByContra

namespace ChipFabric

namespace Router

-- ========================================================== look-up

/-- The mapping found below a bound is in the table, starts below the bound,
and no other that does starts later. -/
theorem lastBelow?_eq_some {router : Router} {bound : Nat} {last : Mapping}
    (h : router.lastBelow? bound = some last) :
    last ∈ router.mappings ∧ last.window.base < bound
      ∧ ∀ m ∈ router.mappings, m.window.base < bound →
        m.window.base ≤ last.window.base := by
  have hlast := List.maxOn?_mem h
  simp only [List.mem_filter, decide_eq_true_eq] at hlast
  refine ⟨hlast.1, hlast.2, fun m hm hbelow => ?_⟩
  have hm' : m ∈ router.mappings.filter (·.window.base < bound) := by
    simp [hm, hbelow]
  have hle := List.le_apply_get_maxOn?_of_mem (f := (·.window.base)) hm'
  rw [lastBelow?] at h
  simpa only [h, Option.get_some] using hle

/-- Nothing is found below a bound only if nothing starts there. -/
theorem lastBelow?_eq_none {router : Router} {bound : Nat}
    (h : router.lastBelow? bound = none) :
    ∀ m ∈ router.mappings, bound ≤ m.window.base := by
  intro m hm
  by_contra hlt
  have hm' : m ∈ router.mappings.filter (·.window.base < bound) := by
    simp [hm]
    omega
  have hsome := List.isSome_maxOn?_of_mem (f := (·.window.base)) hm'
  rw [lastBelow?] at h
  simp [h] at hsome

/-- What is found at an address is in the table and holds the address. -/
theorem mem_of_mappingAt? {router : Router} {addr : Nat} {m : Mapping}
    (h : router.mappingAt? addr = some m) : m ∈ router.mappings
      ∧ addr ∈ m.window := by
  obtain ⟨hlast, hmem⟩ := Option.filter_eq_some_iff.1 h
  exact ⟨(lastBelow?_eq_some hlast).1, by simpa using hmem⟩

-- ======================================================== invariant

/-- A table whose windows are disjoint, and whose mappings leave by outputs
that were declared; inputs and outputs have distinct names. -/
structure Sound (router : Router) : Prop where
  disjoint : router.mappings.Pairwise fun a b => ¬ a.window.Overlaps b.window
  declared : ∀ m ∈ router.mappings, m.port.index < router.outputs.length
  inputs_nodup : router.inputs.Nodup
  outputs_nodup : router.outputs.Nodup

/-- A router as it can be made: new, and then extended step by step. -/
inductive Made : Router → Prop
  | new (name : String) (bandwidth : Nat) : Made (new name bandwidth)
  | withInput {router : Router} (name : String) (h : Made router) :
      Made (router.withInput name)
  | declareOutput {router extended : Router} {name : String}
      {port : RouterPort} (h : Made router)
      (hstep : router.declareOutput name = .ok (port, extended)) :
      Made extended
  | addMapping {router extended : Router} {m : Mapping} (h : Made router)
      (hstep : router.addMapping m = .ok extended) : Made extended

instance : Std.Symm fun a b : Mapping => ¬ a.window.Overlaps b.window :=
  ⟨fun _ _ hab hba => hab hba.symm⟩

/-- In a sound table two mappings whose windows share an address are one. -/
theorem Sound.eq_of_mem {router : Router} (h : router.Sound) {a b : Mapping}
    {addr : Nat} (ha : a ∈ router.mappings) (hb : b ∈ router.mappings)
    (haddr : addr ∈ a.window) (hbaddr : addr ∈ b.window) : a = b := by
  by_contra hne
  exact h.disjoint.forall ha hb hne (Window.overlaps_of_mem haddr hbaddr)

/-- In a sound table the look-up finds the mapping whose window holds the
address. -/
theorem Sound.mappingAt?_eq_some_iff {router : Router} (h : router.Sound)
    {addr : Nat} {m : Mapping} : router.mappingAt? addr = some m ↔
      m ∈ router.mappings ∧ addr ∈ m.window := by
  constructor
  · exact mem_of_mappingAt?
  rintro ⟨hm, hmem⟩
  have hbelow : m.window.base < addr + 1 := Nat.lt_succ_of_le hmem.1
  cases hlast : router.lastBelow? (addr + 1) with
  | none =>
    have := lastBelow?_eq_none hlast m hm
    omega
  | some last =>
    obtain ⟨hin, hstart, hmax⟩ := lastBelow?_eq_some hlast
    -- the later of the two bases lies in both windows, so they are one
    have hle := hmax m hm hbelow
    have hbase : last.window.base ∈ m.window := by
      rw [Window.mem_def] at hmem ⊢
      omega
    obtain rfl := h.eq_of_mem hm hin hbase last.window.base_mem
    simp [mappingAt?, hlast, hmem]

/-- The base of a mapping's window leads to that mapping. -/
theorem Sound.mappingAt?_base {router : Router} (h : router.Sound)
    {m : Mapping} (hm : m ∈ router.mappings) :
    router.mappingAt? m.window.base = some m :=
  h.mappingAt?_eq_some_iff.2 ⟨hm, m.window.base_mem⟩

/-- Nothing is found exactly where no window holds the address. -/
theorem Sound.mappingAt?_eq_none_iff {router : Router} (h : router.Sound)
    {addr : Nat} :
    router.mappingAt? addr = none ↔
      ∀ m ∈ router.mappings, addr ∉ m.window := by
  constructor
  · intro hnone m hm hmem
    rw [h.mappingAt?_eq_some_iff.2 ⟨hm, hmem⟩] at hnone
    cases hnone
  · intro hout
    cases hat : router.mappingAt? addr with
    | none => rfl
    | some m =>
      obtain ⟨hm, hmem⟩ := mem_of_mappingAt? hat
      exact absurd hmem (hout m hm)

-- ====================================================== new windows

/-- A window that overlaps none in the table is free. -/
theorem checkFree_of_disjoint {router : Router} {w : Window}
    (h : ∀ m ∈ router.mappings, ¬ m.window.Overlaps w) :
    router.checkFree w = .ok () := by
  unfold checkFree
  cases hlast : router.lastBelow? w.stop with
  | none => rfl
  | some last => exact if_neg (h last (lastBelow?_eq_some hlast).1)

/-- In a sound table a window is free exactly if it overlaps none. -/
theorem Sound.checkFree_eq_ok_iff {router : Router} (h : router.Sound)
    {w : Window} :
    router.checkFree w = .ok () ↔
      ∀ m ∈ router.mappings, ¬ m.window.Overlaps w := by
  refine ⟨fun hfree m hm hover => ?_, checkFree_of_disjoint⟩
  rw [checkFree] at hfree
  cases hlast : router.lastBelow? w.stop with
  | none =>
    have := lastBelow?_eq_none hlast m hm
    have := hover.1
    omega
  | some last =>
    simp only [hlast, ite_eq_right_iff, reduceCtorEq, imp_false] at hfree
    obtain ⟨hin, hstart, hmax⟩ := lastBelow?_eq_some hlast
    have hle := hmax m hm hover.1
    by_cases heq : last.window.base < m.window.stop
    · -- `m` reaches the base of the last one, so it is the last one
      obtain rfl := h.eq_of_mem hm hin ⟨hle, heq⟩ last.window.base_mem
      exact hfree hover
    · -- `m` ends before the last one starts, and so does the new window
      have hover₂ := hover.2
      have hpos := last.window.size_pos
      simp only [Window.Overlaps, Window.stop] at hfree heq hstart hover₂
      omega

-- ============================================================ steps

@[simp] theorem mappings_new (name : String) (bandwidth : Nat) :
    (new name bandwidth).mappings = [] := rfl

@[simp] theorem outputs_new (name : String) (bandwidth : Nat) :
    (new name bandwidth).outputs = [] := rfl

@[simp] theorem mappings_withInput (router : Router) (name : String) :
    (router.withInput name).mappings = router.mappings := by
  unfold withInput
  split <;> rfl

@[simp] theorem outputs_withInput (router : Router) (name : String) :
    (router.withInput name).outputs = router.outputs := by
  unfold withInput
  split <;> rfl

theorem declareOutput_eq_ok_iff {router extended : Router} {name : String}
    {port : RouterPort} :
    router.declareOutput name = .ok (port, extended) ↔
      name ∉ router.outputs ∧ port = ⟨router.outputs.length⟩
        ∧ extended = { router with outputs := router.outputs ++ [name] } := by
  unfold declareOutput
  by_cases hname : name ∈ router.outputs
  · simp [hname]
  · simp [hname, eq_comm]

theorem addMapping_eq_ok_iff {router extended : Router} {m : Mapping} :
    router.addMapping m = .ok extended ↔
      m.port.index < router.outputs.length ∧ router.checkFree m.window = .ok ()
        ∧ extended = { router with mappings := router.mappings ++ [m] } := by
  unfold addMapping
  by_cases hport : router.outputs.length ≤ m.port.index
  · have hnot : ¬ m.port.index < router.outputs.length := by omega
    simp [hport, hnot]
  · have hlt : m.port.index < router.outputs.length := by omega
    cases hfree : router.checkFree m.window with
    | error fault => simp [hport, hlt]
    | ok _ => simp [hport, hlt, eq_comm]

theorem Sound.addMapping {router extended : Router} {m : Mapping}
    (h : router.Sound) (hstep : router.addMapping m = .ok extended) :
    extended.Sound := by
  obtain ⟨hport, hfree, rfl⟩ := addMapping_eq_ok_iff.1 hstep
  refine ⟨?_, ?_, h.inputs_nodup, h.outputs_nodup⟩
  · refine List.pairwise_append.2 ⟨h.disjoint, List.pairwise_singleton _ _, ?_⟩
    intro a ha b hb
    rw [List.mem_singleton] at hb
    subst hb
    exact h.checkFree_eq_ok_iff.1 hfree a ha
  · intro a ha
    rcases List.mem_append.1 ha with ha | ha
    · exact h.declared a ha
    · rw [List.mem_singleton] at ha
      subst ha
      exact hport

/-- The addresses of a mapping that was added are its own, and all others are
whose they were. -/
theorem Sound.resolve_concat {router next : Router} {m : Mapping}
    (h : router.Sound) (hnext : next.Sound)
    (hmappings : next.mappings = router.mappings ++ [m])
    (hname : next.name = router.name) (addr : Nat) :
    next.resolve addr =
      if addr ∈ m.window then .ok ⟨m, m.forward addr⟩
        else router.resolve addr := by
  by_cases haddr : addr ∈ m.window
  · have hat : next.mappingAt? addr = some m := by
      apply hnext.mappingAt?_eq_some_iff.2
      rw [hmappings]
      exact ⟨List.mem_append_right _ (List.mem_singleton_self m), haddr⟩
    rw [if_pos haddr, resolve, hat]
  · have hat : next.mappingAt? addr = router.mappingAt? addr := by
      apply Option.ext
      intro other
      rw [hnext.mappingAt?_eq_some_iff, h.mappingAt?_eq_some_iff, hmappings,
        List.mem_append, List.mem_singleton]
      constructor
      · intro hother
        obtain ⟨hold | rfl, hmem⟩ := hother
        · exact ⟨hold, hmem⟩
        · exact absurd hmem haddr
      · intro hother
        exact ⟨.inl hother.1, hother.2⟩
    rw [if_neg haddr, resolve, resolve, hat, hname]

theorem Sound.declareOutput {router extended : Router} {name : String}
    {port : RouterPort} (h : router.Sound)
    (hstep : router.declareOutput name = .ok (port, extended)) :
    extended.Sound := by
  obtain ⟨hname, -, rfl⟩ := declareOutput_eq_ok_iff.1 hstep
  have hnodup := List.Nodup.concat hname h.outputs_nodup
  rw [List.concat_eq_append] at hnodup
  refine ⟨h.disjoint, fun m hm => ?_, h.inputs_nodup, hnodup⟩
  have := h.declared m hm
  simp only [List.length_append, List.length_singleton]
  omega

theorem Sound.withInput {router : Router} (name : String) (h : router.Sound) :
    (router.withInput name).Sound := by
  refine ⟨by simpa using h.disjoint, by simpa using h.declared,
    ?_, by simpa using h.outputs_nodup⟩
  rw [Router.withInput]
  by_cases hname : name ∈ router.inputs
  · simpa [hname] using h.inputs_nodup
  · simpa [hname] using List.Nodup.concat hname h.inputs_nodup

theorem Made.sound {router : Router} (h : Made router) : router.Sound := by
  induction h with
  | new name bandwidth =>
    exact ⟨.nil, nofun, List.pairwise_singleton _ _, .nil⟩
  | withInput name _ ih => exact ih.withInput name
  | declareOutput _ hstep ih => exact ih.declareOutput hstep
  | addMapping _ hstep ih => exact ih.addMapping hstep

end Router

end ChipFabric
