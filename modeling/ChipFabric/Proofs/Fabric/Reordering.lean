/-
Mappings in any order. The table keeps its mappings in the order they were
added, and the index of a router keeps their places, so two routers that were
given the same mappings in different orders are different. What they answer is
the same: it depends on which mappings there are and not on where they stand
(`Sound.answers_eq_of_perm`).

# When they are all added

One mapping after another is added exactly if all their windows are disjoint
(`Sound.addMappings_eq_ok_iff`, by induction on the mappings that are left,
where the table takes in one more each time). That is said of the mappings
without their order.

# The statement

`either_order`: on a router with an empty table, with or without an index, the
same mappings in two orders are both added or both refused, and then the same
answers are given.
-/
import ChipFabric.Proofs.Fabric.Admission

namespace ChipFabric

namespace Router

variable {router last : Router} {m : Mapping} {ms : List Mapping}

-- ======================================================= many mappings

/-- The router with all these mappings, added one after another; the first that
is refused ends it. -/
def addMappings (router : Router) (ms : List Mapping) : Except Fault Router :=
  ms.foldlM addMapping router

theorem addMappings_cons (router : Router) (m : Mapping) (ms : List Mapping) :
    router.addMappings (m :: ms) = router.addMapping m >>= fun next =>
      next.addMappings ms :=
  List.foldlM_cons

/-- A row of mappings that is accepted leaves a sound table. -/
theorem Sound.addMappings (h : router.Sound)
    (hok : router.addMappings ms = .ok last) : last.Sound := by
  induction ms generalizing router with
  | nil =>
    cases hok
    exact h
  | cons m ms ih =>
    rw [addMappings_cons, bind_eq_ok_iff] at hok
    obtain ⟨next, hstep, hrest⟩ := hok
    exact ih (h.addMapping hstep) hrest

/-- Mappings to outputs of the router are all added exactly if their windows
overlap neither each other nor those in the table. -/
theorem Sound.addMappings_eq_ok_iff (h : router.Sound)
    (hports : ∀ m ∈ ms, m.port.index < router.outputs.length) :
    router.addMappings ms = .ok last ↔
      (router.mappings ++ ms).Pairwise
          (fun a b => ¬ a.window.Overlaps b.window)
        ∧ last = { router with mappings := router.mappings ++ ms } := by
  induction ms generalizing router with
  | nil =>
    rw [List.append_nil]
    constructor
    · intro hok
      cases hok
      exact ⟨h.disjoint, rfl⟩
    · intro hall
      rw [hall.2]
      rfl
  | cons m ms ih =>
    obtain ⟨hport, hports⟩ := List.forall_mem_cons.1 hports
    rw [addMappings_cons, bind_eq_ok_iff, List.append_cons]
    constructor
    · intro hok
      obtain ⟨next, hstep, hrest⟩ := hok
      have hnext := h.addMapping hstep
      obtain ⟨-, -, rfl⟩ := addMapping_eq_ok_iff.1 hstep
      exact (ih hnext hports).1 hrest
    · intro hall
      -- of the mappings that are left the first is free already
      have hfirst := (List.pairwise_append.1 hall.1).1
      have hfree : router.checkFree m.window = .ok () := by
        apply checkFree_of_disjoint
        intro old hold
        exact (List.pairwise_append.1 hfirst).2.2 old hold m
          (List.mem_singleton_self m)
      have hstep := addMapping_eq_ok_iff.2 ⟨hport, hfree, rfl⟩
      exact ⟨_, hstep, (ih (h.addMapping hstep) hports).2 hall⟩

-- ============================================================= answers

/-- All that a router answers to questions about its table. -/
structure Answers where
  resolve : Nat → Except Fault Resolved
  checkFree : Window → Except Fault Unit
  byAddress : List Mapping

def answers (router : Router) : Answers :=
  ⟨router.resolve, router.checkFree, router.byAddress⟩

/-- The same mappings block a window, wherever they stand. -/
theorem Blocks.of_perm {other : Router} {window : Window}
    (h : router.Blocks window m)
    (hperm : router.mappings.Perm other.mappings) : other.Blocks window m := by
  refine ⟨hperm.mem_iff.1 h.mem, h.overlaps, ?_⟩
  intro old hold
  exact h.greatest old (hperm.mem_iff.2 hold)

/-- Windows that are disjoint are found in any order. -/
theorem Sound.resolve_eq_of_perm {other : Router} (h : router.Sound)
    (h' : other.Sound) (hname : router.name = other.name)
    (hperm : router.mappings.Perm other.mappings) (addr : Nat) :
    router.resolve addr = other.resolve addr := by
  have hat : router.mappingAt? addr = other.mappingAt? addr := by
    apply Option.ext
    intro m
    rw [h.mappingAt?_eq_some_iff, h'.mappingAt?_eq_some_iff, hperm.mem_iff]
  rw [resolve, resolve, hat, hname]

/-- Of the windows in the way, the one with the greatest base is reported,
wherever it stands. -/
theorem Sound.checkFree_eq_of_perm {other : Router} (h : router.Sound)
    (h' : other.Sound) (hname : router.name = other.name)
    (hperm : router.mappings.Perm other.mappings) (window : Window) :
    router.checkFree window = other.checkFree window := by
  cases hfree : router.checkFree window with
  | ok _ =>
    symm
    apply h'.checkFree_eq_ok_iff.2
    intro old hold
    exact h.checkFree_eq_ok_iff.1 hfree old (hperm.mem_iff.2 hold)
  | error fault =>
    obtain ⟨existing, hblocks, rfl⟩ := exists_blocks_of_checkFree hfree
    rw [hname]
    exact (h'.checkFree_eq_error_iff.2 ⟨existing, hblocks.of_perm hperm,
      rfl⟩).symm

/-- What is answered does not depend on where the mappings stand. -/
theorem Sound.answers_eq_of_perm {other : Router} (h : router.Sound)
    (h' : other.Sound) (hname : router.name = other.name)
    (hperm : router.mappings.Perm other.mappings) :
    router.answers = other.answers := by
  have hresolve : router.resolve = other.resolve :=
    funext (h.resolve_eq_of_perm h' hname hperm)
  have hfree : router.checkFree = other.checkFree :=
    funext (h.checkFree_eq_of_perm h' hname hperm)
  have hsorted : router.byAddress = other.byAddress := by
    apply eq_of_ascending h.byAddress_ascending h'.byAddress_ascending
    intro m
    rw [h.decodes.byAddress_perm.mem_iff, h'.decodes.byAddress_perm.mem_iff,
      hperm.mem_iff]
  rw [answers, answers, hresolve, hfree, hsorted]

-- ========================================================== two orders

/-- The same mappings in two orders: each order is taken in exactly if their
windows are disjoint, and whichever was, the answers are the same. -/
structure EitherOrder {ρ : Type} (add : List Mapping → Except Fault ρ)
    (answers : ρ → Answers)
    (ms ms' : List Mapping) : Prop where
  added_iff : (∃ r, add ms = .ok r) ↔
    ms.Pairwise fun a b => a.window.Disjoint b.window
  added_iff' : (∃ r, add ms' = .ok r) ↔
    ms.Pairwise fun a b => a.window.Disjoint b.window
  answers_eq : ∀ r r', add ms = .ok r → add ms' = .ok r' →
    answers r = answers r'

/-- On an empty table only the windows that are added can be in the way. -/
theorem Sound.exists_addMappings_iff (h : router.Sound)
    (hempty : router.mappings = [])
    (hports : ∀ m ∈ ms, m.port.index < router.outputs.length) :
    (∃ last, router.addMappings ms = .ok last) ↔
      ms.Pairwise fun a b => a.window.Disjoint b.window := by
  simp only [h.addMappings_eq_ok_iff hports, hempty, List.nil_append,
    exists_and_left, exists_eq, and_true, Window.not_overlaps_iff_disjoint]

/-- A row of mappings is accepted in one order if it is in another, and
answers the same. -/
theorem Sound.eitherOrder (h : router.Sound) (hempty : router.mappings = [])
    {ms' : List Mapping}
    (hports : ∀ m ∈ ms, m.port.index < router.outputs.length)
    (hperm : ms.Perm ms') :
    EitherOrder router.addMappings Router.answers ms ms' := by
  have hports' : ∀ m ∈ ms', m.port.index < router.outputs.length :=
    fun m hm => hports m (hperm.mem_iff.2 hm)
  constructor
  case added_iff => exact h.exists_addMappings_iff hempty hports
  case added_iff' =>
    rw [h.exists_addMappings_iff hempty hports']
    exact (hperm.pairwise_iff Window.Disjoint.symm).symm
  case answers_eq =>
    intro r r' hr hr'
    have hsound := h.addMappings hr
    have hsound' := h.addMappings hr'
    obtain ⟨-, rfl⟩ := (h.addMappings_eq_ok_iff hports).1 hr
    obtain ⟨-, rfl⟩ := (h.addMappings_eq_ok_iff hports').1 hr'
    exact hsound.answers_eq_of_perm hsound' rfl
      (hperm.append_left router.mappings)

-- ==================================================== indexed routers

namespace Indexed

def addMappings (r : Indexed) (ms : List Mapping) : Except Fault Indexed :=
  ms.foldlM addMapping r

def answers (r : Indexed) : Answers := ⟨r.resolve, r.checkFree, r.byAddress⟩

/-- The index answers for its table. -/
theorem Consistent.answers_eq {r : Indexed} (h : r.Consistent)
    (hsound : r.table.Sound) : r.answers = r.table.answers := by
  have hresolve : r.resolve = r.table.resolve := funext (h.resolve_eq hsound)
  have hfree : r.checkFree = r.table.checkFree :=
    funext (h.checkFree_eq hsound)
  rw [answers, Router.answers, hresolve, hfree, h.byAddress_eq hsound]

/-- Mappings are added to the table as they are without the index, and the
index follows. -/
theorem Consistent.addMappings {r : Indexed} (h : r.Consistent)
    (hsound : r.table.Sound) (ms : List Mapping) :
    (r.addMappings ms).map Indexed.table = r.table.addMappings ms
      ∧ ∀ last, r.addMappings ms = .ok last → last.Consistent := by
  induction ms generalizing r with
  | nil =>
    refine ⟨rfl, fun last hlast => ?_⟩
    cases hlast
    exact h
  | cons m ms ih =>
    have hstep := h.addMapping_eq hsound m
    have hcons : r.addMappings (m :: ms) = r.addMapping m >>= fun next =>
        next.addMappings ms :=
      List.foldlM_cons
    cases hadd : r.table.addMapping m with
    | error fault =>
      rw [hadd, map_error] at hstep
      rw [hcons, addMappings_cons, hstep, hadd, error_bind, error_bind]
      exact ⟨rfl, nofun⟩
    | ok extended =>
      rw [hadd, map_ok] at hstep
      rw [hcons, addMappings_cons, hstep, hadd, ok_bind, ok_bind]
      exact ih (h.addMapping hsound hstep) (hsound.addMapping hadd)

theorem Consistent.exists_addMappings_iff {r : Indexed} (h : r.Consistent)
    (hsound : r.table.Sound) (ms : List Mapping) :
    (∃ last, r.addMappings ms = .ok last) ↔
      ∃ table, r.table.addMappings ms = .ok table := by
  rw [← (h.addMappings hsound ms).1]
  cases r.addMappings ms <;> simp

/-- What is so of tables is so of tables with an index. -/
theorem Consistent.eitherOrder {r : Indexed} (h : r.Consistent)
    (hsound : r.table.Sound) {ms ms' : List Mapping}
    (hboth : EitherOrder r.table.addMappings Router.answers ms ms') :
    EitherOrder r.addMappings Indexed.answers ms ms' := by
  constructor
  case added_iff => rw [h.exists_addMappings_iff hsound, hboth.added_iff]
  case added_iff' => rw [h.exists_addMappings_iff hsound, hboth.added_iff']
  case answers_eq =>
    intro last last' hlast hlast'
    obtain ⟨htable, hconsistent⟩ := h.addMappings hsound ms
    obtain ⟨htable', hconsistent'⟩ := h.addMappings hsound ms'
    rw [hlast, map_ok] at htable
    rw [hlast', map_ok] at htable'
    rw [(hconsistent last hlast).answers_eq (hsound.addMappings htable.symm),
      (hconsistent' last' hlast').answers_eq (hsound.addMappings htable'.symm)]
    exact hboth.answers_eq _ _ htable.symm htable'.symm

end Indexed

-- ========================================================== statement

/-- On a router that was made by calls and has no mappings yet, mappings to its
outputs can be added in either of two orders: in both they are all added
exactly if their windows are disjoint, and then the answers are the same to
every address and every window, and so is the table in the order of the
windows. An index makes no difference. -/
theorem either_order {name : String} {bandwidth : Nat} {calls : List Call}
    {router : Router}
    (hrouter : calls.foldl Router.after (Router.new name bandwidth) = router)
    (hempty : router.mappings = []) {ms ms' : List Mapping}
    (hports : ∀ m ∈ ms, router.outputName? m.port ≠ none)
    (hperm : ms.Perm ms') :
    EitherOrder router.addMappings Router.answers ms ms'
      ∧ EitherOrder
        (calls.foldl Indexed.after (Indexed.new name bandwidth)).addMappings
        Indexed.answers ms ms' := by
  have hsound : router.Sound :=
    hrouter ▸ ((Made.new name bandwidth).calls calls).sound
  obtain ⟨hconsistent, htable⟩ := (Indexed.consistent_new name bandwidth).calls
    (.new name bandwidth) calls
  have htable :
      (calls.foldl Indexed.after (Indexed.new name bandwidth)).table =
        router :=
    htable.trans hrouter
  have hports : ∀ m ∈ ms, m.port.index < router.outputs.length := by
    intro m hm
    have hsome := hports m hm
    rwa [outputName?, Ne, List.getElem?_eq_none_iff, not_le] at hsome
  have hboth := hsound.eitherOrder hempty hports hperm
  exact ⟨hboth, hconsistent.eitherOrder (htable ▸ hsound) (htable ▸ hboth)⟩

end Router

open Router

/-- Three windows, of which the second touches the first and the third. -/
def touchingMappings : List Mapping :=
  [⟨⟨0x1000, 0x800, by decide, by decide⟩, ⟨0⟩, true, {}⟩,
    ⟨⟨0x1800, 0x600, by decide, by decide⟩, ⟨1⟩, false, {}⟩,
    ⟨⟨0x1e00, 0x280, by decide, by decide⟩, ⟨0⟩, true, {}⟩]

def twoExits : Router := { Router.new "r" 8 with outputs := ["a", "b"] }

/-- Upwards and downwards the tables are different, but not the answers. -/
theorem touchingMappings_either_order :
    [Call.output "a", .output "b"].foldl Router.after (.new "r" 8) = twoExits
      ∧ twoExits.mappings = []
      ∧ (∀ m ∈ touchingMappings, twoExits.outputName? m.port ≠ none)
      ∧ touchingMappings.Perm touchingMappings.reverse
      ∧ ∃ up down, twoExits.addMappings touchingMappings = .ok up
        ∧ twoExits.addMappings touchingMappings.reverse = .ok down
        ∧ up ≠ down ∧ up.answers = down.answers := by
  have hrouter : [Call.output "a", .output "b"].foldl Router.after
    (.new "r" 8) = twoExits := rfl
  have hports : ∀ m ∈ touchingMappings,
    twoExits.outputName? m.port ≠ none := by decide
  have hperm := touchingMappings.reverse_perm.symm
  obtain ⟨hboth, -⟩ := either_order hrouter rfl hports hperm
  have hapart : touchingMappings.Pairwise fun a b =>
      a.window.Disjoint b.window := by
    simp only [← Window.not_overlaps_iff_disjoint]
    decide
  obtain ⟨up, hup⟩ := hboth.added_iff.2 hapart
  obtain ⟨down, hdown⟩ := hboth.added_iff'.2 hapart
  refine ⟨hrouter, rfl, hports, hperm, up, down, hup, hdown, ?_,
    hboth.answers_eq _ _ hup hdown⟩
  cases hup
  cases hdown
  decide

end ChipFabric
