/-
What a port leads to. `Graph.Reaches` says it without a bound: bindings
through forward ports lead from the port to an end, a port that does not pass
on. The bounded search lists exactly these ends if it lists anything
(`mem_inputsWithin_iff`), and more depth changes nothing in what it lists.

# Branching

Where bindings branch, the inputs a port leads to are those of its targets
taken together. So what a forward port leads to is part of what any port
bound to it leads to (`exists_reachableInputs_of_forward`); and two shapes of
branching are enough to follow a fan-out, from a port to inputs
(`inputsWithin_of_inputs`) and from a port to forward ports
(`inputsWithin_of_forwards`).
-/
import ChipFabric.Edit
import ChipFabric.Fabric.Reach
import Mathlib.Data.List.Basic

namespace ChipFabric.Graph

variable {g : Graph} {source : PortId}

-- ============================================================= search

theorem isForward_eq_true_iff {id : PortId} :
    g.isForward id = true ↔ (g.port id).direction = .forward :=
  decide_eq_true_iff

theorem mem_targets_iff {target : PortId} :
    target ∈ g.targets source ↔ ⟨source, target⟩ ∈ g.bindings := by
  simp only [targets, List.mem_map, List.mem_filter, Array.mem_toList_iff,
    decide_eq_true_eq]
  constructor
  · rintro ⟨⟨_, _⟩, ⟨hb, rfl⟩, rfl⟩
    exact hb
  · exact fun h => ⟨_, ⟨h, rfl⟩, rfl⟩

/-- A row of partial steps succeeds if each of them does. -/
theorem mapM_eq_some_iff {α β : Type} {f : α → Option β} {as : List α}
    {bs : List β} : as.mapM f = some bs ↔ as.map f = bs.map some := by
  induction as generalizing bs with
  | nil => cases bs <;> simp
  | cons a as ih =>
    simp only [List.mapM_cons, Option.pure_def, Option.bind_eq_bind,
      Option.bind_eq_some_iff, ih, Option.some.injEq, List.map_cons]
    constructor
    · rintro ⟨b, ha, bs, has, rfl⟩
      rw [ha, has, List.map_cons]
    · cases bs with
      | nil => nofun
      | cons b bs =>
        exact fun h => ⟨b, (List.cons.inj h).1, bs, (List.cons.inj h).2, rfl⟩

theorem exists_eq_succ_of_inputsWithin {depth : Nat} {found : List PortId}
    (h : g.inputsWithin depth source = some found) : ∃ d, depth = d + 1 := by
  cases depth with
  | zero => cases h
  | succ d => exact ⟨d, rfl⟩

/-- What the search lists are the inputs bound to the port, and what it lists
for the forward ports bound to it. -/
theorem inputsWithin_succ_eq_some_iff {depth : Nat} {found : List PortId} :
    g.inputsWithin (depth + 1) source = some found ↔
      ∃ further : List (List PortId),
      ((g.targets source).filter g.isForward).reverse.map
        (g.inputsWithin depth) = further.map some
        ∧ found = (g.targets source).filter (fun target => !g.isForward target)
          ++ further.flatten := by
  simp only [inputsWithin, Option.bind_eq_bind, Option.bind_eq_some_iff,
    mapM_eq_some_iff, Option.pure_def, Option.some.injEq, eq_comm (b := found)]

/-- What a forward port leads to is part of what a port bound to it leads
to. -/
theorem exists_inputsWithin_of_forward {depth : Nat} {found : List PortId}
    {target : PortId} (h : g.inputsWithin (depth + 1) source = some found)
    (htarget : target ∈ g.targets source)
    (hforward : g.isForward target = true) :
    ∃ part, g.inputsWithin depth target = some part ∧ part.Sublist found := by
  obtain ⟨further, hfurther, rfl⟩ := inputsWithin_succ_eq_some_iff.1 h
  have hmem : g.inputsWithin depth target ∈ further.map some := by
    rw [← hfurther]
    exact List.mem_map_of_mem
      (List.mem_reverse.2 (List.mem_filter.2 ⟨htarget, hforward⟩))
  obtain ⟨part, hpart, heq⟩ := List.mem_map.1 hmem
  exact ⟨part, heq.symm,
    (List.sublist_flatten_of_mem hpart).trans (List.sublist_append_right _ _)⟩

/-- A row of partial steps stops if one of them does. -/
theorem mapM_eq_none_iff {α β : Type} {f : α → Option β} {as : List α} :
    as.mapM f = none ↔ ∃ a ∈ as, f a = none := by
  induction as with
  | nil => simp
  | cons a as ih =>
    cases ha : f a with
    | none => simp [List.mapM_cons, ha]
    | some b =>
      simp only [List.exists_mem_cons_iff, ha, reduceCtorEq, false_or, ← ih]
      cases hrest : as.mapM f <;> simp [List.mapM_cons, ha, hrest]

/-- The search stops only because it does at a forward port bound to the
port. -/
theorem exists_onward_of_inputsWithin_eq_none {depth : Nat}
    (h : g.inputsWithin (depth + 1) source = none) :
    ∃ target ∈ g.targets source, g.isForward target = true
      ∧ g.inputsWithin depth target = none := by
  simp only [inputsWithin, Option.bind_eq_bind, Option.bind_eq_none_iff,
    Option.pure_def, reduceCtorEq, imp_false] at h
  obtain ⟨target, hmem, hnone⟩ :=
    mapM_eq_none_iff.1 (Option.eq_none_iff_forall_ne_some.2 h)
  obtain ⟨htarget, hforward⟩ := List.mem_filter.1 (List.mem_reverse.1 hmem)
  exact ⟨target, htarget, hforward, hnone⟩

/-- More depth lists the same. -/
theorem inputsWithin_mono {depth deeper : Nat} {found : List PortId}
    (h : g.inputsWithin depth source = some found) (hle : depth ≤ deeper) :
    g.inputsWithin deeper source = some found := by
  induction depth generalizing source deeper found with
  | zero => cases h
  | succ depth ih =>
    obtain ⟨deeper, rfl⟩ :=
      Nat.exists_eq_succ_of_ne_zero (Nat.ne_zero_of_lt hle)
    obtain ⟨further, hfurther, rfl⟩ := inputsWithin_succ_eq_some_iff.1 h
    refine inputsWithin_succ_eq_some_iff.2 ⟨further, ?_, rfl⟩
    rw [← hfurther]
    refine List.map_congr_left fun target htarget => ?_
    have hmem := List.mem_map_of_mem (f := g.inputsWithin depth) htarget
    rw [hfurther] at hmem
    obtain ⟨part, -, hpart⟩ := List.mem_map.1 hmem
    rw [← hpart]
    exact ih hpart.symm (Nat.le_of_succ_le_succ hle)

-- =========================================================== relation

/-- Bindings lead from the port to that end; all ports on the way are forward
ports. -/
inductive Reaches (g : Graph) : PortId → PortId → Prop
  | direct {source target : PortId} (htarget : target ∈ g.targets source)
      (hend : g.isForward target = false) : Reaches g source target
  | onward {source middle target : PortId}
      (hmiddle : middle ∈ g.targets source)
      (hforward : g.isForward middle = true) (h : Reaches g middle target) :
      Reaches g source target

/-- If the search lists anything, it lists all that the port leads to and
nothing else. -/
theorem mem_inputsWithin_iff {depth : Nat} {found : List PortId}
    (h : g.inputsWithin depth source = some found) {target : PortId} :
    target ∈ found ↔ g.Reaches source target := by
  constructor
  · induction depth generalizing source found with
    | zero => cases h
    | succ depth ih =>
      obtain ⟨further, hfurther, rfl⟩ := inputsWithin_succ_eq_some_iff.1 h
      intro htarget
      rcases List.mem_append.1 htarget with htarget | htarget
      · obtain ⟨htarget, hend⟩ := List.mem_filter.1 htarget
        exact .direct htarget (by simpa using hend)
      · obtain ⟨part, hpart, htarget⟩ := List.mem_flatten.1 htarget
        have hmem := List.mem_map_of_mem (f := some) hpart
        rw [← hfurther] at hmem
        obtain ⟨middle, hmiddle, heq⟩ := List.mem_map.1 hmem
        obtain ⟨hmiddle, hforward⟩ :=
          List.mem_filter.1 (List.mem_reverse.1 hmiddle)
        exact .onward hmiddle hforward (ih heq htarget)
  · intro hreaches
    induction hreaches generalizing depth found with
    | direct htarget hend =>
      obtain ⟨depth, rfl⟩ := exists_eq_succ_of_inputsWithin h
      obtain ⟨further, -, rfl⟩ := inputsWithin_succ_eq_some_iff.1 h
      exact List.mem_append_left _
        (List.mem_filter.2 ⟨htarget, by simp [hend]⟩)
    | onward hmiddle hforward _ ih =>
      obtain ⟨depth, rfl⟩ := exists_eq_succ_of_inputsWithin h
      obtain ⟨part, hpart, hsub⟩ :=
        exists_inputsWithin_of_forward h hmiddle hforward
      exact hsub.subset (ih hpart)

theorem reachableInputs_eq_ok_iff {found : List PortId} :
    g.reachableInputs source = .ok found ↔
      g.inputsWithin (g.ports.size + 1) source = some found := by
  rw [reachableInputs]
  cases g.inputsWithin (g.ports.size + 1) source <;> simp

theorem mem_reachableInputs_iff {found : List PortId}
    (h : g.reachableInputs source = .ok found) {target : PortId} :
    target ∈ found ↔ g.Reaches source target :=
  mem_inputsWithin_iff (reachableInputs_eq_ok_iff.1 h)

/-- A port is followed to an input exactly if that is all it leads to. -/
theorem follow_eq_ok_iff {target : PortId} :
    g.follow source = .ok target ↔
      g.reachableInputs source = .ok [target] := by
  rw [follow]
  cases g.reachableInputs source with
  | error fault => simp
  | ok found =>
    match found with
    | [] => simp
    | [only] => simp [pure, Except.pure]
    | _ :: _ :: _ => simp

theorem Reaches.eq_of_follow {target found : PortId}
    (h : g.Reaches source target) (hfollow : g.follow source = .ok found) :
    target = found :=
  List.mem_singleton.1
    ((mem_reachableInputs_iff (follow_eq_ok_iff.1 hfollow)).2 h)

theorem exists_reachableInputs_of_forward {found : List PortId}
    {target : PortId} (h : g.reachableInputs source = .ok found)
    (htarget : target ∈ g.targets source)
    (hforward : g.isForward target = true) :
    ∃ part, g.reachableInputs target = .ok part ∧ part.Sublist found := by
  obtain ⟨part, hpart, hsub⟩ :=
    exists_inputsWithin_of_forward (reachableInputs_eq_ok_iff.1 h)
      htarget hforward
  exact ⟨part,
    reachableInputs_eq_ok_iff.2 (inputsWithin_mono hpart (Nat.le_succ _)),
    hsub⟩

-- ============================================================ fan-out

/-- A port that is bound to inputs only leads to them. -/
theorem inputsWithin_of_inputs (h : ∀ target ∈ g.targets source,
      g.isForward target = false)
    (depth : Nat) :
    g.inputsWithin (depth + 1) source = some (g.targets source) := by
  have hdirect : (g.targets source).filter
      (fun target => !g.isForward target) = g.targets source :=
      List.filter_eq_self.2 fun target htarget => by simp [h target htarget]
  have honward : (g.targets source).filter g.isForward = [] :=
    List.filter_eq_nil_iff.2 fun target htarget => by simp [h target htarget]
  simp [inputsWithin, hdirect, honward]

/-- A port that is bound to forward ports only leads to what they lead to, the
last one bound first. -/
theorem inputsWithin_of_forwards {depth : Nat} {found : PortId → List PortId}
    (h : ∀ target ∈ g.targets source, g.isForward target = true
      ∧ g.inputsWithin depth target = some (found target)) :
    g.inputsWithin (depth + 1) source =
      some ((g.targets source).reverse.flatMap found) := by
  have hdirect : (g.targets source).filter
      (fun target => !g.isForward target) = [] :=
    List.filter_eq_nil_iff.2 fun target htarget => by
      simp [(h target htarget).1]
  have honward : (g.targets source).filter g.isForward = g.targets source :=
    List.filter_eq_self.2 fun target htarget => (h target htarget).1
  refine inputsWithin_succ_eq_some_iff.2
    ⟨(g.targets source).reverse.map found, ?_, ?_⟩
  · rw [honward, List.map_map]
    exact List.map_congr_left fun target htarget =>
      (h target (List.mem_reverse.1 htarget)).2
  · rw [hdirect, List.nil_append, List.flatMap]

end ChipFabric.Graph
