/-
Chains and circles. A chain is a row of bindings from a port to an input, with
forward ports between them; bindings are told apart by their places in the
graph's record, so two bindings of the same two ports make two chains. A
search without a record of what it has seen comes along every chain once, and
comes to an end unless forward ports are bound in a circle.

# The statement

`gathers_of_reachable`: from every port of a reachable graph the search ends.
It fails exactly if a circle of forward ports can be reached, and then by its
own limit; otherwise it lists each input once for every chain to it, and
nothing else.

# The limit

A search that is cut off at some depth has gone through as many forward ports
(`exists_walk`). The limit is one more than there are ports, so one of them
stands twice on the way, and what lies between is a circle
(`leadsToCircle_of_inputsWithin_eq_none`). A circle on the other hand is never
left, whatever the depth (`LeadsToCircle.inputsWithin_eq_none`).

# The count

`chainsWithin` goes the way of the search and notes the chains themselves. It
notes no chain twice and leaves none out (`nodup_chainsWithin`,
`mem_chainsWithin_iff`), and what the search lists are their ends
(`map_snd_chainsWithin`).
-/
import ChipFabric.Proofs.Fabric.Handles
import ChipFabric.Proofs.Fabric.Worklist
import Mathlib.Data.Fintype.Pigeonhole
import Mathlib.Data.Set.Card
import Mathlib.Order.SuccPred.Relation

namespace ChipFabric

namespace Graph

variable {g : Graph} {source target : PortId}

-- ============================================================ circles

/-- A binding leads from the one port to the other. -/
def Bound (g : Graph) (source target : PortId) : Prop :=
  ⟨source, target⟩ ∈ g.bindings

/-- A binding leads from the one port to the other, which passes on. -/
def Onward (g : Graph) (source target : PortId) : Prop :=
  g.Bound source target ∧ g.isForward target = true

/-- Bindings lead from the port to one that is on a circle of forward ports. -/
def LeadsToCircle (g : Graph) (source : PortId) : Prop :=
  ∃ id, Relation.ReflTransGen g.Bound source id
    ∧ Relation.TransGen g.Onward id id

/-- What is bound to something and something to it passes on. -/
theorem Reachable.isForward_of_bound (hg : g.Reachable) {id : PortId}
    (hto : g.Bound source id) (hfrom : g.Bound id target) :
    g.isForward id = true := by
  have hreceives := (hg.directed _ hto).2
  have hissues := (hg.directed _ hfrom).1
  rw [isForward_eq_true_iff]
  cases hdirection : (g.port id).direction with
  | forward => rfl
  | input => rw [hdirection] at hissues; cases hissues
  | output => rw [hdirection] at hreceives; cases hreceives

/-- From a port that leads to a circle a binding leads to another one. -/
theorem LeadsToCircle.exists_bound (h : g.LeadsToCircle source) :
    ∃ target, g.Bound source target ∧ g.LeadsToCircle target := by
  obtain ⟨id, hpath, hcircle⟩ := h
  rcases Relation.ReflTransGen.cases_head hpath with rfl | ⟨target,
    hbound, hrest⟩
  · obtain ⟨target, honward, hback⟩ := Relation.TransGen.head'_iff.1 hcircle
    refine ⟨target, honward.1, source, ?_, hcircle⟩
    exact Relation.ReflTransGen.mono (fun _ _ h => h.1) _ _ hback
  · exact ⟨target, hbound, id, hrest, hcircle⟩

/-- The search is never done with a port that leads to a circle. -/
theorem LeadsToCircle.inputsWithin_eq_none (hg : g.Reachable)
    (h : g.LeadsToCircle source) (depth : Nat) :
    g.inputsWithin depth source = none := by
  induction depth generalizing source with
  | zero => rfl
  | succ depth ih =>
    obtain ⟨target, hbound, hcircle⟩ := h.exists_bound
    obtain ⟨_, hfrom, -⟩ := hcircle.exists_bound
    have hforward := hg.isForward_of_bound hbound hfrom
    cases hfound : g.inputsWithin (depth + 1) source with
    | none => rfl
    | some found =>
      obtain ⟨part, hpart, -⟩ :=
        exists_inputsWithin_of_forward hfound (mem_targets_iff.2 hbound)
          hforward
      rw [ih hcircle] at hpart
      cases hpart

/-- A search that was cut off went through as many forward ports. -/
theorem exists_walk {depth : Nat} (h : g.inputsWithin depth source = none) :
    ∃ walk : Nat → PortId, walk 0 = source
      ∧ ∀ i < depth, g.Onward (walk i) (walk (i + 1)) := by
  induction depth generalizing source with
  | zero => exact ⟨fun _ => source, rfl, nofun⟩
  | succ depth ih =>
    obtain ⟨target, htarget, hforward, hnone⟩ :=
      exists_onward_of_inputsWithin_eq_none h
    obtain ⟨walk, hstart, hwalk⟩ := ih hnone
    refine ⟨fun i => i.casesOn source walk, rfl, fun i hi => ?_⟩
    cases i with
    | zero =>
      show g.Onward source (walk 0)
      rw [hstart]
      exact ⟨mem_targets_iff.1 htarget, hforward⟩
    | succ i => exact hwalk i (Nat.lt_of_succ_lt_succ hi)

/-- A walk through more forward ports than there are ports comes to one of
them again. -/
theorem Closed.exists_again (h : g.Closed) {walk : Nat → PortId}
    (hwalk : ∀ i < g.ports.size + 1, g.Onward (walk i) (walk (i + 1))) :
    ∃ i j, i < j ∧ j < g.ports.size + 1 ∧ walk (i + 1) = walk (j + 1) := by
  have hlt : ∀ i : Fin (g.ports.size + 1),
      (walk (i + 1)).index < g.ports.size :=
    fun i => (h.ends _ (hwalk i i.isLt).1).2
  obtain ⟨i, j, hne, heq⟩ := Fintype.exists_ne_map_eq_of_card_lt
    (fun i : Fin (g.ports.size + 1) =>
      (⟨(walk (i + 1)).index, hlt i⟩ : Fin g.ports.size)) (by simp)
  have hsame : walk (i + 1) = walk (j + 1) := PortId.ext (congrArg Fin.val heq)
  rcases Nat.lt_or_gt_of_ne (Fin.val_ne_of_ne hne) with hij | hji
  · exact ⟨i, j, hij, j.isLt, hsame⟩
  · exact ⟨j, i, hji, i.isLt, hsame.symm⟩

/-- A search is cut off at its limit only where there is a circle. -/
theorem leadsToCircle_of_inputsWithin_eq_none (hclosed : g.Closed)
    (h : g.inputsWithin (g.ports.size + 1) source = none) :
    g.LeadsToCircle source := by
  obtain ⟨walk, hstart, hwalk⟩ := exists_walk h
  obtain ⟨i, j, hij, hj, hsame⟩ := hclosed.exists_again hwalk
  refine ⟨walk (i + 1), ?_, ?_⟩
  · have hpath : Relation.ReflTransGen g.Bound (walk 0) (walk (i + 1)) :=
      (reflTransGen_of_succ_of_le (fun a b => g.Bound (walk a) (walk b))
        (fun k hk => (hwalk k (by grind)).1) (Nat.zero_le _)).lift walk
          fun _ _ h => h
    rwa [hstart] at hpath
  · have hround : Relation.TransGen g.Onward (walk (i + 1)) (walk (j + 1)) :=
      (transGen_of_succ_of_lt (fun a b => g.Onward (walk a) (walk b))
        (fun k hk => hwalk k (by grind)) (Nat.succ_lt_succ hij)).lift walk
          fun _ _ h => h
    rwa [← hsame] at hround

/-- The search comes to an end where there is no circle. -/
theorem Reachable.exists_reachableInputs_iff (hg : g.Reachable) :
    (∃ found, g.reachableInputs source = .ok found) ↔
      ¬ g.LeadsToCircle source := by
  simp only [reachableInputs_eq_ok_iff]
  constructor
  · rintro ⟨found, hfound⟩ hcircle
    rw [hcircle.inputsWithin_eq_none hg] at hfound
    cases hfound
  · intro hcircle
    refine Option.ne_none_iff_exists'.1 fun hnone => hcircle ?_
    exact leadsToCircle_of_inputsWithin_eq_none hg.closed hnone

-- ============================================================ chains

/-- A row of bindings that lead from the one port to the other, by their places
in the graph's record; the ports between them pass on. -/
inductive Chain (g : Graph) : PortId → List Nat → PortId → Prop
  | last {place : Nat} {source target : PortId}
      (hplace : g.bindings[place]? = some ⟨source, target⟩) :
      Chain g source [place] target
  | onward {place : Nat} {chain : List Nat} {source middle target : PortId}
      (hplace : g.bindings[place]? = some ⟨source, middle⟩)
      (hforward : g.isForward middle = true)
        (h : Chain g middle chain target) :
      Chain g source (place :: chain) target

theorem bound_of_getElem? {place : Nat}
    (h : g.bindings[place]? = some ⟨source, target⟩) :
    g.Bound source target := Array.mem_of_getElem? h

/-- A chain ends with a binding. -/
theorem Chain.exists_bound {chain : List Nat}
    (h : g.Chain source chain target) : ∃ id, g.Bound id target := by
  induction h with
  | last hplace => exact ⟨_, bound_of_getElem? hplace⟩
  | onward _ _ _ ih => exact ih

/-- The bindings that start at a port, by their places, with the ports they
end at. -/
def placedTargets (g : Graph) (source : PortId) : List (Nat × PortId) :=
  (g.bindings.toList.zipIdx.filter (·.1.source = source)).map fun placed =>
    (placed.2, placed.1.target)

theorem map_snd_placedTargets (g : Graph) (source : PortId) :
    (g.placedTargets source).map Prod.snd = g.targets source := by
  have hfilter : (g.bindings.toList.zipIdx.filter (·.1.source = source)).map
      Prod.fst = g.bindings.toList.filter (·.source = source) := by
    conv_rhs => rw [← List.zipIdx_map_fst 0 g.bindings.toList, List.filter_map]
    rfl
  rw [placedTargets, targets, ← hfilter, List.map_map, List.map_map]
  rfl

theorem mem_placedTargets_iff {place : Nat} :
    (place, target) ∈ g.placedTargets source ↔
      g.bindings[place]? = some ⟨source, target⟩ := by
  simp only [placedTargets, List.mem_map, List.mem_filter, decide_eq_true_eq,
    Prod.mk.injEq, Prod.exists]
  constructor
  · rintro ⟨⟨_, _⟩, i, ⟨hmem, rfl⟩, rfl, rfl⟩
    simpa [List.mem_zipIdx_iff_getElem?] using hmem
  · intro h
    refine ⟨⟨source, target⟩, place, ⟨?_, rfl⟩, rfl, rfl⟩
    simpa [List.mem_zipIdx_iff_getElem?] using h

theorem nodup_map_fst_placedTargets (g : Graph) (source : PortId) :
    ((g.placedTargets source).map Prod.fst).Nodup := by
  have hsublist : ((g.placedTargets source).map Prod.fst).Sublist
      (g.bindings.toList.zipIdx.map Prod.snd) := by
    rw [placedTargets, List.map_map]
    exact (List.filter_sublist ..).map Prod.snd
  rw [List.zipIdx_map_snd] at hsublist
  exact .sublist hsublist List.nodup_range'

/-- The chains of one binding to a port that does not pass on. -/
def lastChains (g : Graph) (source : PortId) : List (List Nat × PortId) :=
  ((g.placedTargets source).filter fun placed => !g.isForward placed.2).map
    fun placed => ([placed.1], placed.2)

/-- The chains that go on from a forward port as some that start there. -/
def onwardChains (g : Graph) (rest : PortId → List (List Nat × PortId))
    (source : PortId) : List (List Nat × PortId) :=
  ((g.placedTargets source).filter fun placed =>
      g.isForward placed.2).reverse.flatMap fun placed =>
    (rest placed.2).map fun way => (placed.1 :: way.1, way.2)

/-- The chains that a search of that depth goes along, in its order, with the
ports they end at. -/
def chainsWithin (g : Graph) : (depth : Nat) → PortId →
    List (List Nat × PortId)
  | 0, _ => []
  | depth + 1, source =>
    g.lastChains source ++ g.onwardChains (g.chainsWithin depth) source

section

variable {rest : PortId → List (List Nat × PortId)} {chain : List Nat}

theorem mem_lastChains_iff : (chain, target) ∈ g.lastChains source ↔
    ∃ place, chain = [place] ∧ g.bindings[place]? = some ⟨source, target⟩
      ∧ g.isForward target = false := by
  simp only [lastChains, List.mem_map, List.mem_filter, Bool.not_eq_true',
    Prod.exists, mem_placedTargets_iff, Prod.mk.injEq]
  constructor
  · rintro ⟨place, id, ⟨hplace, hend⟩, rfl, rfl⟩
    exact ⟨place, rfl, hplace, hend⟩
  · rintro ⟨place, rfl, hplace, hend⟩
    exact ⟨place, target, ⟨hplace, hend⟩, rfl, rfl⟩

theorem mem_onwardChains_iff : (chain, target) ∈ g.onwardChains rest source ↔
    ∃ place middle tail, chain = place :: tail
      ∧ g.bindings[place]? = some ⟨source, middle⟩
      ∧ g.isForward middle = true ∧ (tail, target) ∈ rest middle := by
  simp only [onwardChains, List.mem_flatMap, List.mem_reverse, List.mem_map,
    List.mem_filter, Prod.exists, mem_placedTargets_iff, Prod.mk.injEq]
  constructor
  · rintro ⟨place, middle, ⟨hplace, hforward⟩, tail, id, hrest, rfl, rfl⟩
    exact ⟨place, middle, tail, rfl, hplace, hforward, hrest⟩
  · rintro ⟨place, middle, tail, rfl, hplace, hforward, hrest⟩
    exact ⟨place, middle, ⟨hplace, hforward⟩, tail, target, hrest, rfl, rfl⟩

theorem nodup_lastChains (g : Graph) (source : PortId) :
    (g.lastChains source).Nodup := by
  have hplaced := (g.nodup_map_fst_placedTargets source).of_map
  refine (hplaced.filter _).map fun placed other heq => ?_
  simpa [Prod.ext_iff] using heq

/-- Chains through two bindings start at two places. -/
theorem nodup_onwardChains (hrest : ∀ id, (rest id).Nodup) (source : PortId) :
    (g.onwardChains rest source).Nodup := by
  have hplaces := List.pairwise_map.1 (g.nodup_map_fst_placedTargets source)
  refine List.nodup_flatMap.2 ⟨fun placed _ => ?_, List.pairwise_reverse.2 ?_⟩
  · refine (hrest placed.2).map fun way other heq => ?_
    simpa [Prod.ext_iff] using heq
  · refine (hplaces.filter _).imp fun hne way hway hother => ?_
    obtain ⟨_, -, rfl⟩ := List.mem_map.1 hway
    obtain ⟨_, -, heq⟩ := List.mem_map.1 hother
    exact hne (List.cons.inj (Prod.mk.inj heq).1).1

/-- What a binding leads to passes on or does not. -/
theorem disjoint_lastChains_onwardChains :
    (g.lastChains source).Disjoint (g.onwardChains rest source) := by
  rintro ⟨chain, id⟩ hlast honward
  obtain ⟨place, rfl, hplace, hend⟩ := mem_lastChains_iff.1 hlast
  obtain ⟨place', middle, tail, hchain, hplace', hforward, -⟩ :=
    mem_onwardChains_iff.1 honward
  obtain rfl : place = place' := (List.cons.inj hchain).1
  obtain rfl : id = middle :=
    congrArg Binding.target (Option.some.inj (hplace.symm.trans hplace'))
  rw [hend] at hforward
  cases hforward

end

/-- What the search lists are the ends of the chains it goes along. -/
theorem map_snd_chainsWithin {depth : Nat} {found : List PortId}
    (h : g.inputsWithin depth source = some found) :
    (g.chainsWithin depth source).map Prod.snd = found := by
  induction depth generalizing source found with
  | zero => cases h
  | succ depth ih =>
    obtain ⟨further, hfurther, rfl⟩ := inputsWithin_succ_eq_some_iff.1 h
    have hends : further = ((g.targets source).filter g.isForward).reverse.map
        fun target => (g.chainsWithin depth target).map Prod.snd := by
      apply List.map_injective_iff.2 (Option.some_injective _)
      rw [← hfurther, List.map_map]
      refine List.map_congr_left fun target htarget => ?_
      have hmem := List.mem_map_of_mem (f := g.inputsWithin depth) htarget
      rw [hfurther] at hmem
      obtain ⟨part, -, hpart⟩ := List.mem_map.1 hmem
      rw [← hpart, Function.comp_apply, ih hpart.symm]
    rw [hends, ← map_snd_placedTargets, chainsWithin, lastChains, onwardChains,
      List.map_append, List.map_flatMap]
    simp only [List.filter_map, List.map_map, List.flatMap_def,
      ← List.map_reverse]
    rfl

/-- A search goes along no chain twice. -/
theorem nodup_chainsWithin (g : Graph) (depth : Nat) (source : PortId) :
    (g.chainsWithin depth source).Nodup := by
  induction depth generalizing source with
  | zero => exact .nil
  | succ depth ih =>
    exact (g.nodup_lastChains source).append (nodup_onwardChains ih source)
      disjoint_lastChains_onwardChains

/-- The chains that a search of that depth goes along are those to ports that
do not pass on, as far as they are no longer than that. -/
theorem mem_chainsWithin_iff {depth : Nat} {chain : List Nat} :
    (chain, target) ∈ g.chainsWithin depth source ↔
      g.Chain source chain target ∧ g.isForward target = false
        ∧ chain.length ≤ depth := by
  induction depth generalizing source chain with
  | zero =>
    refine iff_of_false nofun ?_
    rintro ⟨h, -, hlength⟩
    cases h <;> cases hlength
  | succ depth ih =>
    rw [chainsWithin, List.mem_append, mem_lastChains_iff,
      mem_onwardChains_iff]
    constructor
    · rintro (⟨place, rfl, hplace, hend⟩ | ⟨place, middle, tail, rfl, hplace,
        hforward, hrest⟩)
      · exact ⟨.last hplace, hend, Nat.succ_le_succ (Nat.zero_le depth)⟩
      · obtain ⟨htail, hend, hlength⟩ := ih.1 hrest
        exact ⟨.onward hplace hforward htail, hend, Nat.succ_le_succ hlength⟩
    · rintro ⟨h, hend, hlength⟩
      cases h with
      | last hplace => exact .inl ⟨_, rfl, hplace, hend⟩
      | onward hplace hforward htail =>
        have hrest := ih.2 ⟨htail, hend, Nat.le_of_succ_le_succ hlength⟩
        exact .inr ⟨_, _, _, rfl, hplace, hforward, hrest⟩

/-- A search that lists anything is deep enough for every chain. -/
theorem Chain.length_le {depth : Nat} {found : List PortId} {chain : List Nat}
    (h : g.Chain source chain target)
    (hfound : g.inputsWithin depth source = some found) :
    chain.length ≤ depth := by
  induction h generalizing depth found with
  | last _ =>
    obtain ⟨depth, rfl⟩ := exists_eq_succ_of_inputsWithin hfound
    exact Nat.succ_le_succ (Nat.zero_le depth)
  | onward hplace hforward _ ih =>
    obtain ⟨depth, rfl⟩ := exists_eq_succ_of_inputsWithin hfound
    obtain ⟨part, hpart, -⟩ := exists_inputsWithin_of_forward hfound
      (mem_targets_iff.2 (bound_of_getElem? hplace)) hforward
    exact Nat.succ_le_succ (ih hpart)

/-- The chains that a search goes along are all there are. -/
theorem mem_chainsWithin_iff_chain {depth : Nat} {found : List PortId}
    {chain : List Nat} (hfound : g.inputsWithin depth source = some found) :
    (chain, target) ∈ g.chainsWithin depth source ↔
      g.Chain source chain target ∧ g.isForward target = false := by
  rw [mem_chainsWithin_iff]
  constructor
  · exact fun h => ⟨h.1, h.2.1⟩
  · exact fun h => ⟨h.1, h.2, h.1.length_le hfound⟩

/-- What a search lists it lists once for each chain. -/
theorem encard_chains {depth : Nat} {found : List PortId}
    (hfound : g.inputsWithin depth source = some found)
    (hend : g.isForward target = false) :
    {chain | g.Chain source chain target}.encard = found.count target := by
  have hset : {chain | g.Chain source chain target} =
      (((g.chainsWithin depth source).filter (·.2 = target)).map
        Prod.fst).toFinset := by
    ext chain
    simp [mem_chainsWithin_iff_chain hfound, hend]
  have hnodup :
      (((g.chainsWithin depth source).filter (·.2 = target)).map
        Prod.fst).Nodup := by
    refine List.Nodup.map_on ?_ ((g.nodup_chainsWithin depth source).filter _)
    intro way hway other hother heq
    have htarget := of_decide_eq_true (List.mem_filter.1 hway).2
    have htarget' := of_decide_eq_true (List.mem_filter.1 hother).2
    exact Prod.ext heq (htarget.trans htarget'.symm)
  rw [hset, Set.encard_coe_eq_coe_finsetCard,
    List.toFinset_card_of_nodup hnodup, List.length_map,
    ← map_snd_chainsWithin hfound, List.count_eq_countP, List.countP_map,
    ← List.countP_eq_length_filter]
  congr 1

/-- What the search lists are inputs that are there. -/
theorem Reachable.isInput_of_mem (hg : g.Reachable) {depth : Nat}
    {found : List PortId} (hfound : g.inputsWithin depth source = some found)
    (h : target ∈ found) :
    target.index < g.ports.size ∧ (g.port target).direction = .input := by
  rw [← map_snd_chainsWithin hfound] at h
  obtain ⟨⟨chain, id⟩, hway, rfl⟩ := List.mem_map.1 h
  obtain ⟨hchain, hend⟩ := (mem_chainsWithin_iff_chain hfound).1 hway
  obtain ⟨_, hbound⟩ := hchain.exists_bound
  refine ⟨(hg.closed.ends _ hbound).2, ?_⟩
  have hreceives := (hg.directed _ hbound).2
  rw [isForward, decide_eq_false_iff_not] at hend
  simp only at hreceives hend
  cases hdirection : (g.port id).direction with
  | input => rfl
  | output => rw [hdirection] at hreceives; cases hreceives
  | forward => exact absurd hdirection hend

-- ======================================================== statements

/-- The search for the inputs that a port leads to comes to an end, and says
what there is. -/
structure Gathers (g : Graph) (source : PortId) : Prop where
  /-- The loop ends, with one outcome. -/
  ends : ∀ outcome, (Search.start source).Ends g outcome ↔
    outcome = g.reachableInputs source
  /-- It fails for nothing but a circle. -/
  endless_iff : (∃ addr hops,
    g.reachableInputs source = .error (.routingLoop addr hops)) ↔
    g.LeadsToCircle source
  /-- Without a circle it lists each input as often as chains lead there. -/
  listed : ¬ g.LeadsToCircle source → ∃ found,
    g.reachableInputs source = .ok found
    ∧ (∀ input ∈ found, input.index < g.ports.size
      ∧ (g.port input).direction = .input)
    ∧ ∀ input, (g.port input).direction = .input →
      {chain | g.Chain source chain input}.encard = found.count input

/-- The search from any port of a reachable graph ends, fails if and only if a
circle of forward ports can be reached, and otherwise lists every input once
for each chain that leads to it. -/
theorem gathers_of_reachable (hg : g.Reachable) (source : PortId) :
    g.Gathers source where
  ends _ := Search.ends_start_iff source
  endless_iff := by
    constructor
    · rintro ⟨addr, hops, hloop⟩
      by_contra hcircle
      obtain ⟨found, hfound⟩ := hg.exists_reachableInputs_iff.2 hcircle
      rw [hloop] at hfound
      cases hfound
    · intro hcircle
      refine ⟨0, g.ports.size + 1, ?_⟩
      rw [reachableInputs, hcircle.inputsWithin_eq_none hg]
  listed hcircle := by
    obtain ⟨found, hfound⟩ := hg.exists_reachableInputs_iff.2 hcircle
    have hwithin := reachableInputs_eq_ok_iff.1 hfound
    refine ⟨found, hfound, fun input => hg.isInput_of_mem hwithin,
      fun input hinput => encard_chains hwithin ?_⟩
    rw [isForward, hinput]
    rfl

end Graph

/-- An output that is bound to an input and to a forward port before it, and a
forward port that is bound to itself. -/
def ringSession : Session :=
  ((((((((Session.new "top").after
    (.declarePort Graph.root "out" .output Signal.io.signature)).after
    (.declarePort Graph.root "door" .forward Signal.io.signature)).after
    (.declarePort Graph.root "in" .input Signal.io.signature)).after
    (.declarePort Graph.root "ring" .forward Signal.io.signature)).after
    (.bindPorts ⟨0⟩ ⟨1⟩)).after
    (.bindPorts ⟨1⟩ ⟨2⟩)).after
    (.bindPorts ⟨0⟩ ⟨2⟩)).after
    (.bindPorts ⟨3⟩ ⟨3⟩)

/-- Two chains lead from the output to the input. From the last port the search
goes round until its limit. -/
theorem ringSession_gathers :
    ringSession.graph.Reachable
      ∧ ringSession.graph.reachableInputs ⟨0⟩ = .ok [⟨2⟩, ⟨2⟩]
      ∧ {chain | ringSession.graph.Chain ⟨0⟩ chain ⟨2⟩}.encard = 2
      ∧ ringSession.graph.reachableInputs ⟨3⟩ = .error (.routingLoop 0 5)
      ∧ ringSession.graph.LeadsToCircle ⟨3⟩ := by
  have hrun : (Session.new "top").Run ringSession :=
    .step _ (.step _ (.step _ (.step _ (.step _ (.step _ (.step _ (.step _
      .none
      (show 0 < _ by decide +kernel)) (show 0 < _ by decide +kernel))
      (show 0 < _ by decide +kernel)) (show 0 < _ by decide +kernel))
      ⟨show 0 < _ by decide +kernel, show 1 < _ by decide +kernel⟩)
      ⟨show 1 < _ by decide +kernel, show 2 < _ by decide +kernel⟩)
      ⟨show 0 < _ by decide +kernel, show 2 < _ by decide +kernel⟩)
      ⟨show 3 < _ by decide +kernel, show 3 < _ by decide +kernel⟩
  have hreach : ringSession.graph.Reachable := ⟨_, ⟨"top", hrun⟩, rfl⟩
  have hfound : ringSession.graph.reachableInputs ⟨0⟩ = .ok [⟨2⟩, ⟨2⟩] := by
    decide +kernel
  have hloop : ringSession.graph.reachableInputs ⟨3⟩ = .error
      (.routingLoop 0 5) := by
    decide +kernel
  have hnone := hreach.exists_reachableInputs_iff.1 ⟨_, hfound⟩
  obtain ⟨found, hok, -, hcount⟩ :=
    (Graph.gathers_of_reachable hreach ⟨0⟩).listed hnone
  obtain rfl : [⟨2⟩, ⟨2⟩] = found := Except.ok.inj (hfound.symm.trans hok)
  exact ⟨hreach, hfound, hcount ⟨2⟩ (by decide +kernel), hloop,
    (Graph.gathers_of_reachable hreach ⟨3⟩).endless_iff.1 ⟨0, 5, hloop⟩⟩

end ChipFabric
