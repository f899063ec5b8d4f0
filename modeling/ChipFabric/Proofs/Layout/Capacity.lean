/-
Where a layout ends the program. Of all that a layout does, only reserving
room for its clusters can ask for more than there can be; every other step
hands over a result or a fault (`IsAnswer`). So where the program ends, all
regions of the chip stand already, and it is the number of clusters that is
too great (`of_plan_eq_capacityOverflow`).
-/
import ChipFabric.Proofs.Layout.Plan

namespace ChipFabric

-- ============================================================ answers

section

variable {α β : Type}

/-- Somebody gets the outcome: it is a result, or a fault other than the one
that ends the program. -/
def IsAnswer (outcome : Except Fault α) : Prop :=
  outcome ≠ .error .capacityOverflow

namespace IsAnswer

@[simp] theorem ok (a : α) : IsAnswer (.ok a) := nofun

/-- Every other fault is an answer. -/
theorem error {fault : Fault} (h : fault ≠ .capacityOverflow) :
    IsAnswer (.error fault : Except Fault α) :=
  fun heq => h (Except.error.inj heq)

/-- A check with another fault answers if what follows does. -/
theorem ite_error {c : Prop} [Decidable c] {fault : Fault}
    {rest : Except Fault α} (hfault : fault ≠ .capacityOverflow)
    (hrest : IsAnswer rest) : IsAnswer (if c then .error fault else rest) := by
  split
  · exact error hfault
  · exact hrest

/-- Two steps in a row end the program nowhere if neither does. -/
theorem bind {first : Except Fault α} {next : α → Except Fault β}
    (hfirst : IsAnswer first) (hnext : ∀ a, IsAnswer (next a)) :
    IsAnswer (first >>= next) := by
  cases first with
  | error fault => exact error fun heq => hfirst (heq ▸ rfl)
  | ok a => exact hnext a

/-- Where the first of two steps does not end the program, it has to be the
second that does. -/
theorem bind_eq_capacityOverflow_iff {first : Except Fault α}
    {next : α → Except Fault β} (hfirst : IsAnswer first) :
    (first >>= next) = .error .capacityOverflow ↔
      ∃ a, first = .ok a ∧ next a = .error .capacityOverflow := by
  cases first with
  | error fault =>
    constructor
    · exact fun h => absurd (congrArg Except.error (Except.error.inj h)) hfirst
    · exact nofun
  | ok a => simp

/-- Where a check is passed, the stop is one of what follows. -/
theorem ite_error_eq_capacityOverflow_iff {c : Prop} [Decidable c]
    {fault : Fault} {rest : Except Fault α}
    (hfault : fault ≠ .capacityOverflow) :
    (if c then .error fault else rest) = .error .capacityOverflow ↔
      ¬ c ∧ rest = .error .capacityOverflow := by
  by_cases hc : c <;> simp [hc, hfault]

end IsAnswer

end

-- ============================================================== steps

open IsAnswer (ite_error bind)

theorem isAnswer_requirePositive (setting : String) (value : UInt64) :
    IsAnswer (requirePositive setting value) :=
  ite_error (by simp) (.ok ())

theorem Config.isAnswer_checkClusterCores (config : Config) :
    IsAnswer config.checkClusterCores := by
  simp only [checkClusterCores, throw_bind]
  split
  · exact .ok ()
  · refine ite_error (by simp) ?_
    split
    · exact .error (by simp)
    · exact .ok ()

/-- Settings are checked without a vector being set aside. -/
theorem Config.isAnswer_check (config : Config) : IsAnswer config.check := by
  have hpositive := isAnswer_requirePositive
  refine bind (hpositive _ _) fun _ => bind (hpositive _ _) fun _ =>
    bind (hpositive _ _) fun _ => ?_
  refine bind config.isAnswer_checkClusterCores fun _ => ?_
  refine bind (bind (hpositive _ _) fun _ => bind (hpositive _ _) fun _ =>
    hpositive _ _) fun _ => ?_
  exact bind (hpositive _ _) fun _ => hpositive _ _

theorem Window.isAnswer_make (base size : Nat) :
    IsAnswer (Window.make base size) := by
  unfold Window.make
  split
  · exact .ok _
  · exact .error (by simp)

theorem Window.isAnswer_carve (w : Window) (offset size : Nat) :
    IsAnswer (w.carve offset size) := by
  simp only [Window.carve, throw_bind]
  refine ite_error (by simp) (bind (isAnswer_make _ _) fun part => ?_)
  split
  · exact .ok _
  · exact .error (by simp)

theorem ClusterSizes.isAnswer_fitInto (sizes : ClusterSizes) (stride : Nat) :
    IsAnswer (sizes.fitInto stride) := by
  refine bind ?_ fun _ => ite_error (by simp) (.ok ())
  simp only [footprint]
  split
  · exact .ok _
  · exact .error (by simp)

theorem isAnswer_requireDisjoint (first second : String) (v w : Window) :
    IsAnswer (requireDisjoint first v second w) :=
  ite_error (by simp) (.ok ())

/-- A cluster is laid out without one as well. -/
theorem ClusterLayout.isAnswer_plan (config : Config) (id : Nat)
    (region : Window) (firstHart : Nat) :
    IsAnswer (plan config id region firstHart) := by
  have hmake := Window.isAnswer_make
  simp only [plan, throw_bind]
  refine ite_error (by simp) ?_
  refine bind (ClusterSizes.isAnswer_fitInto _ _) fun _ => ?_
  refine ite_error (by simp) ?_
  exact bind (hmake _ _) fun _ => bind (hmake _ _) fun _ =>
    bind (hmake _ _) fun _ => .ok _

namespace ChipLayout

/-- The room for the clusters is there once they are laid out one by one. -/
theorem isAnswer_planClusters (config : Config) (span : Window)
    (stride id firstHart count : Nat) :
    IsAnswer (planClusters config span stride id firstHart count) := by
  induction count generalizing id firstHart with
  | zero => exact .ok []
  | succ count ih =>
    unfold planClusters
    refine bind (Window.isAnswer_carve _ _ _) fun region => ?_
    refine bind (ClusterLayout.isAnswer_plan _ _ _ _) fun cluster => ?_
    exact bind (ih _ _) fun rest => .ok _

-- ============================================================= layout

/-- Room is counted in bytes, not in clusters. -/
theorem reserve_eq_ok_iff {count : Nat} :
    reserve count = .ok () ↔ count * ClusterLayout.bytes ≤ maxAllocation := by
  rw [reserve, ite_error_eq_ok_iff, and_iff_left rfl, Nat.not_lt]

/-- Where the program ends, the regions stand, and there are more clusters
than there can be room for. -/
theorem of_plan_eq_capacityOverflow {config : Config}
    (h : plan config = .error .capacityOverflow) :
    ∃ bootrom hbm first span : Window, Regions config bootrom hbm first span
      ∧ maxAllocation < config.clusterCount.toNat * ClusterLayout.bytes := by
  simp only [plan, throw_bind, IsAnswer.bind_eq_capacityOverflow_iff,
    IsAnswer.ite_error_eq_capacityOverflow_iff, config.isAnswer_check,
    Window.isAnswer_make, ClusterSizes.isAnswer_fitInto,
    isAnswer_requireDisjoint, ne_eq, reduceCtorEq, not_false_eq_true] at h
  obtain ⟨_, hcheck, bootrom, hbootrom, hbm, hhbm, first, hfirst, _, hfit, -,
    span, hspan, _, hbootromHbm, _, hbootromSpan, _, hhbmSpan, h⟩ := h
  refine ⟨bootrom, hbm, first, span, ⟨hcheck, hbootrom, hhbm, hfirst, hfit,
    hspan, hbootromHbm, hbootromSpan, hhbmSpan⟩, ?_⟩
  -- what follows the reservation does not end the program
  refine Nat.lt_of_not_le fun hroom => ?_
  rw [reserve_eq_ok_iff.2 hroom, ok_bind] at h
  refine absurd h (bind (isAnswer_planClusters _ _ _ _ _ _) fun clusters => ?_)
  exact ite_error (by simp) (.ok _)

end ChipLayout

end ChipFabric
