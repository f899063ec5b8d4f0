/-
The layout on a machine of words. The layout is computed with natural
numbers, and wherever the configuration decides how large a number gets, a
test comes first. Everywhere else a machine adds and multiplies words and
does not look whether the result still is one.

# The machine

`OnWords` computes as the machine does. A guarded operation (`sum?`,
`product?`) gives nothing where the result is no word, and the layout makes
a fault of that; an operation without a guard (`word`) ends the whole
computation there, and so does reserving more room than there can be
(`reserve`). `run_plan` says that the arithmetic never does: on every
configuration, checked or not, the machine comes to the layout, or to the
fault, that natural numbers give, and it ends without either exactly where
these ask for too much room (`answered`).
-/
import ChipFabric.Proofs.Layout.Capacity
import ChipFabric.Proofs.Layout.Harts

namespace ChipFabric

-- ============================================================ machine

/-- A computation on words, which may fail with a fault, and which ends
without a result where an operation without a guard leaves the words, or
where more room is reserved than there can be. -/
abbrev OnWords (α : Type) := ExceptT Fault Option α

namespace OnWords

variable {α β : Type}

/-- The result of an operation without a guard. -/
def word (n : Nat) : OnWords Nat :=
  if n ≤ maxWord then pure n else ExceptT.mk none

def sum? (a b : Nat) : Option Nat :=
  if a + b ≤ maxWord then some (a + b) else none

def product? (a b : Nat) : Option Nat :=
  if a * b ≤ maxWord then some (a * b) else none

def stop (w : Window) : OnWords Nat := word (w.base + w.size)

def overlaps (v w : Window) : OnWords Bool := do
  return v.base < (← stop w) ∧ w.base < (← stop v)

def encloses (v w : Window) : OnWords Bool := do
  return v.base ≤ w.base ∧ (← stop w) ≤ (← stop v)

def carve (w : Window) (offset size : Nat) : OnWords Window := do
  let some base := sum? w.base offset | throw (.invalidWindow w.base offset)
  let part ← Window.make base size
  if ← encloses w part then
    return part
  throw (.invalidWindow part.base part.size)

def requireDisjoint (first : String) (firstWindow : Window) (second : String)
    (secondWindow : Window) : OnWords Unit := do
  if ← overlaps firstWindow secondWindow then
    throw (.regionOverlap first firstWindow second secondWindow)

/-- The memories of a cluster have to fit into a stride. -/
def fitInto (sizes : ClusterSizes) (stride : Nat) : OnWords Unit := do
  let some front := sum? sizes.tcdm.toNat sizes.periph.toNat
    | throw (.invalidWindow 0 maxWord)
  let some footprint := sum? front sizes.zeroMem.toNat
    | throw (.invalidWindow 0 maxWord)
  if stride < footprint then
    throw (.clusterFootprint footprint stride)

def planCluster (config : Config) (id : Nat) (region : Window)
    (firstHart : Nat) :
    OnWords ClusterLayout := do
  let coreCount := config.coreCount id
  if coreCount = 0 then
    throw (.noCores id)
  fitInto config.cluster region.size
  if (sum? firstHart coreCount).isNone then
    throw (.hartOverflow id)
  let tcdm ← Window.make 0 config.cluster.tcdm.toNat
  let periph ← Window.make (← stop tcdm) config.cluster.periph.toNat
  let zeroMem ← Window.make (← stop periph) config.cluster.zeroMem.toNat
  return { id, region, coreCount, firstHart, tcdm, periph, zeroMem }

/-- The next `count` clusters; counting them and their harts is done on words
as well. -/
def planClusters (config : Config) (span : Window) (stride : Nat)
    (id firstHart : Nat) :
    (count : Nat) → OnWords (List ClusterLayout)
  | 0 => return []
  | count + 1 => do
    let region ← carve span (← word (id * stride)) stride
    let cluster ← planCluster config id region firstHart
    let nextId ← word (id + 1)
    let nextHart ← word (cluster.firstHart + cluster.coreCount)
    return cluster :: (← planClusters config span stride nextId nextHart count)

/-- Room for the layouts of that many clusters; nobody is told that there is
none. -/
def reserve (count : Nat) : OnWords Unit :=
  if count * ClusterLayout.bytes ≤ maxAllocation then pure ()
  else ExceptT.mk none

def plan (config : Config) : OnWords ChipLayout := do
  config.check
  let map := config.memoryMap
  let bootrom ← Window.make map.bootrom.base.toNat map.bootrom.size.toNat
  let hbm ← Window.make map.hbmBase.toNat config.hbmSize.toNat
  let clusterRegion ← Window.make map.cluster.base.toNat map.cluster.size.toNat
  fitInto config.cluster clusterRegion.size
  let count := config.clusterCount.toNat
  let some spanSize := product? count clusterRegion.size
    | throw (.invalidWindow clusterRegion.base maxWord)
  let span ← Window.make clusterRegion.base spanSize
  requireDisjoint "bootrom" bootrom "hbm" hbm
  requireDisjoint "bootrom" bootrom "clusters" span
  requireDisjoint "hbm" hbm "clusters" span
  reserve count
  let clusters ← planClusters config span clusterRegion.size 0 0 count
  let entryOffset := config.interconnect.loaderEntryOffset.toNat
  let some loaderEntry := sum? bootrom.base entryOffset
    | throw (.invalidWindow bootrom.base entryOffset)
  return {
    bootrom, hbm, clusterRegion, clusters, loaderEntry
    hbmModel := config.hbmModel
    interconnect := config.interconnect }

-- ============================================================== rules

/-- A computation that came to an end, with a result or a fault. -/
def done (outcome : Except Fault α) : OnWords α := ExceptT.mk (some outcome)

@[simp] theorem liftM_eq_done (outcome : Except Fault α) :
    (liftM outcome : OnWords α) = done outcome := rfl

@[simp] theorem pure_eq_done (a : α) :
    (pure a : OnWords α) = done (.ok a) := rfl

@[simp] theorem throw_eq_done (fault : Fault) :
    (throw fault : OnWords α) = done (.error fault) := rfl

/-- What follows a computation that came to an end runs on its result. -/
theorem done_bind {outcome : Except Fault α} {next : α → OnWords β}
    {after : α → Except Fault β}
    (h : ∀ a, outcome = .ok a → next a = done (after a)) :
    (done outcome >>= next) = done (outcome >>= after) := by
  cases outcome with
  | error fault => rfl
  | ok a => exact h a rfl

@[simp] theorem done_ok_bind (a : α) (next : α → OnWords β) :
    (done (.ok a) >>= next) = next a := rfl

@[simp] theorem done_error_bind (fault : Fault) (next : α → OnWords β) :
    (done (.error fault) >>= next) = done (.error fault) := rfl

/-- What is left of an outcome: nothing, where the program has ended. -/
def answered : Except Fault α → Option (Except Fault α)
  | .error .capacityOverflow => none
  | outcome => some outcome

/-- An answer is answered. -/
theorem answered_of_isAnswer {outcome : Except Fault α}
    (h : IsAnswer outcome) : answered outcome = some outcome := by
  unfold answered
  split
  · exact absurd rfl h
  · rfl

/-- Only an answer is, and by itself. -/
theorem answered_eq_some_iff {outcome answer : Except Fault α}
    (h : IsAnswer answer) : answered outcome = some answer ↔
      outcome = answer := by
  constructor
  · intro heq
    unfold answered at heq
    split at heq
    · cases heq
    · exact Option.some.inj heq
  · rintro rfl
    exact answered_of_isAnswer h

/-- A computation that came to an end, unless it ended the program. -/
def settled (outcome : Except Fault α) : OnWords α :=
  ExceptT.mk (answered outcome)

/-- To be done with an answer is to be settled with it. -/
theorem done_eq_settled {outcome : Except Fault α} (h : IsAnswer outcome) :
    done outcome = settled outcome := by
  rw [done, settled, answered_of_isAnswer h]

/-- What follows runs on the result; nothing follows where the program has
ended. -/
theorem settled_bind {outcome : Except Fault α} {next : α → OnWords β}
    {after : α → Except Fault β}
    (h : ∀ a, outcome = .ok a → next a = settled (after a)) :
    (settled outcome >>= next) = settled (outcome >>= after) := by
  cases outcome with
  | error fault => cases fault <;> rfl
  | ok a => exact h a rfl

theorem word_of_le {n : Nat} (h : n ≤ maxWord) : word n = done (.ok n) :=
  if_pos h

-- ============================================================ windows

/-- The end of a window always is a word. -/
theorem stop_eq (w : Window) : stop w = done (.ok w.stop) := word_of_le w.fits

/-- Ends of windows are words, so that windows are compared as they are. -/
theorem overlaps_eq (v w : Window) :
    overlaps v w = done (.ok (decide (v.Overlaps w))) := by
  rw [overlaps, stop_eq, stop_eq, done_ok_bind, done_ok_bind]
  rfl

theorem encloses_eq (v w : Window) :
    encloses v w = done (.ok (decide (v.Encloses w))) := by
  rw [encloses, stop_eq, stop_eq, done_ok_bind, done_ok_bind]
  rfl

/-- The base of the part is a checked sum. -/
theorem carve_eq (w : Window) (offset size : Nat) :
    carve w offset size = done (w.carve offset size) := by
  by_cases hfar : w.base + offset ≤ maxWord
  · have hnot : ¬ maxWord < w.base + offset := Nat.not_lt.2 hfar
    simp only [carve, sum?, hfar, Window.carve, hnot, ↓reduceIte,
      liftM_eq_done]
    refine done_bind fun part _ => ?_
    rw [encloses_eq, done_ok_bind]
    by_cases hin : w.Encloses part <;> simp [hin, throw, throwThe,
      MonadExceptOf.throw] <;> rfl
  · simp [carve, sum?, hfar, Window.carve, Nat.not_le.1 hfar]

theorem requireDisjoint_eq (first second : String) (v w : Window) :
    requireDisjoint first v second w = done
      (ChipFabric.requireDisjoint first v second w) := by
  rw [requireDisjoint, overlaps_eq, done_ok_bind, ChipFabric.requireDisjoint]
  by_cases hover : v.Overlaps w <;> simp [hover]

/-- The sums are checked one after the other, and the whole is no word if the
first one is none. -/
theorem fitInto_eq (sizes : ClusterSizes) (stride : Nat) :
    fitInto sizes stride = done (sizes.fitInto stride) := by
  simp only [fitInto, sum?, ClusterSizes.fitInto, ClusterSizes.footprint]
  by_cases hfront : sizes.tcdm.toNat + sizes.periph.toNat ≤ maxWord
  · by_cases htotal : sizes.tcdm.toNat + sizes.periph.toNat
      + sizes.zeroMem.toNat ≤ maxWord
    · simp only [hfront, htotal, ↓reduceIte, ok_bind]
      split <;> rfl
    · simp [hfront, htotal]
  · have htotal : ¬ sizes.tcdm.toNat + sizes.periph.toNat
        + sizes.zeroMem.toNat ≤ maxWord := by
      omega
    simp [hfront, htotal]

-- =========================================================== clusters

/-- The last hart of a cluster is the one number that may be too large, and
that is checked. -/
theorem planCluster_eq (config : Config) (id : Nat) (region : Window)
    (firstHart : Nat) :
    planCluster config id region firstHart =
      done (ClusterLayout.plan config id region firstHart) := by
  simp only [planCluster, ClusterLayout.plan, fitInto_eq, stop_eq,
    liftM_eq_done, done_ok_bind]
  split
  · rfl
  · refine done_bind fun _ _ => ?_
    by_cases hharts : firstHart + config.coreCount id ≤ maxWord
    · have hnot : ¬ maxWord < firstHart + config.coreCount id :=
        Nat.not_lt.2 hharts
      simp only [sum?, hharts, hnot, ↓reduceIte, Option.isNone_some,
        Bool.false_eq_true]
      refine done_bind fun tcdm _ => done_bind fun periph _ => done_bind
        fun zeroMem _ => rfl
    · simp [sum?, hharts, Nat.not_le.1 hharts]

/-- A cluster that is laid out ends at a word. -/
theorem endHart_le_of_plan {config : Config} {id firstHart : Nat}
    {region : Window} {layout : ClusterLayout}
    (h : ClusterLayout.plan config id region firstHart = .ok layout) :
    layout.endHart ≤ maxWord := by
  obtain ⟨-, -, hcores, hfirst, -⟩ := ClusterLayout.of_plan h
  simp only [ClusterLayout.plan, throw_bind, ite_error_eq_ok_iff,
    bind_eq_ok_iff] at h
  obtain ⟨-, -, -, hword, -⟩ := h
  rw [ClusterLayout.endHart, hcores, hfirst]
  exact Nat.not_lt.1 hword

/-- Nothing that places a row of clusters leaves the words, if their last
number and their last address are words. -/
theorem planClusters_eq {config : Config} {span : Window} {stride : Nat}
    (id firstHart : Nat) {count : Nat} (hcount : id + count ≤ maxWord)
    (hend : (id + count) * stride ≤ maxWord) :
    planClusters config span stride id firstHart count =
      done
        (ChipLayout.planClusters config span stride id firstHart count) := by
  induction count generalizing id firstHart with
  | zero => rfl
  | succ count ih =>
    have hnextId : id + 1 ≤ maxWord := by omega
    have hoffset : id * stride ≤ maxWord :=
      Nat.le_trans (Nat.mul_le_mul_right _ (Nat.le_add_right _ _)) hend
    rw [← Nat.add_assoc, Nat.add_right_comm] at hcount hend
    rw [planClusters, word_of_le hoffset, done_ok_bind, carve_eq,
      ChipLayout.planClusters]
    refine done_bind fun region _ => ?_
    rw [planCluster_eq]
    refine done_bind fun cluster hcluster => ?_
    rw [word_of_le hnextId, done_ok_bind, ← ClusterLayout.endHart,
      word_of_le (endHart_le_of_plan hcluster), done_ok_bind,
        ih _ _ hcount hend]
    exact done_bind fun rest _ => rfl

-- ============================================================= layout

/-- Where the vector has no room, the machine stops and so does the plan. -/
theorem reserve_eq (count : Nat) :
    reserve count = settled (ChipLayout.reserve count) := by
  unfold reserve ChipLayout.reserve
  by_cases hroom : count * ClusterLayout.bytes ≤ maxAllocation
  · rw [if_pos hroom, if_neg (Nat.not_lt.2 hroom)]
    rfl
  · rw [if_neg hroom, if_pos (Nat.not_le.1 hroom)]
    rfl

/-- The machine comes to the layout, or to the fault, that natural numbers
give, unless these ask for too much room. -/
theorem run_plan (config : Config) :
    (plan config).run = answered (ChipLayout.plan config) := by
  suffices h : plan config = settled (ChipLayout.plan config) from h ▸ rfl
  simp only [plan, ChipLayout.plan, fitInto_eq, requireDisjoint_eq, reserve_eq,
    liftM_eq_done, done_eq_settled, config.isAnswer_check,
      Window.isAnswer_make,
    ClusterSizes.isAnswer_fitInto, isAnswer_requireDisjoint]
  refine settled_bind fun _ _ => settled_bind fun bootrom _ =>
    settled_bind fun hbm _ => settled_bind fun first _ =>
    settled_bind fun _ _ => ?_
  by_cases hrow : config.clusterCount.toNat * first.size ≤ maxWord
  · simp only [product?, hrow, Nat.not_lt.2 hrow, ↓reduceIte]
    refine settled_bind fun span _ => settled_bind fun _ _ =>
      settled_bind fun _ _ => settled_bind fun _ _ => settled_bind
        fun _ _ => ?_
    -- the tests before have settled that the row of clusters stays within the
    -- words
    have hcount := toNat_le_maxWord config.clusterCount
    rw [planClusters_eq 0 0 (by simpa using hcount) (by simpa using hrow),
      done_eq_settled (ChipLayout.isAnswer_planClusters _ _ _ _ _ _)]
    refine settled_bind fun clusters _ => ?_
    by_cases hentry :
        bootrom.base + config.interconnect.loaderEntryOffset.toNat ≤ maxWord
    · simp only [sum?, hentry, Nat.not_lt.2 hentry, ↓reduceIte]
      rfl
    · simp only [sum?, hentry, Nat.not_le.1 hentry, ↓reduceIte]
      rfl
  · simp only [product?, hrow, Nat.not_le.1 hrow, ↓reduceIte]
    rfl

end OnWords

end ChipFabric
