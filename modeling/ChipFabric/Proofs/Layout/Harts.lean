/-
Hart numbers. The cores of a chip are numbered through, cluster by cluster:
the first cluster starts at zero and each of the others where the one before
it ends. `Numbered` says so of a row of clusters; then the harts of the row
are consecutive (`Numbered.flatMap_harts`), and each is a core of one
cluster only (`Numbered.eq_of_mem_harts`). The layout hands the numbers out
by a running counter, and `coresBefore` is what it stands at.
-/
import ChipFabric.Proofs.Layout.Plan
import Mathlib.Algebra.Ring.Nat
import Mathlib.Data.List.Nodup

namespace ChipFabric

-- ============================================================ counter

/-- The number of cores of the clusters below that number. -/
def Config.coresBefore (config : Config) (id : Nat) : Nat :=
  ((List.range id).map config.coreCount).sum

@[simp] theorem Config.coresBefore_zero (config : Config) :
    config.coresBefore 0 = 0 := rfl

theorem Config.coresBefore_succ (config : Config) (id : Nat) :
    config.coresBefore (id + 1) = config.coresBefore
      id + config.coreCount id := by
  simp [coresBefore, List.range_succ]

/-- More clusters have no fewer cores. -/
theorem Config.coresBefore_mono (config : Config) {id id' : Nat}
    (h : id ≤ id') : config.coresBefore id ≤ config.coresBefore id' := by
  induction h with
  | refl => exact Nat.le_refl _
  | step _ ih =>
    rw [coresBefore_succ]
    omega

/-- Without a list of core counts, all clusters have the same number. -/
theorem Config.coresBefore_eq_mul {config : Config}
    (h : config.clusterCores = []) (id : Nat) :
    config.coresBefore id = id * config.coresPerCluster.toNat := by
  have hcount : config.coreCount = fun _ => config.coresPerCluster.toNat := by
    funext cluster
    simp [coreCount, h]
  simp [coresBefore, hcount]

-- ========================================================== numbering

namespace ClusterLayout

/-- The harts of each cluster follow those of the cluster before it. -/
def Numbered : (first : Nat) → List ClusterLayout → Prop
  | _, [] => True
  | first, cluster :: rest =>
    cluster.firstHart = first ∧ Numbered cluster.endHart rest

def coreTotal (clusters : List ClusterLayout) : Nat :=
  (clusters.map (·.coreCount)).sum

@[simp] theorem coreTotal_cons (cluster : ClusterLayout)
    (rest : List ClusterLayout) :
    coreTotal (cluster :: rest) = cluster.coreCount + coreTotal rest := rfl

theorem harts_eq_range' (cluster : ClusterLayout) :
    cluster.harts = List.range' cluster.firstHart cluster.coreCount := by
  rw [harts, List.range'_eq_map_range]

theorem mem_harts {cluster : ClusterLayout} {hart : Nat} :
    hart ∈ cluster.harts ↔ cluster.firstHart ≤ hart
      ∧ hart < cluster.endHart := by
  rw [harts_eq_range', List.mem_range'_1, endHart]

variable {first : Nat} {clusters : List ClusterLayout}

/-- The harts of the row are consecutive. -/
theorem Numbered.flatMap_harts (h : Numbered first clusters) :
    clusters.flatMap harts = List.range' first (coreTotal clusters) := by
  induction clusters generalizing first with
  | nil => rfl
  | cons cluster rest ih =>
    obtain ⟨rfl, hrest⟩ := h
    rw [List.flatMap_cons, ih hrest, harts_eq_range', endHart, coreTotal_cons,
      List.range'_append_1]

/-- No hart belongs to two clusters of the row. -/
theorem Numbered.eq_of_mem_harts (h : Numbered first clusters)
    {i i' hart : Nat} {cluster cluster' : ClusterLayout}
    (hi : clusters[i]? = some cluster) (hi' : clusters[i']? = some cluster')
    (hmem : hart ∈ cluster.harts) (hmem' : hart ∈ cluster'.harts) :
    i = i' := by
  have hnodup : (clusters.flatMap harts).Nodup := by
    rw [h.flatMap_harts]
    exact List.nodup_range'
  have hapart := List.pairwise_iff_getElem.1 (List.nodup_flatMap.1 hnodup).2
  obtain ⟨hlt, rfl⟩ := List.getElem?_eq_some_iff.1 hi
  obtain ⟨hlt', rfl⟩ := List.getElem?_eq_some_iff.1 hi'
  rcases Nat.lt_trichotomy i i' with hbefore | heq | hafter
  · exact absurd hmem' (hapart i i' hlt hlt' hbefore hmem)
  · exact heq
  · exact absurd hmem (hapart i' i hlt' hlt hafter hmem')

/-- The row ends after as many harts as it has cores. -/
theorem Numbered.getLast?_endHart (h : Numbered first clusters) :
    clusters.getLast?.elim first (·.endHart) = first + coreTotal clusters := by
  induction clusters generalizing first with
  | nil => rfl
  | cons cluster rest ih =>
    obtain ⟨rfl, hrest⟩ := h
    have hlast := ih hrest
    rw [coreTotal_cons, ← Nat.add_assoc]
    cases rest with
    | nil => rfl
    | cons next more =>
      rw [List.getLast?_cons_cons]
      simp only [List.getLast?_cons, Option.elim_some] at hlast ⊢
      exact hlast

end ClusterLayout

-- ============================================================= layout

namespace ChipLayout

open ClusterLayout

/-- The counter of the layout runs on from cluster to cluster. -/
theorem numbered_of_planClusters {config : Config} {span : Window}
    {stride id firstHart count : Nat} {clusters : List ClusterLayout}
    (h : planClusters config span stride id firstHart count = .ok clusters) :
    Numbered firstHart clusters := by
  induction count generalizing id firstHart clusters with
  | zero =>
    cases h
    trivial
  | succ count ih =>
    simp only [planClusters, bind_eq_ok_iff] at h
    obtain ⟨region, -, cluster, hcluster, rest, hrest, h⟩ := h
    cases h
    obtain ⟨-, -, -, hfirst, -⟩ := ClusterLayout.of_plan hcluster
    exact ⟨hfirst, ih hrest⟩

theorem numbered_of_plan {config : Config} {chip : ChipLayout}
    (h : plan config = .ok chip) : Numbered 0 chip.clusters := by
  obtain ⟨span, -, -, hclusters, -⟩ := of_plan h
  exact numbered_of_planClusters hclusters

/-- A chip has as many harts as its clusters have cores. -/
theorem hartCount_eq {chip : ChipLayout} (h : Numbered 0 chip.clusters) :
    chip.hartCount = coreTotal chip.clusters :=
  h.getLast?_endHart.trans (Nat.zero_add _)

end ChipLayout

end ChipFabric
