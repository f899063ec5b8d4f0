/-
A configuration and the registry it was declared on. The four properties
that users may override each belong to one field of the configuration;
declaring them puts the recorded overrides into these fields, leaves the
others alone, and checks the result (`Merges`). From then on the registry
shows what the configuration holds (`ShownBy`), whatever is done to the
registry afterwards.
-/
import ChipFabric.Config.Override
import ChipFabric.Proofs.Property.Settled

namespace ChipFabric

open Edit Property Property.Registry

/-- A model is read from its spelling only. -/
theorem HbmModel.parse_eq_ok_iff {s : String} {model : HbmModel} :
    HbmModel.parse s = .ok model ↔ s = model.spelling := by
  constructor
  · intro h
    unfold HbmModel.parse HbmModel.ofSpelling? at h
    split_ifs at h with hsimple hdramsys <;> cases h
    · exact hsimple
    · exact hdramsys
  · rintro rfl
    rw [HbmModel.parse, HbmModel.ofSpelling?_spelling]

theorem HbmModel.spelling_mem_spellings (model : HbmModel) :
    model.spelling ∈ HbmModel.spellings := by
  cases model <;> decide

/-- Models are spelled differently. -/
theorem HbmModel.spelling_inj {model other : HbmModel} :
    model.spelling = other.spelling ↔ model = other := by
  cases model <;> cases other <;> decide

namespace Config

variable {config merged : Config} {r after : Registry}

/-- The names of the properties that users may override. -/
def overridable : List String :=
  ["hbm_size", "hbm_type", "soc/nb_cluster", "soc/cluster/nb_core"]

/-- The configuration with the overrides of a registry put into the fields
they are for. -/
structure Merges (config : Config) (r : Registry) (merged : Config) :
    Prop where
  hbmSize : r.Gives "hbm_size" (integerOf? · = some ·)
    config.hbmSize merged.hbmSize
  hbmModel : r.Gives "hbm_type" (fun raw model => raw = model.spelling)
    config.hbmModel merged.hbmModel
  clusterCount : r.Gives "soc/nb_cluster" (integerOf? · = some ·)
    config.clusterCount merged.clusterCount
  coresPerCluster : r.Gives "soc/cluster/nb_core" (integerOf? · = some ·)
    config.coresPerCluster merged.coresPerCluster
  /-- All that is not overridable stays. -/
  others : merged = { config with
    hbmSize := merged.hbmSize
    hbmModel := merged.hbmModel
    clusterCount := merged.clusterCount
    coresPerCluster := merged.coresPerCluster }

/-- The four properties have the values that the configuration holds. -/
structure ShownBy (config : Config) (r : Registry) : Prop where
  hbmSize : r.get "hbm_size" = .ok (.integer config.hbmSize)
  hbmModel : r.get "hbm_type" = .ok (.text config.hbmModel.spelling)
  clusterCount : r.get "soc/nb_cluster" = .ok (.integer config.clusterCount)
  coresPerCluster : r.get "soc/cluster/nb_core" = .ok
    (.integer config.coresPerCluster)

/-- The registry with the four properties declared, their defaults from one
configuration and their values from another. -/
def declaredOn (config merged : Config) (r : Registry) : Registry :=
  let r := r.declaring
    (.integer "hbm_size" config.hbmSize "Size of the HBM external memory")
    (.integer merged.hbmSize)
  let r := r.declaring
    ((Declaration.text "hbm_type" config.hbmModel.spelling
      "Type of the HBM external memory").among HbmModel.spellings)
    (.text merged.hbmModel.spelling)
  let r := r.declaring
    (.integer "soc/nb_cluster" config.clusterCount "Number of clusters")
    (.integer merged.clusterCount)
  r.declaring
    (.integer "soc/cluster/nb_core" config.coresPerCluster
      "Number of cores per cluster")
    (.integer merged.coresPerCluster)

/-- The four names, one by one. -/
theorem notDeclared_of_overridable (hnew : ∀ name ∈ overridable,
      ¬ r.IsDeclared name) :
    ¬ r.IsDeclared "hbm_size" ∧ ¬ r.IsDeclared "hbm_type"
      ∧ ¬ r.IsDeclared "soc/nb_cluster" ∧
      ¬ r.IsDeclared "soc/cluster/nb_core" := by
  simpa [overridable] using hnew

/-- The spelling that is settled on is that of the model. -/
theorem gives_spelling_iff {model : HbmModel} :
    r.Gives "hbm_type" (· = ·) config.hbmModel.spelling model.spelling ↔
      r.Gives "hbm_type" (fun raw model => raw = model.spelling)
        config.hbmModel model := by
  unfold Gives
  cases r.overrides.lookup "hbm_type" with
  | none => exact HbmModel.spelling_inj
  | some raw => exact Iff.rfl

/-- What the declarations give and leave behind. -/
theorem on_declare_eq_ok_iff (hnew : ∀ name ∈ overridable,
      ¬ r.IsDeclared name) :
    config.declare.on r = (.ok merged, after) ↔
      config.Merges r merged ∧ merged.check = .ok ()
        ∧ after = config.declaredOn merged r := by
  obtain ⟨hsize, hmodel, hcount, hcores⟩ := notDeclared_of_overridable hnew
  unfold declare
  simp only [on_bind_eq_ok_iff, on_declareInteger_eq_ok_iff,
    on_declareChoice_eq_ok_iff, on_liftExcept, on_pure, Prod.mk.injEq,
    Except.ok.injEq]
  constructor
  · rintro ⟨size, _, ⟨-, hsize, rfl⟩, s, _, ⟨-, hs, -, rfl⟩, model, _,
      ⟨hparse, rfl⟩, count, _, ⟨-, hcount, rfl⟩, cores, _, ⟨-, hcores, rfl⟩, _,
      _, ⟨hcheck, rfl⟩, rfl, rfl⟩
    obtain rfl := HbmModel.parse_eq_ok_iff.1 hparse
    exact ⟨⟨hsize, gives_spelling_iff.1 hs, hcount, hcores, rfl⟩, hcheck, rfl⟩
  · rintro ⟨hmerges, hcheck, rfl⟩
    have hothers := hmerges.others
    rw [hothers] at hcheck
    refine ⟨merged.hbmSize, _, ⟨hsize, hmerges.hbmSize, rfl⟩,
      merged.hbmModel.spelling, _, ⟨?_, gives_spelling_iff.2 hmerges.hbmModel,
        HbmModel.spelling_mem_spellings _, rfl⟩,
      merged.hbmModel, _, ⟨HbmModel.parse_eq_ok_iff.2 rfl, rfl⟩,
      merged.clusterCount, _, ⟨?_, hmerges.clusterCount, rfl⟩,
      merged.coresPerCluster, _, ⟨?_, hmerges.coresPerCluster, rfl⟩,
      (), _, ⟨hcheck, rfl⟩, hothers.symm, rfl⟩
    -- None of the names is declared by the declarations before its own.
    · simp [hmodel]
    · simp [hcount]
    · simp [hcores]

/-- After the four declarations the registry shows what was merged. -/
theorem shownBy_declaredOn (hnew : ∀ name ∈ overridable, ¬ r.IsDeclared name) :
    merged.ShownBy (config.declaredOn merged r) := by
  obtain ⟨hsize, hmodel, hcount, hcores⟩ := notDeclared_of_overridable hnew
  unfold declaredOn
  constructor
  · apply get_declaring
    apply get_declaring
    apply get_declaring
    exact get_declaring_self hsize
  · apply get_declaring
    apply get_declaring
    exact get_declaring_self (by simp [hmodel])
  · apply get_declaring
    exact get_declaring_self (by simp [hcount])
  · exact get_declaring_self (by simp [hcores])

/-- A configuration is declared just if the overrides can be merged into it
and leave it in order, and then it is shown by the registry for good. -/
theorem declare_merges (config : Config) {r : Registry}
    (hnew : ∀ name ∈ overridable, ¬ r.IsDeclared name) :
    (∀ merged, (config.declare.on r).1 = .ok merged ↔
      config.Merges r merged ∧ merged.check = .ok ()) ∧
    ∀ merged after, config.declare.on r = (.ok merged, after) →
      ∀ operations : List Property.Operation,
        merged.ShownBy (operations.foldl Property.Operation.after after) := by
  constructor
  · intro merged
    constructor
    · intro hok
      obtain ⟨hmerges, hcheck, -⟩ :=
        (on_declare_eq_ok_iff hnew).1 (Prod.ext hok rfl)
      exact ⟨hmerges, hcheck⟩
    · rintro ⟨hmerges, hcheck⟩
      rw [(on_declare_eq_ok_iff hnew).2 ⟨hmerges, hcheck, rfl⟩]
  · intro merged after hon operations
    obtain ⟨-, -, rfl⟩ := (on_declare_eq_ok_iff hnew).1 hon
    have hshown : merged.ShownBy (config.declaredOn merged r) :=
      shownBy_declaredOn hnew
    exact {
      hbmSize := Property.Operation.get_foldl_after operations hshown.hbmSize
      hbmModel := Property.Operation.get_foldl_after operations hshown.hbmModel
      clusterCount :=
        Property.Operation.get_foldl_after operations hshown.clusterCount
      coresPerCluster :=
        Property.Operation.get_foldl_after operations hshown.coresPerCluster }

/-- Three clusters instead of one, and another memory. -/
theorem declare_merges_three_clusters :
    let r : Registry :=
  { overrides := [("hbm_type", "dramsys"), ("soc/nb_cluster", " 0x_3 ")] }
    let merged : Config := { clusterCount := 3, hbmModel := .dramsys }
    (({} : Config).declare.on r).1 = .ok merged ∧
      ∀ operations : List Property.Operation,
        merged.ShownBy
          (operations.foldl Property.Operation.after
            (({} : Config).declare.on r).2) := by
  intro r merged
  have hnew : ∀ name ∈ overridable, ¬ r.IsDeclared name := by decide
  have hok : (({} : Config).declare.on r).1 = .ok merged := by decide +kernel
  exact ⟨hok, (declare_merges {} hnew).2 merged _ (Prod.ext hok rfl)⟩

end Config

end ChipFabric
