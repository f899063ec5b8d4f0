/-
Which configuration a text is. For every section `Described` says, apart from
how it is read, what its object has to look like and which record it then
stands for: the names it may have, what the value at each of them means, and
what a field left out stands for. A text is read as a configuration exactly if
its value describes it and it passes its check (`parsedAs_of_longhand`).

Sections may also be written as arrays and the memory model as an object; what
is said here is about texts that make no use of this (`Longhand`).
-/
import ChipFabric.Proofs.Config.RoundTrip

namespace ChipFabric

open Json
  (AsObject Every Field IsArray IsWord IsWords Keys Reads Reordered Required
    Unordered)

-- ======================================================= descriptions

/-- The value is a string that names the model. -/
inductive HbmModel.IsNamed : Json → HbmModel → Prop
  | simple : IsNamed (.string "simple") .simple
  | dramsys : IsNamed (.string "dramsys") .dramsys

/-- Neither number of a region may be left out. -/
structure Region.Described (members : List (String × Json)) (region : Region) :
    Prop where
  keys : Keys members ["base", "size"]
  base : Required members "base" IsWord region.base
  size : Required members "size" IsWord region.size

structure MemoryMap.Described (members : List (String × Json))
    (map : MemoryMap) : Prop where
  keys : Keys members ["bootrom", "hbm_base", "cluster"]
  bootrom : Field members "bootrom" (AsObject Region.Described)
    ⟨0x1000, 0x10000⟩ map.bootrom
  hbmBase : Field members "hbm_base" IsWord 0x80000000 map.hbmBase
  cluster : Field members "cluster" (AsObject Region.Described)
    ⟨0x10000000, 0x40000⟩ map.cluster

structure ClusterSizes.Described (members : List (String × Json))
    (sizes : ClusterSizes) : Prop where
  keys : Keys members ["tcdm_size", "periph_size", "zero_mem_size"]
  tcdm : Field members "tcdm_size" IsWord 0x20000 sizes.tcdm
  periph : Field members "periph_size" IsWord 0x10000 sizes.periph
  zeroMem : Field members "zero_mem_size" IsWord 0x10000 sizes.zeroMem

structure Interconnect.Described (members : List (String × Json))
    (interconnect : Interconnect) : Prop where
  keys : Keys members
    ["narrow_bandwidth", "wide_bandwidth", "hbm_latency",
      "loader_entry_offset"]
  narrowBandwidth : Field members "narrow_bandwidth" IsWord 8
    interconnect.narrowBandwidth
  wideBandwidth : Field members "wide_bandwidth" IsWord 64
    interconnect.wideBandwidth
  hbmLatency : Field members "hbm_latency" IsWord 100 interconnect.hbmLatency
  loaderEntryOffset : Field members "loader_entry_offset" IsWord 0x20
    interconnect.loaderEntryOffset

structure Config.Described (members : List (String × Json)) (config : Config) :
    Prop where
  keys : Keys members
    ["nb_cluster", "nb_core_per_cluster", "cluster_cores", "hbm_size",
      "hbm_type", "memory_map", "cluster", "interconnect"]
  clusterCount : Field members "nb_cluster" IsWord 1 config.clusterCount
  coresPerCluster : Field members "nb_core_per_cluster" IsWord 9
    config.coresPerCluster
  clusterCores : Field members "cluster_cores" IsWords [] config.clusterCores
  hbmSize : Field members "hbm_size" IsWord 0x80000000 config.hbmSize
  hbmModel : Field members "hbm_type" HbmModel.IsNamed .simple config.hbmModel
  memoryMap : Field members "memory_map" (AsObject MemoryMap.Described)
    ⟨⟨0x1000, 0x10000⟩, 0x80000000, ⟨0x10000000, 0x40000⟩⟩ config.memoryMap
  cluster : Field members "cluster" (AsObject ClusterSizes.Described)
    ⟨0x20000, 0x10000, 0x10000⟩ config.cluster
  interconnect : Field members "interconnect" (AsObject Interconnect.Described)
    ⟨8, 64, 100, 0x20⟩ config.interconnect

-- =========================================================== longhand

/-- The map and its regions are not written as arrays. -/
structure MemoryMap.Longhand (v : Json) : Prop where
  map : ¬ v.IsArray
  bootrom : v.Every "bootrom" fun region => ¬ region.IsArray
  cluster : v.Every "cluster" fun region => ¬ region.IsArray

/-- No section is written as an array, and the memory model not as an
object. -/
structure Config.Longhand (v : Json) : Prop where
  config : ¬ v.IsArray
  hbmModel : v.Every "hbm_type" fun model => ¬ model.IsObject
  memoryMap : v.Every "memory_map" MemoryMap.Longhand
  cluster : v.Every "cluster" fun sizes => ¬ sizes.IsArray
  interconnect : v.Every "interconnect" fun interconnect =>
    ¬ interconnect.IsArray

-- ============================================================ reading

variable {v : Json}

/-- A model is read from its name; an object would be another spelling of
it. -/
theorem HbmModel.reads_ofJson? (hlong : ¬ v.IsObject) :
    Reads ofJson? IsNamed v := by
  intro model
  constructor
  · intro h
    unfold ofJson? at h
    split at h
    · next name =>
      unfold ofSpelling? at h
      split at h
      · next hname =>
        cases h
        exact hname ▸ .simple
      split at h
      · next hname =>
        cases h
        exact hname ▸ .dramsys
      · cases h
    · exact absurd trivial hlong
    · cases h
  · intro h
    cases h <;> rfl

/-- A region has no defaults: both its fields must be there. -/
theorem Region.reads_ofJson? (hlong : ¬ v.IsArray) :
    Reads ofJson? (AsObject Described) v := by
  apply Json.reads_section rfl hlong fun members region h => h.keys
  intro members hv hkeys region
  simp only [List.map_cons, List.map_nil]
  constructor
  · intro hmake
    split at hmake
    · next base size hvalues =>
      simp only [List.cons.injEq, and_true,
        Json.lookup_eq_some_iff_mem hkeys.nodup] at hvalues
      simp only [Option.bind_eq_bind, Option.bind_eq_some_iff,
        Json.word?_eq_some_iff] at hmake
      obtain ⟨b, hb, s, hs, hregion⟩ := hmake
      cases hregion
      exact ⟨hkeys, ⟨base, hvalues.1, hb⟩, ⟨size, hvalues.2, hs⟩⟩
    · cases hmake
  · intro ⟨_, ⟨base, hbase, hb⟩, ⟨size, hsize, hs⟩⟩
    rw [← Json.lookup_eq_some_iff_mem hkeys.nodup] at hbase hsize
    simp [hbase, hsize, Json.word?_eq_some_iff.2 hb,
      Json.word?_eq_some_iff.2 hs]

/-- A missing region is the default one, a region that is there must be
complete. -/
theorem MemoryMap.reads_ofJson? (hlong : Longhand v) :
    Reads ofJson? (AsObject Described) v := by
  apply Json.reads_section rfl hlong.map fun members map h => h.keys
  intro members hv hkeys map
  subst hv
  have hnodup := hkeys.nodup
  have hbootrom : (Json.object members).Every "bootrom"
      (Reads Region.ofJson? _) := fun w hw =>
    Region.reads_ofJson? (hlong.bootrom w hw)
  have hcluster : (Json.object members).Every "cluster"
      (Reads Region.ofJson? _) := fun w hw =>
    Region.reads_ofJson? (hlong.cluster w hw)
  simp only [List.map_cons, List.map_nil, Option.bind_eq_bind,
    Option.bind_eq_some_iff, Reads.field? hbootrom hnodup,
    Reads.field? hcluster hnodup,
    Json.field?_word?_eq_some_iff hnodup]
  constructor
  · intro ⟨_, hbootrom, _, hhbmBase, _, hcluster, hmap⟩
    cases hmap
    exact ⟨hkeys, hbootrom, hhbmBase, hcluster⟩
  · intro h
    exact ⟨_, h.bootrom, _, h.hbmBase, _, h.cluster, rfl⟩

/-- Sizes are read one by one, each with its default. -/
theorem ClusterSizes.reads_ofJson? (hlong : ¬ v.IsArray) :
    Reads ofJson? (AsObject Described) v := by
  apply Json.reads_section rfl hlong fun members sizes h => h.keys
  intro members hv hkeys sizes
  simp only [List.map_cons, List.map_nil, Option.bind_eq_bind,
    Option.bind_eq_some_iff, Json.field?_word?_eq_some_iff hkeys.nodup]
  constructor
  · intro ⟨_, htcdm, _, hperiph, _, hzeroMem, hsizes⟩
    cases hsizes
    exact ⟨hkeys, htcdm, hperiph, hzeroMem⟩
  · intro h
    exact ⟨_, h.tcdm, _, h.periph, _, h.zeroMem, rfl⟩

/-- So are bandwidths and latencies. -/
theorem Interconnect.reads_ofJson? (hlong : ¬ v.IsArray) :
    Reads ofJson? (AsObject Described) v := by
  apply Json.reads_section rfl hlong fun members interconnect h => h.keys
  intro members hv hkeys interconnect
  simp only [List.map_cons, List.map_nil, Option.bind_eq_bind,
    Option.bind_eq_some_iff, Json.field?_word?_eq_some_iff hkeys.nodup]
  constructor
  · intro ⟨_, hnarrow, _, hwide, _, hlatency, _, hentry, hinterconnect⟩
    cases hinterconnect
    exact ⟨hkeys, hnarrow, hwide, hlatency, hentry⟩
  · intro h
    exact ⟨_, h.narrowBandwidth, _, h.wideBandwidth, _, h.hbmLatency, _,
      h.loaderEntryOffset, rfl⟩

namespace Config

/-- A value written in longhand is read as just the configuration it
describes. -/
theorem reads_ofJson? (hlong : Longhand v) :
    Reads ofJson? (AsObject Described) v := by
  apply Json.reads_section rfl hlong.config fun members config h => h.keys
  intro members hv hkeys config
  subst hv
  have hnodup := hkeys.nodup
  have hmodel : (Json.object members).Every "hbm_type"
      (Reads HbmModel.ofJson? _) := fun w hw =>
    HbmModel.reads_ofJson? (hlong.hbmModel w hw)
  have hmap : (Json.object members).Every "memory_map"
      (Reads MemoryMap.ofJson? _) := fun w hw =>
    MemoryMap.reads_ofJson? (hlong.memoryMap w hw)
  have hsizes : (Json.object members).Every "cluster"
      (Reads ClusterSizes.ofJson? _) := fun w hw =>
    ClusterSizes.reads_ofJson? (hlong.cluster w hw)
  have hinterconnect : (Json.object members).Every "interconnect"
      (Reads Interconnect.ofJson? _) :=
    fun w hw => Interconnect.reads_ofJson? (hlong.interconnect w hw)
  have hcores : (Json.object members).Every "cluster_cores"
      (Reads Json.words? _) := fun w _ =>
    Json.reads_words? w
  simp only [List.map_cons, List.map_nil, Option.bind_eq_bind,
    Option.bind_eq_some_iff, Reads.field? hmodel hnodup,
    Reads.field? hmap hnodup, Reads.field? hsizes hnodup,
    Reads.field? hinterconnect hnodup, Reads.field? hcores hnodup,
    Json.field?_word?_eq_some_iff hnodup]
  constructor
  · intro ⟨_, hcount, _, hper, _, hcores, _, hsize, _, hmodel, _, hmap, _,
      hsizes, _, hinterconnect, hconfig⟩
    cases hconfig
    exact ⟨hkeys, hcount, hper, hcores, hsize, hmodel, hmap, hsizes,
      hinterconnect⟩
  · intro h
    exact ⟨_, h.clusterCount, _, h.coresPerCluster, _, h.clusterCores, _,
      h.hbmSize, _, h.hbmModel, _, h.memoryMap, _, h.cluster, _,
      h.interconnect, rfl⟩

end Config

-- ============================================================== order

/-- The object that stands for a model has one member. -/
theorem HbmModel.ofJson?_object_cons_cons (first second : String × Json)
    (others : List (String × Json)) :
    ofJson? (.object (first :: second :: others)) = none := by
  simp [ofJson?]

/-- A model is read from a name or from an object of one member, where there
is nothing to put in order. -/
theorem HbmModel.unordered_ofJson? : Unordered ofJson? := by
  intro v v' h
  cases h with
  | same v => rfl
  | object hperm hmembers =>
    cases hmembers with
    | nil => rw [hperm.eq_nil]
    | cons hvalue hrest =>
      cases hrest with
      | nil =>
        rw [List.perm_singleton.1 hperm]
        cases hvalue <;> rfl
      | cons _ _ =>
        have hlength := hperm.length_eq
        obtain ⟨first, others, rfl⟩ :=
          List.exists_cons_of_length_eq_add_one hlength
        obtain ⟨second, others, rfl⟩ := List.exists_cons_of_length_eq_add_one
          (Nat.succ.inj hlength)
        rw [ofJson?_object_cons_cons, ofJson?_object_cons_cons]

/-- Regions are read by the names of their fields. -/
theorem Region.unordered_ofJson? : Unordered ofJson? := by
  apply Json.unordered_section fun v => rfl
  intro given given' hgiven
  have hbase := hgiven "base"
  have hsize := hgiven "size"
  simp only [List.map_cons, List.map_nil]
  generalize given "base" = base, given' "base" = base', given "size" = size,
    given' "size" = size' at hbase hsize
  cases hbase with
  | none => rfl
  | some hbase =>
    cases hsize with
    | none => rfl
    | some hsize =>
      simp only [Json.unordered_word? hbase, Json.unordered_word? hsize]

/-- A map is read the same if its regions are, in any order. -/
theorem MemoryMap.unordered_ofJson? : Unordered ofJson? := by
  apply Json.unordered_section fun v => rfl
  intro given given' hgiven
  simp only [List.map_cons, List.map_nil,
    Region.unordered_ofJson?.field? _ (hgiven _), Json.unordered_word?.field? _
    (hgiven _)]

theorem ClusterSizes.unordered_ofJson? : Unordered ofJson? := by
  apply Json.unordered_section fun v => rfl
  intro given given' hgiven
  simp only [List.map_cons, List.map_nil,
    Json.unordered_word?.field? _ (hgiven _)]

theorem Interconnect.unordered_ofJson? : Unordered ofJson? := by
  apply Json.unordered_section fun v => rfl
  intro given given' hgiven
  simp only [List.map_cons, List.map_nil,
    Json.unordered_word?.field? _ (hgiven _)]

namespace Config

/-- A whole configuration is read the same at all levels. -/
theorem unordered_ofJson? : Unordered ofJson? := by
  apply Json.unordered_section fun v => rfl
  intro given given' hgiven
  simp only [List.map_cons, List.map_nil,
    Json.unordered_word?.field? _ (hgiven _), Json.unordered_words?.field? _
    (hgiven _), HbmModel.unordered_ofJson?.field? _ (hgiven _),
    MemoryMap.unordered_ofJson?.field? _ (hgiven _),
    ClusterSizes.unordered_ofJson?.field? _ (hgiven _),
    Interconnect.unordered_ofJson?.field? _ (hgiven _)]

-- ============================================================= texts

/-- What comes of a text of that value. -/
structure ParsedAs (text : String) (v : Json) : Prop where
  /-- A configuration is returned if it is the described one and passes its
  check, and not otherwise. -/
  accepted : ∀ config, parse text = .ok config ↔
    v.AsObject Described config ∧ config.check = .ok ()
  /-- Of a described configuration that fails its check, the fault is the one
  the check finds. -/
  unfit : ∀ config fault, v.AsObject Described config →
    config.check = .error fault →
    parse text = .error fault
  /-- A text that describes no configuration is malformed. -/
  malformed : (∀ config, ¬ v.AsObject Described config) →
    parse text = .error .malformedConfig
  /-- In whatever order the names of an object are written, the outcome is the
  same. -/
  unordered : ∀ text' v', Json.parse? text' = some v' → Reordered v v' →
    parse text' = parse text

/-- What a JSON text is as a configuration follows from what its value
describes. -/
theorem parsedAs_of_longhand {text : String} {v : Json}
    (htext : Json.parse? text = some v) (hlong : Longhand v) :
    ParsedAs text v := by
  have hreads := reads_ofJson? hlong
  have hdescribed : ∀ config, v.AsObject Described config →
      parse text = config.check.map fun _ => config := fun config h =>
    parse_of_ofJson? htext ((hreads config).2 h)
  have hmalformed : (∀ config, ¬ v.AsObject Described config) →
      parse text = .error .malformedConfig := by
    intro hnone
    apply parse_of_ofJson?_eq_none htext
    rw [Option.eq_none_iff_forall_ne_some]
    exact fun config hvalue => hnone config ((hreads config).1 hvalue)
  refine ⟨fun config => ⟨fun h => ?_, fun h => ?_⟩,
    fun config fault h hcheck => ?_, hmalformed,
    fun text' v' htext' hv => ?_⟩
  · by_cases hsome : ∃ described, v.AsObject Described described
    · obtain ⟨described, hsome⟩ := hsome
      rw [hdescribed described hsome] at h
      cases hcheck : described.check with
      | ok _ =>
        rw [hcheck] at h
        cases h
        exact ⟨hsome, hcheck⟩
      | error fault =>
        rw [hcheck] at h
        cases h
    · rw [hmalformed (not_exists.1 hsome)] at h
      cases h
  · rw [hdescribed config h.1, h.2]
    rfl
  · rw [hdescribed config h, hcheck]
    rfl
  · have hsame : ofJson? v = ofJson? v' := unordered_ofJson? hv
    rw [parse, parse, read, read, htext, htext', Option.bind_some,
      Option.bind_some, hsame]

/-- Two clusters with core counts of their own and a greater distance between
them; all else is left out. -/
def sparseValue : Json := .object [
  ("cluster_cores", .array [.natural 4, .natural 8]),
  ("nb_cluster", .natural 2),
  ("memory_map", .object [
    ("cluster",
      .object [("size", .natural 0x80000), ("base", .natural 0x10000000)])]),
  ("hbm_type", .string "dramsys")]

def sparseConfig : Config where
  clusterCount := 2
  clusterCores := [4, 8]
  hbmModel := .dramsys
  memoryMap := { cluster := ⟨0x10000000, 0x80000⟩ }

/-- The same with the count of the clusters first. -/
def swappedValue : Json := .object [
  ("nb_cluster", .natural 2),
  ("cluster_cores", .array [.natural 4, .natural 8]),
  ("memory_map", .object [
    ("cluster",
      .object [("base", .natural 0x10000000), ("size", .natural 0x80000)])]),
  ("hbm_type", .string "dramsys")]

/-- The two texts of the example differ in their order only. -/
theorem swappedValue_reordered : Reordered sparseValue swappedValue := by
  have hregion : Reordered
      (.object [("size", .natural 0x80000), ("base", .natural 0x10000000)])
      (.object [("base", .natural 0x10000000), ("size", .natural 0x80000)]) :=
    .object (.swap _ _ _) (.cons (.same _) (.cons (.same _) .nil))
  exact .object (.swap _ _ _) (.cons (.same _) (.cons (.same _)
    (.cons (.object (.refl _) (.cons hregion .nil)) (.cons (.same _) .nil))))

/-- Nothing in the example is written short. -/
theorem sparseValue_longhand : Longhand sparseValue where
  config := id
  hbmModel v hv := by
    obtain rfl : v = .string "dramsys" := by simpa using hv
    exact id
  memoryMap v hv := by
    obtain rfl : v = .object [("cluster", .object
        [("size", .natural 0x80000), ("base", .natural 0x10000000)])] := by
      simpa using hv
    refine ⟨id, fun region hregion => ?_, fun region hregion => ?_⟩
    · simp at hregion
    · obtain rfl : region = .object
          [("size", .natural 0x80000), ("base", .natural 0x10000000)] := by
        simpa using hregion
      exact id
  cluster v hv := by simp at hv
  interconnect v hv := by simp at hv

/-- A text with most fields left out and some out of order: it is read, and so
is the same one put in another order and indented. -/
theorem sparseValue_parsedAs :
    Json.parse? sparseValue.compact = some sparseValue
    ∧ Longhand sparseValue ∧ parse sparseValue.compact = .ok sparseConfig
    ∧ parse swappedValue.indented = .ok sparseConfig := by
  have htext : Json.parse? sparseValue.compact = some sparseValue :=
    Json.parse?_compact
      (by simp [sparseValue, Json.Plain, Json.PlainMembers, Json.PlainItems])
  have hswapped : Json.parse? swappedValue.indented = some swappedValue :=
    Json.parse?_indented
      (by simp [swappedValue, Json.Plain, Json.PlainMembers, Json.PlainItems])
  have hparsed := parsedAs_of_longhand htext sparseValue_longhand
  have hdescribed := (reads_ofJson? sparseValue_longhand sparseConfig).1 rfl
  have hok := (hparsed.accepted sparseConfig).2 ⟨hdescribed, rfl⟩
  refine ⟨htext, sparseValue_longhand, hok, ?_⟩
  rw [hparsed.unordered _ _ hswapped swappedValue_reordered, hok]

end Config

end ChipFabric
