/-
What the parts of a registry give: what a declaration settles on and when it
succeeds, which entry is found under a name, in which order the entries are
listed, and which fault `finish` gives. Names are compared by their bytes.

An entry is added only by a declaration that `Registry.Settles`, with what it
settles on, so that is what success and the registry afterwards are told in.
-/
import ChipFabric.Property.Registry.Lemmas
import ChipFabric.Proofs.Text.ByteOrder
import Mathlib.Data.List.Nodup

namespace ChipFabric.Property.Registry

variable {r : Registry} {decl : Declaration} {value : Value}
  {overridden : Bool} {name : String} {entry : Entry}

-- ====================================================== declarations

/-- A property gets its override, if that can be read, or else its default. -/
theorem settle_eq_ok_iff :
    r.settle decl = .ok (value, overridden) ↔
      (∃ raw, r.overrides.lookup decl.name = some raw
        ∧ decl.kind.valueOf? raw = some value ∧ overridden = true)
      ∨ r.overrides.lookup decl.name = none ∧ value = decl.default
        ∧ overridden = false := by
  unfold settle
  cases r.overrides.lookup decl.name with
  | none => simp [eq_comm]
  | some raw =>
    cases hvalue : decl.kind.valueOf? raw <;> simp [Kind.cast, hvalue, eq_comm]

/-- A declaration that settles on nothing fails by the text recorded. -/
theorem settle_ne_duplicate :
    r.settle decl ≠ .error (.duplicateProperty name) := by
  unfold settle
  cases r.overrides.lookup decl.name with
  | none => nofun
  | some raw =>
    cases hvalue : decl.kind.valueOf? raw <;> simp [Kind.cast, hvalue]

/-- The entry that a declaration would add. -/
def Settles (r : Registry) (decl : Declaration) (value : Value)
    (overridden : Bool) : Prop :=
  ¬ r.IsDeclared decl.name ∧ r.settle decl = .ok (value, overridden)
    ∧ decl.Allows value

/-- What is settled is declared last. -/
theorem on_declare_of_settles (h : r.Settles decl value overridden) :
    (declare decl).on r =
      (.ok value,
        { r with declared := r.declared ++ [⟨decl, value, overridden⟩] }) := by
  obtain ⟨hnew, hsettle, hallows⟩ := h
  rw [on_declare, if_neg hnew, hsettle]
  exact if_pos hallows

/-- A declaration that would add nothing fails and changes nothing. -/
theorem on_declare_of_not_settles (h : ∀ value overridden,
      ¬ r.Settles decl value overridden) :
    ∃ fault, (declare decl).on r = (.error fault, r)
      ∧ (fault = .duplicateProperty decl.name ↔ r.IsDeclared decl.name) := by
  rw [on_declare]
  by_cases hdeclared : r.IsDeclared decl.name
  · exact ⟨_, if_pos hdeclared, by simp [hdeclared]⟩
  · rw [if_neg hdeclared]
    rcases hsettle : r.settle decl with fault | ⟨value, overridden⟩
    · refine ⟨fault,
        rfl, fun hfault => ?_, fun hname => absurd hname hdeclared⟩
      exact absurd (hfault ▸ hsettle) settle_ne_duplicate
    · have hallows : ¬ decl.Allows value := fun hallows =>
        h value overridden ⟨hdeclared, hsettle, hallows⟩
      exact ⟨_, if_neg hallows, by simp [hdeclared]⟩

/-- A declaration gives a value just if it adds an entry with that value. -/
theorem declare_eq_ok_iff :
    ((declare decl).on r).1 = .ok value ↔
      ∃ overridden, r.Settles decl value overridden := by
  by_cases h : ∃ settled overridden, r.Settles decl settled overridden
  · obtain ⟨settled, overridden, h⟩ := h
    rw [on_declare_of_settles h]
    constructor
    · intro hvalue
      obtain rfl := Except.ok.inj hvalue
      exact ⟨overridden, h⟩
    · intro ⟨other, hother⟩
      obtain ⟨rfl, -⟩ :=
        Prod.mk.inj (Except.ok.inj (h.2.1.symm.trans hother.2.1))
      rfl
  · obtain ⟨fault, hon, -⟩ := on_declare_of_not_settles
      fun value overridden hsettles => h ⟨value, overridden, hsettles⟩
    rw [hon]
    exact ⟨nofun, fun ⟨overridden, hsettles⟩ =>
      absurd ⟨value, overridden, hsettles⟩ h⟩

/-- No other check gives this fault. -/
theorem declare_eq_duplicate_iff :
    ((declare decl).on r).1 = .error (.duplicateProperty decl.name) ↔
      r.IsDeclared decl.name := by
  by_cases h : ∃ settled overridden, r.Settles decl settled overridden
  · obtain ⟨settled, overridden, h⟩ := h
    rw [on_declare_of_settles h]
    exact ⟨nofun, fun hdeclared => absurd hdeclared h.1⟩
  · obtain ⟨fault, hon, hfault⟩ := on_declare_of_not_settles
      fun value overridden hsettles => h ⟨value, overridden, hsettles⟩
    rw [hon, ← hfault, Except.error.injEq]

-- ============================================================ entries

theorem find?_eq_none_iff : r.find? name = none ↔ ¬ r.IsDeclared name := by
  simp [find?, IsDeclared]

/-- Where names are distinct, to search for one is to have its entry. -/
theorem find?_eq_some_iff_mem (h : (r.declared.map (·.decl.name)).Nodup) :
    r.find? name = some entry ↔ entry ∈ r.declared
      ∧ entry.decl.name = name := by
  constructor
  · intro hfind
    exact ⟨List.mem_of_find?_eq_some hfind, by
      simpa using List.find?_some hfind⟩
  · intro ⟨hmem, hname⟩
    cases hfind : r.find? name with
    | none => exact absurd ⟨entry, hmem, hname⟩ (find?_eq_none_iff.1 hfind)
    | some other =>
      have hother : other.decl.name = name := by
        simpa using List.find?_some hfind
      have heq :=
        List.inj_on_of_nodup_map h (List.mem_of_find?_eq_some hfind) hmem
        (hother.trans hname.symm)
      rw [heq]

-- ============================================================= order

/-- Every entry is described once. -/
theorem describe_perm (r : Registry) : r.describe.Perm r.declared :=
  List.mergeSort_perm ..

theorem pairwise_mergeSort_le {α : Type} (key : α → String) (values : List α) :
    (values.mergeSort fun a b => key a ≤ key b).Pairwise fun a b =>
      key a ≤ key b := by
  have hsorted := @List.pairwise_mergeSort α (fun a b => key a ≤ key b)
    (fun a b c hab hbc => decide_eq_true
      (le_trans (of_decide_eq_true hab) (of_decide_eq_true hbc)))
    (fun a b => by simpa using le_total (key a) (key b)) values
  exact hsorted.imp of_decide_eq_true

/-- The names are listed in the order of their bytes, each once. -/
theorem pairwise_describe (h : (r.declared.map (·.decl.name)).Nodup) :
    r.describe.Pairwise fun a b => Text.bytes a.decl.name < Text.bytes
      b.decl.name := by
  have hle : r.describe.Pairwise fun a b => a.decl.name ≤ b.decl.name :=
    pairwise_mergeSort_le (·.decl.name) r.declared
  have hne : r.describe.Pairwise fun a b => a.decl.name ≠ b.decl.name :=
    List.pairwise_map.1 ((r.describe_perm.map _).nodup_iff.2 h)
  exact hle.imp₂
    (fun a b hab hne => Text.bytes_lt_bytes (lt_of_le_of_ne hab hne)) hne

/-- What is found first in sorted names is the least of what can be found. -/
theorem find?_mergeSort_eq_some {names : List String} {p : String → Bool}
    (h : (names.mergeSort fun a b => a ≤ b).find? p = some name) :
    name ∈ names ∧ p name ∧ ∀ other ∈ names, p other → name ≤ other := by
  obtain ⟨hp, before, later, hnames, hbefore⟩ :=
    List.find?_eq_some_iff_append.1 h
  have hmem : ∀ other, other ∈ names ↔ other ∈ before ++ name :: later :=
    fun other => by
    rw [← hnames, List.mem_mergeSort]
  have hsorted : (before ++ name :: later).Pairwise (· ≤ ·) :=
    hnames ▸ pairwise_mergeSort_le id names
  refine ⟨(hmem name).2 (by simp), hp, fun other hother hpother => ?_⟩
  rcases List.mem_append.1 ((hmem other).1 hother) with hmem | hmem
  · have hnot := hbefore other hmem
    rw [hpother] at hnot
    cases hnot
  · rcases List.mem_cons.1 hmem with rfl | hmem
    · exact le_refl other
    · exact List.rel_of_pairwise_cons (List.pairwise_append.1 hsorted).2.1 hmem

/-- An override was recorded for a name that is not declared. -/
def Unknown (r : Registry) (name : String) : Prop :=
  (∃ raw, (name, raw) ∈ r.overrides) ∧ ¬ r.IsDeclared name

/-- The registry is finished, or the least unknown name is the fault. -/
theorem finish_cases (r : Registry) :
    (r.finish = .ok () ∧ ∀ name, ¬ r.Unknown name)
      ∨ ∃ name, r.finish = .error (.unknownProperty name) ∧ r.Unknown name
        ∧ ∀ other, r.Unknown other → name ≤ other := by
  have hrecorded : ∀ name, name ∈ r.overrides.map (·.1) ↔
      ∃ raw, (name, raw) ∈ r.overrides := by
    simp
  unfold finish
  cases hfind : ((r.overrides.map (·.1)).mergeSort fun a b => a ≤ b).find?
      fun name => ¬ r.IsDeclared name with
  | none =>
    refine .inl ⟨by simp only [hfind], fun name hunknown =>
      List.find?_eq_none.1 hfind name ?_ ?_⟩
    · exact List.mem_mergeSort.2 ((hrecorded name).2 hunknown.1)
    · exact decide_eq_true hunknown.2
  | some name =>
    obtain ⟨hmem, hp, hleast⟩ := find?_mergeSort_eq_some hfind
    refine .inr ⟨name, by simp only [hfind],
      ⟨(hrecorded name).1 hmem, of_decide_eq_true hp⟩, ?_⟩
    exact fun other hother => hleast other ((hrecorded other).2 hother.1)
      (decide_eq_true hother.2)

/-- A registry is finished if every override has met its property. -/
theorem finish_eq_ok_iff : r.finish = .ok () ↔ ∀ name, ¬ r.Unknown name := by
  rcases r.finish_cases with ⟨hok, hnone⟩ | ⟨name, herror, hname, -⟩
  · exact ⟨fun _ => hnone, fun _ => hok⟩
  · rw [herror]
    exact ⟨nofun, fun hnone => absurd hname (hnone name)⟩

/-- The fault is of the least name that is overridden and not declared. -/
theorem finish_eq_error_iff {fault : Fault} :
    r.finish = .error fault ↔ ∃ name, fault = .unknownProperty name
      ∧ r.Unknown name
      ∧ ∀ other, r.Unknown other → Text.bytes name ≤ Text.bytes other := by
  simp only [Text.bytes_le_bytes_iff]
  rcases r.finish_cases with ⟨hok, hnone⟩ | ⟨name, herror, hname, hleast⟩
  · rw [hok]
    exact ⟨nofun, fun ⟨name, _, hname, _⟩ => absurd hname (hnone name)⟩
  · rw [herror, Except.error.injEq]
    constructor
    · intro hfault
      exact ⟨name, hfault.symm, hname, hleast⟩
    · intro ⟨other, hfault, hother, hleast'⟩
      rw [hfault, le_antisymm (hleast other hother) (hleast' name hname)]

end ChipFabric.Property.Registry
