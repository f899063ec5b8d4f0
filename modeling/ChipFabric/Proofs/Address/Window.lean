/-
Windows by their addresses. The questions about windows are answered from
base and size; here each answer is brought to the addresses that the windows
hold, and making and carving windows to the numbers that are asked for.
-/
import ChipFabric.Address.Carve
import ChipFabric.Edit

namespace ChipFabric.Window

variable {v w part : Window} {base size offset addr : Nat} {fault : Fault}

-- ========================================================= addresses

/-- No window holds the last address of the space. -/
theorem lt_maxWord_of_mem (h : addr ∈ w) : addr < maxWord :=
  Nat.lt_of_lt_of_le h.2 w.fits

theorem offset?_eq_some_iff :
    w.offset? addr = some offset ↔ addr = w.base + offset
      ∧ offset < w.size := by
  unfold offset?
  split
  · next hin =>
    rw [mem_def] at hin
    rw [Option.some.injEq]
    omega
  · next hout =>
    rw [mem_def] at hout
    constructor
    · exact nofun
    · omega

theorem overlaps_of_mem (hv : addr ∈ v) (hw : addr ∈ w) : v.Overlaps w := by
  rw [mem_def] at hv hw
  simp only [Overlaps, stop]
  omega

/-- Windows overlap exactly if they share an address. -/
theorem overlaps_iff_exists_mem : v.Overlaps w ↔ ∃ addr, addr ∈ v
    ∧ addr ∈ w := by
  constructor
  · rintro ⟨hv, hw⟩
    have hpos := v.size_pos
    have hpos' := w.size_pos
    refine ⟨max v.base w.base, ?_, ?_⟩ <;> rw [mem_def]
      <;> simp only [stop] at hv hw <;> omega
  · rintro ⟨addr, hv, hw⟩
    exact overlaps_of_mem hv hw

theorem Overlaps.symm (h : v.Overlaps w) : w.Overlaps v := ⟨h.2, h.1⟩

/-- The windows share no address. -/
def Disjoint (v w : Window) : Prop := ∀ addr, addr ∈ v → addr ∉ w

theorem disjoint_of_not_overlaps (h : ¬ v.Overlaps w) : v.Disjoint w :=
  fun _ hv hw => h (overlaps_of_mem hv hw)

theorem not_overlaps_iff_disjoint : ¬ v.Overlaps w ↔ v.Disjoint w := by
  rw [overlaps_iff_exists_mem, Disjoint]
  simp only [not_exists, not_and]

theorem Disjoint.symm (h : v.Disjoint w) : w.Disjoint v :=
  fun addr hw hv => h addr hv hw

/-- A window encloses those of which it holds every address. -/
theorem encloses_iff_forall_mem : v.Encloses w ↔ ∀ addr ∈ w, addr ∈ v := by
  constructor
  · rintro ⟨hbase, hstop⟩ addr hw
    exact ⟨Nat.le_trans hbase hw.1, Nat.lt_of_lt_of_le hw.2 hstop⟩
  · intro hall
    -- The first address and the last one of a window tell where it ends.
    have hpos := w.size_pos
    have hfirst := hall w.base w.base_mem
    have hlast := hall (w.base + w.size - 1) (by rw [mem_def]; omega)
    rw [mem_def] at hfirst hlast
    simp only [Encloses, stop]
    omega

/-- What overlaps a window overlaps one around it. -/
theorem Overlaps.of_encloses (h : v.Overlaps part) (hin : w.Encloses part) :
    v.Overlaps w := by
  obtain ⟨hstart, hstop⟩ := h
  obtain ⟨hbase, hend⟩ := hin
  exact ⟨Nat.lt_of_lt_of_le hstart hend, Nat.lt_of_le_of_lt hbase hstop⟩

/-- A window is known by its addresses. -/
theorem eq_iff_forall_mem : v = w ↔ ∀ addr, addr ∈ v ↔ addr ∈ w := by
  constructor
  · rintro rfl
    exact fun addr => Iff.rfl
  · intro hsame
    obtain ⟨hbase, hstop⟩ := encloses_iff_forall_mem.2 fun addr hw =>
      (hsame addr).2 hw
    obtain ⟨hbase', hstop'⟩ := encloses_iff_forall_mem.2 fun addr hv =>
      (hsame addr).1 hv
    obtain ⟨base, size, _, _⟩ := v
    obtain ⟨base', size', _, _⟩ := w
    simp only [stop] at hbase hstop hbase' hstop'
    obtain rfl : base = base' := by omega
    obtain rfl : size = size' := by omega
    rfl

-- ============================================================ making

theorem make_of_fits (hpos : 0 < size) (hfits : base + size ≤ maxWord) :
    make base size = .ok ⟨base, size, hpos, hfits⟩ :=
  dif_pos ⟨hpos, hfits⟩

/-- A window that is made is the one asked for. -/
theorem of_make (h : make base size = .ok w) : w.base = base
    ∧ w.size = size := by
  rw [make] at h
  split at h
  · cases h
    exact ⟨rfl, rfl⟩
  · cases h

theorem make_eq_ok_iff : make base size = .ok w ↔ w.base = base
    ∧ w.size = size := by
  constructor
  · exact of_make
  · rintro ⟨rfl, rfl⟩
    exact make_of_fits w.size_pos w.fits

theorem exists_make_eq_ok_iff :
    (∃ w, make base size = .ok w) ↔ 0 < size ∧ base + size ≤ maxWord := by
  constructor
  · rintro ⟨w, h⟩
    obtain ⟨rfl, rfl⟩ := of_make h
    exact ⟨w.size_pos, w.fits⟩
  · rintro ⟨hpos, hfits⟩
    exact ⟨_, make_of_fits hpos hfits⟩

theorem make_eq_error_iff : make base size = .error fault ↔
    ¬ (0 < size ∧ base + size ≤ maxWord)
      ∧ fault = .invalidWindow base size := by
  unfold make
  split <;> simp_all [eq_comm]

-- ============================================================ carving

/-- A window that is carved is the one asked for, and inside. -/
theorem of_carve (h : w.carve offset size = .ok part) :
    part.base = w.base + offset ∧ part.size = size ∧ w.Encloses part := by
  rw [carve] at h
  by_cases hfar : maxWord < w.base + offset
  · simp [hfar] at h
  · simp only [hfar, ↓reduceIte, bind_eq_ok_iff] at h
    obtain ⟨made, hmade, h⟩ := h
    by_cases hin : w.Encloses made
    · simp only [hin, ↓reduceIte] at h
      cases h
      exact ⟨(of_make hmade).1, (of_make hmade).2, hin⟩
    · simp [hin] at h

/-- A part that lies inside a window can be carved out of it. -/
theorem carve_of_le (hpos : 0 < size) (hle : offset + size ≤ w.size) :
    ∃ part, w.carve offset size = .ok part := by
  have hfits := w.fits
  have hnot : ¬ maxWord < w.base + offset := by omega
  have hin : w.Encloses ⟨w.base + offset, size, hpos, by omega⟩ := by
    simp only [Encloses, stop]
    omega
  simp [carve, hnot,
    make_of_fits hpos (show w.base + offset + size ≤ maxWord by omega), hin,
    pure, Except.pure]

/-- What can be carved out of a window is what lies inside. -/
theorem exists_carve_eq_ok_iff :
    (∃ part, w.carve offset size = .ok part) ↔ 0 < size
      ∧ offset + size ≤ w.size := by
  constructor
  · rintro ⟨part, h⟩
    obtain ⟨hbase, rfl, hin⟩ := of_carve h
    have hend := hin.2
    simp only [stop] at hend
    exact ⟨part.size_pos, by omega⟩
  · rintro ⟨hpos, hle⟩
    exact carve_of_le hpos hle

/-- The fault names the first numbers that are none of a window inside. -/
theorem fault_of_carve (h : w.carve offset size = .error fault) :
    fault = if maxWord < w.base + offset then .invalidWindow w.base offset
      else .invalidWindow (w.base + offset) size := by
  unfold carve at h
  split
  · next hfar =>
    rw [if_pos hfar] at h
    cases h
    rfl
  · next hfar =>
    rw [if_neg hfar] at h
    cases hmade : make (w.base + offset) size with
    | error other =>
      obtain ⟨-, rfl⟩ := make_eq_error_iff.1 hmade
      rw [hmade] at h
      cases h
      rfl
    | ok made =>
      obtain ⟨hbase, hsize⟩ := of_make hmade
      rw [hmade, ok_bind] at h
      split at h
      · cases h
      · cases h
        rw [hbase, hsize]

/-- In a part, an address lies as far from the base as in the whole, less the
distance of the part. -/
theorem offset?_of_carve (h : w.carve offset size = .ok part)
    (hin : addr ∈ part) :
    ∃ inner, part.offset? addr = some inner
      ∧ w.offset? addr = some (offset + inner) := by
  obtain ⟨hbase, hsize, -, hstop⟩ := of_carve h
  simp only [stop] at hstop
  rw [mem_def] at hin
  refine ⟨addr - part.base, offset?_eq_some_iff.2 ?_, offset?_eq_some_iff.2 ?_⟩
    <;> omega

end ChipFabric.Window
