/-
Windows stand for sets of addresses. A pair of numbers is a window just if
it is not empty and ends at a word, in a JSON text as in the program. What
windows answer about each other and about their parts is true of the
addresses they hold; and all of it can be computed on words, since no sum or
difference on the way leaves them (`OnWords`).

The two numbers stand in a JSON value in one of the ways that `Describes`
lists; a value that describes no pair is no window (`ofJson?_eq_some_iff`).
-/
import ChipFabric.Proofs.Json.RoundTrip
import ChipFabric.Proofs.Json.Section
import ChipFabric.Proofs.Layout.Machine

namespace ChipFabric

-- ============================================================ reading

namespace Window

variable {v : Json} {w : Window} {base size : Nat}

/-- The members of an object of two numbers. -/
def pairOf (base size : Nat) : List (String × Json) :=
  [("base", .natural base), ("size", .natural size)]

/-- The value is an object of the two numbers, in either order, or an array of
them. -/
inductive Describes (base size : Nat) : Json → Prop
  | object {members : List (String × Json)}
      (hperm : members.Perm (pairOf base size)) :
      Describes base size (.object members)
  | array : Describes base size (.array [.natural base, .natural size])

theorem fields?_eq_pair_iff :
    v.fields? ["base", "size"] = some [some (.natural base),
      some (.natural size)] ↔
      Describes base size v := by
  have hnames : (pairOf base size).map (fun member => member.1) =
    ["base", "size"] := rfl
  constructor
  · intro h
    cases v with
    | object members =>
      obtain ⟨hkeys, hvalues⟩ := Json.fields?_object_eq_some_iff.1 h
      simp only [List.map_cons, List.map_nil, List.cons.injEq, and_true,
        Json.lookup_eq_some_iff_mem hkeys.nodup] at hvalues
      refine .object (Json.Keys.perm (hnames ▸ hkeys) (hnames ▸ by decide) ?_)
      simpa [pairOf] using hvalues
    | array items =>
      match items with
      | [] | [_] | _ :: _ :: _ :: _ => simp [Json.fields?] at h
      | [first, second] =>
        obtain ⟨rfl, rfl⟩ : first = .natural base
            ∧ second = .natural size := by
          simpa [Json.fields?] using h
        exact .array
    | _ => cases h
  · intro h
    cases h with
    | array => rfl
    | @object members hperm =>
      have hmembers : (members.map fun member => member.1).Perm
        ["base", "size"] := hperm.map _
      have hnodup := hmembers.nodup_iff.2 (by decide)
      rw [Json.fields?_object_eq_some_iff]
      refine ⟨⟨hnodup, fun name => hmembers.mem_iff.1⟩, ?_⟩
      simp only [Json.lookup_perm hnodup hperm]
      rfl

theorem toOption_eq_some_iff {outcome : Except Fault Window} :
    outcome.toOption = some w ↔ outcome = .ok w := by
  cases outcome <;> simp [Except.toOption]

/-- A value is read as a window just if it describes the window's numbers. -/
theorem ofJson?_eq_some_iff : ofJson? v = some w ↔
    Describes w.base w.size v := by
  rw [← fields?_eq_pair_iff]
  constructor
  · intro h
    simp only [ofJson?, Option.bind_eq_bind, Option.bind_eq_some_iff] at h
    obtain ⟨values, hvalues, h⟩ := h
    split at h
    · simp only [Option.bind_eq_some_iff, Json.word?_eq_some_iff,
        toOption_eq_some_iff] at h
      obtain ⟨b, rfl, s, rfl, hmade⟩ := h
      obtain ⟨hbase, hsize⟩ := of_make hmade
      rw [hvalues, hbase, hsize]
    · cases h
  · intro h
    have hfits := w.fits
    obtain ⟨b, hb, hbase⟩ := exists_wordOfNat?_eq_some (n := w.base) (by omega)
    obtain ⟨s, hs, hsize⟩ := exists_wordOfNat?_eq_some (n := w.size) (by omega)
    simp only [ofJson?, h, Option.bind_eq_bind, Option.bind_some,
      Json.word?, hb, hs]
    exact toOption_eq_some_iff.2 (make_eq_ok_iff.2 ⟨hbase.symm, hsize.symm⟩)

/-- No value describes two pairs. -/
theorem Describes.unique {base' size' : Nat} (h : Describes base size v)
    (h' : Describes base' size' v) : base = base' ∧ size = size' := by
  have hsame := (fields?_eq_pair_iff.2 h).symm.trans (fields?_eq_pair_iff.2 h')
  simpa using hsame

/-- A value that describes a pair is read as the window of that pair, if there
is one. -/
theorem ofJson?_of_describes (h : Describes base size v) :
    ofJson? v = some w ↔ make base size = .ok w := by
  rw [ofJson?_eq_some_iff, make_eq_ok_iff]
  constructor
  · intro h'
    exact h'.unique h
  · rintro ⟨rfl, rfl⟩
    exact h

/-- The window that a JSON text describes. -/
def parse? (text : String) : Option Window := (Json.parse? text).bind ofJson?

theorem parse?_compact_pairOf (base size : Nat) :
    parse? (Json.object (pairOf base size)).compact = some w ↔
      make base size = .ok w := by
  have hplain : (Json.object (pairOf base size)).Plain := by
    simp [pairOf, Json.Plain, Json.PlainMembers]
  rw [parse?, Json.parse?_compact hplain]
  exact ofJson?_of_describes (.object (.refl _))

end Window

-- ============================================================ machine

namespace OnWords

/-- A difference without a guard. -/
def difference (a b : Nat) : OnWords Nat :=
  if b ≤ a then pure (a - b) else ExceptT.mk none

def contains (w : Window) (addr : Nat) : OnWords Bool := do
  return w.base ≤ addr ∧ addr < (← stop w)

def offset? (w : Window) (addr : Nat) : OnWords (Option Nat) := do
  if ← contains w addr then
    return some (← difference addr w.base)
  return none

theorem contains_eq (w : Window) (addr : Nat) :
    contains w addr = done (.ok (decide (addr ∈ w))) := by
  rw [contains, stop_eq, done_ok_bind]
  rfl

theorem offset?_eq (w : Window) (addr : Nat) :
    offset? w addr = done (.ok (w.offset? addr)) := by
  rw [offset?, contains_eq, done_ok_bind, Window.offset?]
  by_cases hin : addr ∈ w
  · have hle : w.base ≤ addr := hin.1
    simp [hin, difference, hle]
  · simp [hin]

end OnWords

-- ========================================================== the whole

namespace Window

/-- The window of two numbers, if they are those of one; made in the program or
read from a text. -/
structure MadeOf (base size : Nat) : Prop where
  made : (∃ w, make base size = .ok w) ↔ 0 < size ∧ base + size ≤ maxWord
  asAsked : ∀ w, make base size = .ok w ↔ w.base = base ∧ w.size = size
  refused : ∀ fault, make base size = .error fault ↔
    ¬ (0 < size ∧ base + size ≤ maxWord) ∧ fault = .invalidWindow base size
  /-- A text that describes the numbers is read as the window made of them. -/
  read : ∀ text v, Json.parse? text = some v → Describes base size v →
    ∀ w, parse? text = some w ↔ make base size = .ok w
  written : ∀ w, parse? (Json.object (pairOf base size)).compact = some w ↔
    make base size = .ok w

/-- What two windows are to each other is what their addresses are. -/
structure Compares (v w : Window) : Prop where
  overlaps : v.Overlaps w ↔ ∃ addr, addr ∈ v ∧ addr ∈ w
  encloses : v.Encloses w ↔ ∀ addr ∈ w, addr ∈ v
  same : v = w ↔ ∀ addr, addr ∈ v ↔ addr ∈ w

/-- The part of `size` addresses that starts `offset` addresses into a
window. -/
structure CarvedFrom (w : Window) (offset size : Nat) : Prop where
  carved : (∃ part, w.carve offset size = .ok part) ↔ 0 < size
    ∧ offset + size ≤ w.size
  placed : ∀ part, w.carve offset size = .ok part →
    part.base = w.base + offset ∧ part.size = size ∧ w.Encloses part
  /-- Where an address lies in the part, and where in the window. -/
  offsets : ∀ part, w.carve offset size = .ok part → ∀ addr ∈ part, ∃ inner,
    part.offset? addr = some inner ∧ w.offset? addr = some (offset + inner)
  refused : ∀ fault, w.carve offset size = .error fault →
    fault = if maxWord < w.base + offset then .invalidWindow w.base offset
      else .invalidWindow (w.base + offset) size

/-- The machine comes to the answers that natural numbers give. -/
structure StaysOnWords (w : Window) : Prop where
  addresses : ∀ addr ∈ w, addr < maxWord
  stop : (OnWords.stop w).run = some (.ok (w.base + w.size))
  contains : ∀ addr, (OnWords.contains w addr).run =
    some (.ok (decide (addr ∈ w)))
  offset : ∀ addr, (OnWords.offset? w addr).run = some (.ok (w.offset? addr))
  overlaps : ∀ other, (OnWords.overlaps w other).run =
    some (.ok (decide (w.Overlaps other)))
  encloses : ∀ other, (OnWords.encloses w other).run =
    some (.ok (decide (w.Encloses other)))
  carve : ∀ offset size, (OnWords.carve w offset size).run =
    some (w.carve offset size)

/-- Windows are as good as the sets of their addresses: which there are, how
two of them compare, which parts they have, and that words do to compute it. -/
theorem stands_for_addresses :
    (∀ base size, MadeOf base size) ∧
    (∀ text w, parse? text = some w →
      ∃ v, Json.parse? text = some v ∧ Describes w.base w.size v) ∧
    (∀ v w : Window, v.Compares w) ∧
    (∀ (w : Window) (offset size : Nat), w.CarvedFrom offset size) ∧
    ∀ w : Window, w.StaysOnWords := by
  refine ⟨fun base size => ?_, fun text w h => ?_, fun v w => ?_,
    fun w offset size => ?_,
    fun w => ?_⟩
  · exact {
      made := exists_make_eq_ok_iff
      asAsked := fun w => make_eq_ok_iff
      refused := fun fault => make_eq_error_iff
      read := by
        intro text v htext hv w
        rw [parse?, htext]
        exact ofJson?_of_describes hv
      written := fun w => parse?_compact_pairOf base size }
  · obtain ⟨v, htext, hv⟩ := Option.bind_eq_some_iff.1 h
    exact ⟨v, htext, ofJson?_eq_some_iff.1 hv⟩
  · exact ⟨overlaps_iff_exists_mem, encloses_iff_forall_mem, eq_iff_forall_mem⟩
  · exact {
      carved := exists_carve_eq_ok_iff
      placed := fun part => of_carve
      offsets := fun part h addr hin => offset?_of_carve h hin
      refused := fun fault => fault_of_carve }
  · exact {
      addresses := fun addr => lt_maxWord_of_mem
      stop := by rw [OnWords.stop_eq]; rfl
      contains := fun addr => by rw [OnWords.contains_eq]; rfl
      offset := fun addr => by rw [OnWords.offset?_eq]; rfl
      overlaps := fun other => by rw [OnWords.overlaps_eq]; rfl
      encloses := fun other => by rw [OnWords.encloses_eq]; rfl
      carve := fun offset size => by rw [OnWords.carve_eq]; rfl }

/-- The last two addresses that a window can hold, written with the size first,
and the second of them. -/
theorem stands_for_addresses_last :
    let v : Json :=
  .object [("size", .natural 2), ("base", .natural (maxWord - 2))]
    let last : Window := ⟨maxWord - 2, 2, by decide, by decide⟩
    let part : Window := ⟨maxWord - 1, 1, by decide, by decide⟩
    Json.parse? v.compact = some v ∧ parse? v.compact = some last ∧
      last.carve 1 1 = .ok part ∧ maxWord - 1 ∈ part ∧
      ∃ inner, part.offset? (maxWord - 1) = some inner ∧
        last.offset? (maxWord - 1) = some (1 + inner) := by
  intro v last part
  have htext : Json.parse? v.compact = some v :=
    Json.parse?_compact (by simp [v, Json.Plain, Json.PlainMembers])
  have hv : Describes (maxWord - 2) 2 v := .object (.swap _ _ _)
  have hcarve : last.carve 1 1 = .ok part := by decide
  have hin : maxWord - 1 ∈ part := by decide
  obtain ⟨hmade, -, -, hcarved, -⟩ := stands_for_addresses
  refine ⟨htext, ?_, hcarve, hin, (hcarved last 1 1).offsets part hcarve _ hin⟩
  exact ((hmade _ _).read v.compact v htext hv last).2
    (((hmade _ _).asAsked last).2 ⟨rfl, rfl⟩)

-- The window that would end with the space is one address too long.
example : make 0x8000000000000000 0x8000000000000000 =
    .error (.invalidWindow 0x8000000000000000 0x8000000000000000) := by
  decide

end Window

end ChipFabric
