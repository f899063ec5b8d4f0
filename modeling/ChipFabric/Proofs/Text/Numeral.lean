/-
Which texts are numerals. `Spells cs n` is the grammar, with the value: a
row of decimal digits, or of hexadecimal digits after a mark, and in front
of the digits perhaps a `+`. The readers are held against it one layer at a
time, from the digit to the numeral. A word is read from a text just if the
text spells it once the separators are gone; a property's integer may stand
between blanks besides, an address on the command line may not. Numbers are
written as numerals (`spells_hex`), so what was written is read.
-/
import ChipFabric.Command.Line
import ChipFabric.Property.Value
import ChipFabric.Proofs.Json.Spelling
import Mathlib.Data.List.DropRight
import Mathlib.Data.List.Forall2
import Mathlib.Data.Nat.Digits.Defs

namespace ChipFabric

namespace Numeral

-- ============================================================= digits

/-- The character is the digit of value `d` in base `base`, in either case. -/
def IsDigit (base : Nat) (c : Char) (d : Nat) : Prop :=
  d < base ∧ (c = d.digitChar ∨ c = d.digitChar.toUpper)

theorem toNat_digitChar {d : Nat} (h : d < 16) :
    d.digitChar.toNat = if d < 10 then 48 + d else 87 + d := by
  interval_cases d <;> rfl

theorem toNat_toUpper_digitChar {d : Nat} (h : d < 16) :
    d.digitChar.toUpper.toNat = if d < 10 then 48 + d else 55 + d := by
  interval_cases d <;> rfl

/-- The digits of a base up to sixteen are what is read as digits. -/
theorem digit?_eq_some_iff {base d : Nat} (hbase : base ≤ 16) {c : Char} :
    digit? base c = some d ↔ IsDigit base c d := by
  have hle : ∀ e : Char, c ≤ e ↔ c.toNat ≤ e.toNat := fun e =>
    Char.le_def.trans UInt32.le_iff_toNat_le
  have hge : ∀ e : Char, e ≤ c ↔ e.toNat ≤ c.toNat := fun e =>
    Char.le_def.trans UInt32.le_iff_toNat_le
  unfold digit? IsDigit
  rw [Option.filter_eq_some_iff, decide_eq_true_eq, and_comm]
  refine and_congr_right fun hlt => ?_
  rw [← Char.toNat_inj, ← Char.toNat_inj, toNat_digitChar (by omega),
    toNat_toUpper_digitChar (by omega)]
  simp only [hle, hge, Char.reduceToNat]
  split_ifs <;> simp only [Option.some.injEq, false_iff] <;> omega

/-- The code point of a digit. -/
theorem IsDigit.toNat {base d : Nat} (hbase : base ≤ 16) {c : Char}
    (h : IsDigit base c d) :
    c.toNat = 48 + d ∧ d < 10 ∨ 10 ≤ d
      ∧ (c.toNat = 87 + d ∨ c.toNat = 55 + d) := by
  obtain ⟨hlt, rfl | rfl⟩ := h
  · rw [toNat_digitChar (by omega)]
    split <;> omega
  · rw [toNat_toUpper_digitChar (by omega)]
    split <;> omega

theorem IsDigit.not_isBlank {base d : Nat} (hbase : base ≤ 16) {c : Char}
    (h : IsDigit base c d) : ¬ Text.isBlank c := by
  have hcode := h.toNat hbase
  have hd := h.1
  simp only [Text.isBlank, Bool.or_eq_true, Bool.and_eq_true,
    decide_eq_true_eq, beq_iff_eq]
  omega

/-- Reading on from digits of value `high` moves these up by as many places
as there are digits to come. -/
theorem digitsFrom?_eq_some_iff {base : Nat} (hbase : base ≤ 16)
    {cs : List Char} {high n : Nat} :
    digitsFrom? base high cs = some n ↔
      ∃ ds, List.Forall₂ (IsDigit base) cs ds
        ∧ n = Nat.ofDigits base ds.reverse + base ^ ds.length * high := by
  induction cs generalizing high with
  | nil => simp [digitsFrom?, List.forall₂_nil_left_iff, eq_comm]
  | cons c cs ih =>
    -- The first digit joins what is above the others.
    have hvalue : ∀ (d : Nat) (ds : List Nat),
        Nat.ofDigits base (d :: ds).reverse + base ^ (d :: ds).length * high
          = Nat.ofDigits base ds.reverse + base ^
            ds.length * (high * base + d) := by
      intro d ds
      rw [Nat.ofDigits_reverse_cons, List.length_cons]
      ring
    rw [digitsFrom?, Option.bind_eq_some_iff]
    simp only [digit?_eq_some_iff hbase, ih, List.forall₂_cons_left_iff]
    constructor
    · rintro ⟨d, hd, ds, hds, hn⟩
      exact ⟨_, ⟨d, ds, hd, hds, rfl⟩, hn.trans (hvalue d ds).symm⟩
    · rintro ⟨_, ⟨d, ds, hd, hds, rfl⟩, hn⟩
      exact ⟨d, hd, ds, hds, hn.trans (hvalue d ds)⟩

/-- The characters are one or more digits of base `base`, and `n` is the
value of these. -/
def SpellsDigits (base : Nat) (cs : List Char) (n : Nat) : Prop :=
  ∃ ds, ds ≠ [] ∧ List.Forall₂ (IsDigit base) cs ds
    ∧ n = Nat.ofDigits base ds.reverse

theorem digits?_eq_some_iff {base : Nat} (hbase : base ≤ 16) {cs : List Char}
    {n : Nat} : digits? base cs = some n ↔ SpellsDigits base cs n := by
  cases cs with
  | nil => simp [digits?, SpellsDigits, List.forall₂_nil_left_iff]
  | cons c cs =>
    rw [digits?, digitsFrom?_eq_some_iff hbase]
    simp only [SpellsDigits, Nat.mul_zero, Nat.add_zero]
    refine exists_congr fun ds => ?_
    constructor
    · intro h
      refine ⟨?_, h⟩
      rintro rfl
      cases h.1
    · intro h
      exact h.2

theorem SpellsDigits.isDigit {base n : Nat} {cs : List Char}
    (h : SpellsDigits base cs n) : ∀ c ∈ cs, ∃ d, IsDigit base c d := by
  obtain ⟨ds, -, hds, -⟩ := h
  induction hds with
  | nil => exact nofun
  | cons hc _ ih => exact List.forall_mem_cons.2 ⟨⟨_, hc⟩, ih⟩

-- =========================================================== numerals

def IsSign (sign : List Char) : Prop := sign = [] ∨ sign = ['+']

/-- The characters are a numeral without separators, and `n` is its value. -/
inductive Spells : List Char → Nat → Prop where
  | decimal {sign cs : List Char} {n : Nat} (hsign : IsSign sign)
      (h : SpellsDigits 10 cs n) : Spells (sign ++ cs) n
  | hexadecimal {mark : Char} {sign cs : List Char} {n : Nat}
      (hmark : mark = 'x' ∨ mark = 'X') (hsign : IsSign sign)
      (h : SpellsDigits 16 cs n) : Spells ('0' :: mark :: (sign ++ cs)) n

theorem digits?_unsigned_eq_some_iff {base : Nat} (hbase : base ≤ 16)
    {cs : List Char} {n : Nat} :
    digits? base (unsigned cs) = some n ↔
      ∃ sign ds, cs = sign ++ ds ∧ IsSign sign ∧ SpellsDigits base ds n := by
  rw [digits?_eq_some_iff hbase]
  constructor
  · intro h
    unfold unsigned at h
    split at h
    · exact ⟨['+'], _, rfl, .inr rfl, h⟩
    · exact ⟨[], _, rfl, .inl rfl, h⟩
  · rintro ⟨sign, ds, rfl, rfl | rfl, h⟩
    · -- A row of digits has no sign to take off.
      have hplus : ∀ rest, ds ≠ '+' :: rest := by
        rintro rest rfl
        obtain ⟨d, hd⟩ := h.isDigit '+' (List.mem_cons_self ..)
        have hcode := hd.toNat hbase
        simp only [Char.reduceToNat] at hcode
        omega
      rwa [List.nil_append, unsigned.eq_2 ds hplus]
    · exact h

/-- The numerals are what is read as numerals, with their values. -/
theorem value?_eq_some_iff {cs : List Char} {n : Nat} : value? cs = some n ↔
    Spells cs n := by
  constructor
  · intro h
    unfold value? at h
    split at h
    all_goals obtain ⟨sign, ds, rfl, hsign, hds⟩ :=
      (digits?_unsigned_eq_some_iff (by decide)).1 h
    · exact .hexadecimal (.inl rfl) hsign hds
    · exact .hexadecimal (.inr rfl) hsign hds
    · exact .decimal hsign hds
  · intro h
    cases h with
    | @decimal sign cs n hsign h =>
      have hread := (digits?_unsigned_eq_some_iff (by decide)).2
        ⟨sign, cs, rfl, hsign, h⟩
      -- The second character is a decimal digit too, and no mark.
      have hmark : ∀ mark, mark = 'x'
          ∨ mark = 'X' → ∀ rest, sign ++ cs ≠ '0' :: mark :: rest := by
        intro mark hmark rest heq
        have hmem : mark ∈ cs := by
          obtain rfl | rfl := hsign
          · rw [List.nil_append] at heq
            exact heq ▸ List.mem_cons_of_mem _ (List.mem_cons_self ..)
          · cases heq
        obtain ⟨d, hd⟩ := h.isDigit mark hmem
        have hcode := hd.toNat (by decide)
        have hten := hd.1
        obtain rfl | rfl :=
          hmark <;> simp only [Char.reduceToNat] at hcode <;> omega
      rwa [value?.eq_3 _ (hmark _ (.inl rfl)) (hmark _ (.inr rfl))]
    | @hexadecimal mark sign cs n hmark hsign h =>
      have hread := (digits?_unsigned_eq_some_iff (by decide)).2
        ⟨sign, cs, rfl, hsign, h⟩
      obtain rfl | rfl := hmark <;> exact hread

/-- A word is read from a text that spells it once the separators are gone. -/
theorem word?_eq_some_iff {s : String} {w : UInt64} :
    word? s = some w ↔ Spells (s.toList.filter (· ≠ '_')) w.toNat := by
  unfold word?
  rw [Option.bind_eq_some_iff]
  simp only [value?_eq_some_iff, wordOfNat?_eq_some_iff]
  exact ⟨fun ⟨_, h, hn⟩ => hn ▸ h, fun h => ⟨_, h, rfl⟩⟩

/-- No word is read just if every value that the text spells is too great
for a word. -/
theorem word?_eq_none_iff {s : String} :
    word? s = none ↔ ∀ n, Spells (s.toList.filter (· ≠ '_')) n →
      maxWord < n := by
  unfold word?
  rw [Option.bind_eq_none_iff]
  simp only [value?_eq_some_iff, wordOfNat?_eq_none_iff]

/-- The numbers that are read as words from a text. -/
theorem exists_word?_iff {s : String} {n : Nat} :
    (∃ w, word? s = some w ∧ w.toNat = n) ↔
      n ≤ maxWord ∧ Spells (s.toList.filter (· ≠ '_')) n := by
  constructor
  · rintro ⟨w, hw, rfl⟩
    exact ⟨toNat_le_maxWord w, word?_eq_some_iff.1 hw⟩
  · rintro ⟨hle, h⟩
    obtain ⟨w, -, rfl⟩ := exists_wordOfNat?_eq_some hle
    exact ⟨w, word?_eq_some_iff.2 h, rfl⟩

/-- The characters of a numeral are digits, a sign and a mark. -/
theorem Spells.mem_cases {cs : List Char} {n : Nat} (h : Spells cs n)
    {c : Char} (hc : c ∈ cs) :
    (∃ d, IsDigit 16 c d) ∨ c = '+' ∨ c = 'x' ∨ c = 'X' := by
  have hsigned : ∀ {base : Nat} {sign ds : List Char}, base ≤ 16 →
      IsSign sign →
      SpellsDigits base ds n → c ∈ sign ++ ds → (∃ d, IsDigit 16 c d)
        ∨ c = '+' := by
    intro base sign ds hbase hsign hds hmem
    rcases List.mem_append.1 hmem with hmem | hmem
    · obtain rfl | rfl := hsign
      · cases hmem
      · exact .inr (List.mem_singleton.1 hmem)
    · obtain ⟨d, hd, hchar⟩ := hds.isDigit c hmem
      exact .inl ⟨d, by omega, hchar⟩
  cases h with
  | decimal hsign hds =>
    exact (hsigned (by decide) hsign hds hc).imp_right .inl
  | hexadecimal hmark hsign hds =>
    rcases List.mem_cons.1 hc with rfl | hc
    · exact .inl ⟨0, by decide, .inl rfl⟩
    rcases List.mem_cons.1 hc with rfl | hc
    · exact .inr (.inr hmark)
    · exact (hsigned (by decide) hsign hds hc).imp_right .inl

/-- A numeral holds no white space. -/
theorem Spells.not_isBlank {cs : List Char} {n : Nat} (h : Spells cs n) :
    ∀ c ∈ cs, ¬ Text.isBlank c := by
  intro c hc
  obtain ⟨d, hd⟩ | rfl | rfl | rfl := h.mem_cases hc
  · exact hd.not_isBlank (by decide)
  all_goals decide

/-- There is nothing to drop from a numeral. -/
theorem Spells.filter_separators {cs : List Char} {n : Nat} (h : Spells cs n) :
    cs.filter (· ≠ '_') = cs := by
  refine List.filter_eq_self.2 fun c hc => decide_eq_true ?_
  rintro rfl
  obtain ⟨d, hd⟩ | hsign | hmark | hmark := h.mem_cases hc
  · have hcode := hd.toNat (by decide)
    have hsixteen := hd.1
    simp only [Char.reduceToNat] at hcode
    omega
  all_goals contradiction

-- ============================================================ writing

/-- One more digit after a row that spells `n`. -/
theorem SpellsDigits.concat {base n d : Nat} {cs : List Char} {c : Char}
    (h : SpellsDigits base cs n) (hc : IsDigit base c d) :
    SpellsDigits base (cs ++ [c]) (base * n + d) := by
  obtain ⟨ds, -, hds, rfl⟩ := h
  refine ⟨ds ++ [d], List.concat_ne_nil d ds,
    List.rel_append hds (.cons hc .nil), ?_⟩
  rw [List.reverse_append, List.reverse_singleton, List.singleton_append,
    Nat.ofDigits_cons]
  exact Nat.add_comm ..

/-- A number is spelled by the digits it is written with. -/
theorem spellsDigits_toDigits {base : Nat} (hbase : 1 < base) (n : Nat) :
    SpellsDigits base (Nat.toDigits base n) n := by
  have hlow : ∀ d < base, IsDigit base d.digitChar d :=
    fun d hd => ⟨hd, .inl rfl⟩
  induction n using Nat.strongRecOn with
  | ind n ih =>
    rw [Nat.toDigits_eq_if hbase]
    split
    · next hlt =>
        exact ⟨[n], List.cons_ne_nil n [], .cons (hlow n hlt) .nil, by simp⟩
    · next hge =>
      have hhigh := ih (n / base) (Nat.div_lt_self (by omega) hbase)
      have hall := hhigh.concat (hlow (n % base) (Nat.mod_lt n (by omega)))
      rwa [Nat.div_add_mod] at hall

/-- A number is spelled by its hexadecimal. -/
theorem spells_hex (n : Nat) : Spells (hex n).toList n := by
  have hchars : (hex n).toList = '0' :: 'x' :: ([] ++ Nat.toDigits 16 n) := by
    simp [hex]
  rw [hchars]
  exact .hexadecimal (.inl rfl) (.inl rfl)
    (spellsDigits_toDigits (by decide) n)

end Numeral

-- =========================================================== trimming

namespace Text

/-- The characters `core` are what stands between the blanks at either end. -/
structure Trims (cs core : List Char) : Prop where
  between : ∃ lead trail, cs = lead ++ core ++ trail ∧
    (∀ c ∈ lead, isBlank c) ∧ ∀ c ∈ trail, isBlank c
  head : ∀ c ∈ core.head?, ¬ isBlank c
  last : ∀ c ∈ core.getLast?, ¬ isBlank c

theorem not_isBlank_of_head?_dropWhile {cs : List Char} {c : Char}
    (h : c ∈ (cs.dropWhile isBlank).head?) : ¬ isBlank c := by
  have hstop := List.head?_dropWhile_not isBlank cs
  rw [Option.mem_def.1 h] at hstop
  exact Bool.eq_false_iff.1 hstop

theorem trims_trimBlanks (cs : List Char) : Trims cs (trimBlanks cs) where
  between := by
    refine ⟨cs.takeWhile isBlank, (cs.dropWhile isBlank).rtakeWhile isBlank,
      ?_, ?_, ?_⟩
    · show cs = cs.takeWhile isBlank ++ (cs.dropWhile isBlank).rdropWhile
        isBlank ++ (cs.dropWhile isBlank).rtakeWhile isBlank
      rw [List.append_assoc, List.rdropWhile_append_rtakeWhile,
        List.takeWhile_append_dropWhile]
    · exact fun c => List.mem_takeWhile_imp
    · exact fun c => List.mem_rtakeWhile_imp
  head := by
    intro c hc
    obtain ⟨trail, htrail⟩ :=
      List.rdropWhile_prefix isBlank (cs.dropWhile isBlank)
    have hfront : c ∈ (cs.dropWhile isBlank).head? := by
      rw [← htrail]
      exact List.mem_head?_append_of_mem_head? hc
    exact not_isBlank_of_head?_dropWhile hfront
  last := by
    intro c hc
    rw [trimBlanks, List.getLast?_reverse] at hc
    exact not_isBlank_of_head?_dropWhile hc

/-- There is one way to trim a text. -/
theorem Trims.eq {cs core : List Char} (h : Trims cs core) :
    core = trimBlanks cs := by
  obtain ⟨lead, trail, rfl, hlead, htrail⟩ := h.between
  by_cases hcore : core = []
  · have hall : ∀ c ∈ lead ++ [] ++ trail, isBlank c := by
      rw [List.append_nil]
      exact List.forall_mem_append.2 ⟨hlead, htrail⟩
    rw [hcore, trimBlanks, List.dropWhile_eq_nil_iff.2 hall]
    rfl
  · have hhead : ∀ c ∈ (core ++ trail).head?, isBlank c = false := by
      rw [List.head?_append_of_ne_nil core hcore]
      exact fun c hc => Bool.eq_false_iff.2 (h.head c hc)
    have hlast : ∀ c ∈ core.reverse.head?, isBlank c = false := by
      rw [List.head?_reverse]
      exact fun c hc => Bool.eq_false_iff.2 (h.last c hc)
    have htrail : ∀ c ∈ trail.reverse, isBlank c :=
      fun c hc => htrail c (List.mem_reverse.1 hc)
    rw [trimBlanks, List.append_assoc,
      (Json.takeWhile_append_of_stop hlead hhead).2, List.reverse_append,
      (Json.takeWhile_append_of_stop htrail hlast).2, List.reverse_reverse]

/-- The program trims a text to just what stands between the blanks. -/
theorem trims_iff {cs core : List Char} : Trims cs core ↔
    core = trimBlanks cs :=
  ⟨Trims.eq, fun h => h ▸ trims_trimBlanks cs⟩

end Text

-- ============================================================ readers

namespace Numeral

/-- How the two readers of words take the text `raw`, of which `core` stands
between blanks. -/
structure ReadBothWays (raw : String) (core : List Char) : Prop where
  /-- The integer of a property is spelled between the blanks. -/
  integer : ∀ w, Property.integerOf? raw = some w ↔
    Spells (core.filter (· ≠ '_')) w.toNat
  /-- There is none just if what is spelled there is nothing or too great. -/
  noInteger : Property.integerOf? raw = none ↔
    ∀ n, Spells (core.filter (· ≠ '_')) n → maxWord < n
  /-- Given for a property, the text is cast to its integer. -/
  cast : ∀ name value, Property.Kind.integer.cast name raw = .ok value ↔
    ∃ w, Property.integerOf? raw = some w ∧ value = .integer w
  /-- The cast fails just if there is none, and names the property and the
  text. -/
  refused : ∀ name fault, Property.Kind.integer.cast name raw = .error fault ↔
    Property.integerOf? raw = none
      ∧ fault = .unreadableValue name raw "integer"
  /-- The address of a route is spelled by the text as it stands. -/
  address : ∀ settings n plane,
    Command.request? "route" ⟨settings, [raw]⟩ = some (.route n plane) ↔
      n ≤ maxWord ∧ Spells (raw.toList.filter (· ≠ '_')) n ∧
        Command.plane? (Command.Place.valuesOf ⟨settings, [raw]⟩ .plane) =
          some plane
  /-- So it is the integer, but where there are blanks to trim. -/
  untrimmed : ∀ w, word? raw = some w ↔ raw.toList = core
    ∧ Property.integerOf? raw = some w

theorem integerOf?_eq_some_iff {raw : String} {w : UInt64} :
    Property.integerOf? raw = some w ↔
      Spells ((Text.trimBlanks raw.toList).filter (· ≠ '_')) w.toNat := by
  rw [Property.integerOf?, word?_eq_some_iff, Text.trim, String.toList_ofList]

/-- A text that stands for a word as it is has no blanks to trim. -/
theorem trims_self {cs : List Char} {n : Nat}
    (h : Spells (cs.filter (· ≠ '_')) n) : Text.Trims cs cs := by
  have hall : ∀ c ∈ cs, ¬ Text.isBlank c := by
    intro c hc
    by_cases hseparator : c = '_'
    · subst hseparator
      decide
    · exact h.not_isBlank c (List.mem_filter.2 ⟨hc, decide_eq_true hseparator⟩)
  exact {
    between := ⟨[], [], (List.append_nil cs).symm, nofun, nofun⟩
    head := fun c hc => hall c (List.mem_of_mem_head? hc)
    last := fun c hc => hall c (List.mem_of_mem_getLast? hc) }

/-- A numeral by itself is read as its value. -/
theorem integerOf?_of_spells {raw : String} {w : UInt64}
    (h : Spells raw.toList w.toNat) : Property.integerOf? raw = some w := by
  have hbare : Spells (raw.toList.filter (· ≠ '_')) w.toNat := by
    rwa [h.filter_separators]
  rw [integerOf?_eq_some_iff, ← (trims_self hbare).eq]
  exact hbare

theorem request?_route_eq_some_iff {place : Command.Place} {raw : String}
    (hplace : place.operands = [raw]) {n : Nat} {plane : Command.Plane} :
    Command.request? "route" place = some (.route n plane) ↔
      (∃ w, word? raw = some w ∧ w.toNat = n) ∧
        Command.plane? (place.valuesOf .plane) = some plane := by
  cases hword : word? raw <;> cases hplane : Command.plane?
    (place.valuesOf .plane) <;>
    simp [Command.request?, hplace, hword, hplane]

/-- The integer of a property and the address of a route are read by one
grammar, and the one only between blanks: whatever the text. -/
theorem read_both_ways (raw : String) : ∃ core,
    (∀ other, Text.Trims raw.toList other ↔ other = core)
      ∧ ReadBothWays raw core := by
  refine ⟨Text.trimBlanks raw.toList, fun other => Text.trims_iff, ?_⟩
  exact {
    integer := fun w => integerOf?_eq_some_iff
    noInteger := by
      rw [Property.integerOf?, word?_eq_none_iff, Text.trim,
        String.toList_ofList]
    cast := by
      intro name value
      cases hraw : Property.integerOf? raw <;>
        simp [Property.Kind.cast, Property.Kind.valueOf?, hraw, eq_comm]
    refused := by
      intro name fault
      cases hraw : Property.integerOf? raw <;>
        simp [Property.Kind.cast, Property.Kind.valueOf?, Property.Kind.label,
          hraw, eq_comm]
    address := by
      intro settings n plane
      rw [request?_route_eq_some_iff rfl, exists_word?_iff, and_assoc]
    untrimmed := by
      intro w
      rw [integerOf?_eq_some_iff, word?_eq_some_iff]
      constructor
      · intro h
        have hcore := (trims_self h).eq
        exact ⟨hcore, hcore ▸ h⟩
      · rintro ⟨hcore, h⟩
        rwa [← hcore] at h }

end Numeral

end ChipFabric
