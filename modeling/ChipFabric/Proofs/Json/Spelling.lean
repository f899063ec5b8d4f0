/-
Scanning what was spelled. `Spells text tokens` says what it is for a text to
spell a row of tokens: their spellings in a row, blanks anywhere between, and
after a number or a word something that is no part of it. Of such a text the
tokens are read back (`Spells.scan?`), whatever characters its strings hold.
-/
import ChipFabric.Json.Token
import Mathlib.Data.List.TakeWhile
import Mathlib.Tactic.IntervalCases

namespace ChipFabric

-- ============================================================= digits

namespace Numeral

theorem digit?_ten {c : Char} (h : c.isDigit) :
    digit? 10 c = some (c.toNat - '0'.toNat) := by
  have hdigit : '0' ≤ c ∧ c ≤ '9' := by
    simpa [Char.isDigit, Char.le_def, UInt32.le_iff_toNat_le] using h
  have hvalue : c.toNat - '0'.toNat < 10 := by
    have hle : c.toNat ≤ '9'.toNat := hdigit.2
    have hnine : '9'.toNat = 57 := rfl
    have hzero : '0'.toNat = 48 := rfl
    omega
  unfold digit?
  rw [if_pos hdigit]
  exact Option.filter_some_pos (decide_eq_true hvalue)

/-- Digits in base ten are read as core reads them. -/
theorem digitsFrom?_ten {cs : List Char} (h : ∀ c ∈ cs, c.isDigit)
    (high : Nat) :
    digitsFrom? 10 high cs = some (Nat.ofDigitChars 10 cs high) := by
  induction cs generalizing high with
  | nil => rfl
  | cons c cs ih =>
    have hc := digit?_ten (h c (List.mem_cons_self ..))
    have hcs := ih fun d hd => h d (List.mem_cons_of_mem _ hd)
    rw [digitsFrom?, hc, Option.bind_some, hcs, Nat.mul_comm]
    rfl

theorem isDigit_of_mem_toDigits {n : Nat} {c : Char}
    (hc : c ∈ Nat.toDigits 10 n) : c.isDigit :=
  Nat.isDigit_of_mem_toDigits (by decide) (by decide) hc

/-- The decimal of a number is read as the number. -/
theorem digits?_toDigits (n : Nat) :
    digits? 10 (Nat.toDigits 10 n) = some n := by
  have hall : ∀ c ∈ Nat.toDigits 10 n, c.isDigit :=
    fun c => isDigit_of_mem_toDigits
  cases hdigits : Nat.toDigits 10 n with
  | nil => exact absurd hdigits Nat.toDigits_ne_nil
  | cons c cs =>
    show digitsFrom? 10 0 (c :: cs) = some n
    rw [← hdigits, digitsFrom?_ten hall, Nat.ofDigitChars_ten_toDigits]

/-- Only zero is spelled with a zero in front. -/
theorem head?_toDigits {n : Nat} (h : n ≠ 0) :
    (Nat.toDigits 10 n).head? ≠ some '0' := by
  induction n using Nat.strongRecOn with
  | ind n ih =>
    by_cases hlt : n < 10
    · rw [Nat.toDigits_of_lt_base hlt]
      interval_cases n
      · exact absurd rfl h
      all_goals decide
    · have hhigh := ih (n / 10) (by omega) (by omega)
      rw [Nat.toDigits_eq_if (by decide), if_neg hlt]
      cases hdigits : Nat.toDigits 10 (n / 10) with
      | nil => exact absurd hdigits Nat.toDigits_ne_nil
      | cons c cs =>
        rw [hdigits] at hhigh
        exact hhigh

end Numeral

namespace Json

-- ============================================================ strings

/-- What stands for a character after a backslash is read as it. -/
theorem unescapeLetter?_escapeLetter? {c letter : Char}
    (h : escapeLetter? c = some letter) :
    unescapeLetter? letter = some c ∧ letter ≠ 'u' := by
  unfold escapeLetter? at h
  split at h <;> cases h
  all_goals exact ⟨rfl, by decide⟩

theorem digit?_digitChar {d : Nat} (h : d < 16) :
    Numeral.digit? 16 (Nat.digitChar d) = some d := by
  interval_cases d <;> rfl

/-- Four digits are read back as the code that they spell. -/
theorem quad?_hexQuad {n : Nat} (h : n < 0x10000) (rest : List Char) :
    quad? (hexQuad n ++ rest) = some (n, rest) := by
  have hdigit : ∀ m, Numeral.digit? 16 (Nat.digitChar (m % 16)) =
      some (m % 16) := fun m =>
    digit?_digitChar (Nat.mod_lt m (by decide))
  have hvalue :
      (((0 * 16 + n / 0x1000 % 16) * 16 + n / 0x100 % 16) * 16 + n / 0x10 % 16)
      * 16 + n % 16 = n := by omega
  show (Numeral.digits? 16 (hexQuad n)).map (fun n => (n, rest)) =
    some (n, rest)
  simp only [hexQuad, List.map_cons, List.map_nil, Numeral.digits?,
    Numeral.digitsFrom?, hdigit, Option.bind_some, hvalue, Option.map_some]

/-- A character is read back from its place in a string. -/
theorem character?_escaped (c : Char) (rest : List Char) :
    character? (escaped c ++ rest) = some (c, rest) := by
  unfold escaped
  cases hletter : escapeLetter? c with
  | some letter =>
    obtain ⟨hback, hu⟩ := unescapeLetter?_escapeLetter? hletter
    show character? ('\\' :: letter :: rest) = some (c, rest)
    rw [character?, hback]
    · rfl
    · exact hu
  | none =>
    by_cases hcontrol : c.toNat < 0x20
    · rw [if_pos hcontrol]
      show unicodeEscape? (hexQuad c.toNat ++ rest) = some (c, rest)
      have hquad :=
        quad?_hexQuad (Nat.lt_trans hcontrol (by decide : 0x20 < 0x10000)) rest
      have hhigh : ¬ (0xd800 ≤ c.toNat ∧ c.toNat < 0xdc00) := by omega
      have hlow : ¬ (0xdc00 ≤ c.toNat ∧ c.toNat < 0xe000) := by omega
      simp only [unicodeEscape?, hquad, hhigh, hlow, ↓reduceIte,
        Char.ofNat_toNat]
    · have hslash : c ≠ '\\' := by
        intro heq
        subst heq
        cases hletter
      rw [if_neg hcontrol]
      show character? (c :: rest) = some (c, rest)
      rw [character?.eq_def]
      split
      · next heq => cases heq
      · next heq => exact absurd (List.cons.inj heq).1 hslash
      · next heq => exact absurd (List.cons.inj heq).1 hslash
      · next heq =>
        cases heq
        rw [if_neg hcontrol]

/-- No character starts with a quote in a string. -/
theorem head?_escaped (c : Char) (rest : List Char) :
    (escaped c ++ rest).head? ≠ some '"' := by
  unfold escaped
  cases hletter : escapeLetter? c with
  | some letter => exact nofun
  | none =>
    by_cases hcontrol : c.toNat < 0x20
    · rw [if_pos hcontrol]
      exact nofun
    · rw [if_neg hcontrol]
      intro heq
      cases heq
      cases hletter

/-- One more character of a string. -/
theorem stringBody?_of_character? {cs rest : List Char} {c : Char}
    (hquote : cs.head? ≠ some '"') (h : character? cs = some (c, rest)) :
    stringBody? cs = (stringBody? rest).map fun (body, after) =>
      (c :: body, after) := by
  rw [stringBody?.eq_def]
  split
  · exact absurd rfl hquote
  · split
    · next hnone =>
      rw [h] at hnone
      cases hnone
    · next hsome =>
      rw [h] at hsome
      cases hsome
      rfl

/-- The body of a literal ends at the quote, for no quote in it stands
bare. -/
theorem stringBody?_escaped (cs rest : List Char) :
    stringBody? (cs.flatMap escaped ++ '"' :: rest) = some (cs, rest) := by
  induction cs with
  | nil =>
    show stringBody? ('"' :: rest) = some ([], rest)
    rw [stringBody?]
  | cons c cs ih =>
    rw [List.flatMap_cons, List.append_assoc,
      stringBody?_of_character? (head?_escaped c _)
        (character?_escaped c _), ih]
    rfl

-- ============================================================ numbers

/-- A number is read back from its digits; none of them is a leading zero. -/
theorem number?_toDigits (n : Nat) :
    number? (Nat.toDigits 10 n) = some (.natural n) := by
  have hall : ∀ c ∈ Nat.toDigits 10 n, c.isDigit :=
    fun c => Numeral.isDigit_of_mem_toDigits
  have hvalue := Numeral.digits?_toDigits n
  have hzero : ∀ c cs, Nat.toDigits 10 n ≠ '0' :: c :: cs := by
    intro c cs heq
    by_cases hn : n = 0
    · subst hn
      cases heq
    · apply Numeral.head?_toDigits hn
      rw [heq]
      rfl
  cases hdigits : Nat.toDigits 10 n with
  | nil => exact absurd hdigits Nat.toDigits_ne_nil
  | cons c cs =>
    rw [hdigits] at hall hvalue hzero
    have hrun : digitRun? (c :: cs) = some (c :: cs, []) := by
      rw [digitRun?, List.takeWhile_eq_self_iff.2 hall,
        List.dropWhile_eq_nil_iff.2 hall]
    have hwhole : wholePart? (c :: cs) = some (c :: cs, []) := by
      rw [wholePart?, hrun]
      split
      · next heq =>
          exact absurd (Prod.mk.inj (Option.some.inj heq)).1 (hzero _ _)
      · rfl
    have hminus : c ≠ '-' := by
      intro heq
      subst heq
      exact absurd (hall '-' (List.mem_cons_self ..)) (by decide)
    unfold number?
    split
    · next negative body hsign =>
      split at hsign
      · next heq => exact absurd (List.cons.inj heq).1 hminus
      · cases hsign
        rw [hwhole]
        simp only [Option.bind_eq_bind, Option.bind_some, and_self,
          ↓reduceIte, hvalue]
        rfl

-- ============================================================= tokens

/-- What follows a number or a word and is no part of it: the end of the text,
or a character that neither has. -/
def Stops (rest : List Char) : Prop :=
  ∀ c ∈ rest.head?, isNumberChar c = false ∧ c.isLower = false

theorem stops_nil : Stops [] := nofun

/-- A mark ends what stands before it. -/
theorem stops_mark (m : Mark) (rest : List Char) : Stops (m.char :: rest) := by
  intro c hc
  obtain rfl := Option.some.inj hc
  cases m <;> decide

/-- A word goes as far as the first character that is none of its. -/
theorem takeWhile_append_of_stop {p : Char → Bool} {word rest : List Char}
    (hword : ∀ c ∈ word, p c) (hrest : ∀ c ∈ rest.head?, p c = false) :
    (word ++ rest).takeWhile p = word ∧ (word ++ rest).dropWhile p = rest := by
  rw [List.takeWhile_append_of_pos hword, List.dropWhile_append_of_pos hword]
  cases rest with
  | nil => exact ⟨List.append_nil word, rfl⟩
  | cons c rest =>
    have hc : ¬ p c := Bool.eq_false_iff.1 (hrest c rfl)
    rw [List.takeWhile_cons_of_neg hc, List.dropWhile_cons_of_neg hc]
    exact ⟨List.append_nil word, rfl⟩

theorem Mark.char_of_ofChar? {c : Char} {m : Mark}
    (h : Mark.ofChar? c = some m) : m.char = c := by
  unfold Mark.ofChar? at h
  split at h <;> cases h
  all_goals rfl

/-- Numbers and words start with no character that starts anything else. -/
theorem starts_of_isDigit_or_isLower {c : Char} (h : c.isDigit ∨ c.isLower) :
    isSpace c = false ∧ Mark.ofChar? c = none ∧ c ≠ '"' := by
  have hne : ∀ d : Char, ¬ (d.isDigit ∨ d.isLower) → c ≠ d := by
    intro d hd heq
    exact hd (heq ▸ h)
  refine ⟨?_, ?_, hne '"' (by decide)⟩
  · simp [isSpace, hne ' ' (by decide), hne '\t' (by decide),
      hne '\n' (by decide), hne '\r' (by decide)]
  · cases hmark : Mark.ofChar? c with
    | none => rfl
    | some m =>
      have hchar := Mark.char_of_ofChar? hmark
      refine absurd hchar.symm (hne m.char ?_)
      cases m <;> decide

/-- Marks are tokens by themselves. -/
theorem scan?_mark (m : Mark) (rest : List Char) :
    scan? (m.char :: rest) = (scan? rest).map (.mark m :: ·) := by
  rw [scan?]
  cases m <;> rfl

/-- A literal is one token, whatever follows it. -/
theorem scan?_string (s : String) (rest : List Char) :
    scan? (stringLiteral s ++ rest) = (scan? rest).map
      (.leaf (.string s) :: ·) := by
  have hbody := stringBody?_escaped s.toList rest
  have htext : stringLiteral s ++ rest = '"' ::
      (s.toList.flatMap escaped ++ '"' :: rest) := by
    rw [stringLiteral, List.cons_append, List.append_assoc]
    rfl
  have hspace : isSpace '"' = false := rfl
  have hmark : Mark.ofChar? '"' = none := rfl
  rw [htext, scan?, hspace, hmark]
  simp only [Bool.false_eq_true, ↓reduceIte]
  split
  · next hnone =>
    rw [hbody] at hnone
    cases hnone
  · next hsome =>
    rw [hbody] at hsome
    cases hsome
    rw [String.ofList_toList]

/-- A number is one token if no digit follows it. -/
theorem scan?_natural (n : Nat) {rest : List Char} (hrest : Stops rest) :
    scan? (Nat.toDigits 10 n ++ rest) = (scan? rest).map
      (.leaf (.natural n) :: ·) := by
  have hall : ∀ c ∈ Nat.toDigits 10 n, c.isDigit :=
    fun c => Numeral.isDigit_of_mem_toDigits
  have hnumber := number?_toDigits n
  cases hdigits : Nat.toDigits 10 n with
  | nil => exact absurd hdigits Nat.toDigits_ne_nil
  | cons c cs =>
    rw [hdigits] at hall hnumber
    have hchars : ∀ d ∈ cs, isNumberChar d := by
      intro d hd
      have hdigit := hall d (List.mem_cons_of_mem _ hd)
      simp [isNumberChar, hdigit]
    obtain ⟨htake, hdrop⟩ := takeWhile_append_of_stop hchars fun d hd =>
      (hrest d hd).1
    have hc : c.isDigit := hall c (List.mem_cons_self ..)
    obtain ⟨hspace, hmark, hquote⟩ := starts_of_isDigit_or_isLower (.inl hc)
    rw [List.cons_append, scan?, hspace, hmark]
    simp only [Bool.false_eq_true, ↓reduceIte, hquote, hc, Bool.true_or, htake,
      hdrop, hnumber, Option.bind_some]

/-- So is a keyword if no letter does. -/
theorem scan?_keyword {c : Char} {cs : List Char} {v : Json}
    (hword : keyword? (c :: cs) = some v) (hlower : ∀ d ∈ c :: cs, d.isLower)
    {rest : List Char} (hrest : Stops rest) :
    scan? (c :: cs ++ rest) = (scan? rest).map (.leaf v :: ·) := by
  have hc := hlower c (List.mem_cons_self ..)
  obtain ⟨htake, hdrop⟩ := takeWhile_append_of_stop
    (fun d hd => hlower d (List.mem_cons_of_mem _ hd)) fun d hd =>
      (hrest d hd).2
  obtain ⟨hspace, hmark, hquote⟩ := starts_of_isDigit_or_isLower (.inr hc)
  have hdigit : (c.isDigit || c = '-') = false := by
    have hle : 'a'.val ≤ c.val :=
      of_decide_eq_true (Bool.and_eq_true_iff.1 hc).1
    rw [Bool.or_eq_false_iff]
    constructor
    · rw [Char.isDigit, Bool.and_eq_false_iff]
      right
      rw [decide_eq_false_iff_not]
      exact fun hnine => absurd (UInt32.le_trans hle hnine) (by decide)
    · rw [decide_eq_false_iff_not]
      intro heq
      rw [heq] at hle
      exact absurd hle (by decide)
  rw [List.cons_append, scan?, hspace, hmark]
  simp only [Bool.false_eq_true, ↓reduceIte, hquote, hdigit, htake, hdrop,
    hword, Option.bind_some]

/-- A value without parts that is read back from its spelling: any but a
number that is no unsigned integer. -/
inductive Leaf : Json → Prop
  | null : Leaf .null
  | bool (b : Bool) : Leaf (.bool b)
  | natural (n : Nat) : Leaf (.natural n)
  | string (s : String) : Leaf (.string s)

/-- In short, a leaf is one token where something else begins. -/
theorem scan?_leaf {v : Json} (hleaf : Leaf v) {rest : List Char}
    (hrest : Stops rest) :
    scan? (leafText v ++ rest) = (scan? rest).map (.leaf v :: ·) := by
  cases hleaf with
  | null => exact scan?_keyword rfl (List.all_eq_true.1 rfl) hrest
  | bool b =>
    cases b <;> exact scan?_keyword rfl (List.all_eq_true.1 rfl) hrest
  | natural n => exact scan?_natural n hrest
  | string s => exact scan?_string s rest

/-- The text spells the tokens: their spellings in a row, with blanks anywhere
between them, and nothing that could be read as part of a number or word right
after it. -/
inductive Spells : List Char → List Token → Prop
  | nil : Spells [] []
  | blank {c : Char} {text : List Char} {tokens : List Token}
      (hblank : isSpace c) (h : Spells text tokens) : Spells (c :: text) tokens
  | mark {text : List Char} {tokens : List Token} (m : Mark)
      (h : Spells text tokens) : Spells (m.char :: text) (.mark m :: tokens)
  | leaf {v : Json} {text : List Char} {tokens : List Token} (hleaf : Leaf v)
      (hstop : Stops text) (h : Spells text tokens) :
      Spells (leafText v ++ text) (.leaf v :: tokens)

/-- The tokens are read back from a text that spells them. -/
theorem Spells.scan? {text : List Char} {tokens : List Token}
    (h : Spells text tokens) : scan? text = some tokens := by
  induction h with
  | nil => rw [Json.scan?]
  | blank hblank _ ih => rw [Json.scan?, hblank, if_pos rfl, ih]
  | mark m _ ih =>
    rw [scan?_mark, ih]
    rfl
  | leaf hleaf hstop _ ih =>
    rw [scan?_leaf hleaf hstop, ih]
    rfl

end Json

end ChipFabric
