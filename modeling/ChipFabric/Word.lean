/-
Sixty-four-bit words. Everything a user hands to the program — a
configuration, a property override, a command-line address — is a word;
inside, addresses and sizes are natural numbers, and `maxWord` is where
arithmetic on them has to stop. Main statements: `wordOfNat?` finds the word
of every number up to that bound and of no other, and the word has that
value.
-/
namespace ChipFabric

/-- The greatest value a word can hold. -/
def maxWord : Nat := UInt64.size - 1

/-- The word of value `n`, if there is one. -/
def wordOfNat? (n : Nat) : Option UInt64 :=
  if h : n < UInt64.size then some (UInt64.ofNatLT n h) else none

theorem maxWord_succ : maxWord + 1 = UInt64.size := by decide

/-- Words stay within the bound. -/
theorem toNat_le_maxWord (w : UInt64) : w.toNat ≤ maxWord := by
  have := w.toNat_lt_size
  have := maxWord_succ
  omega

/-- A word is read back from its own value. -/
theorem wordOfNat?_toNat (w : UInt64) : wordOfNat? w.toNat = some w := by
  have h := w.toNat_lt_size
  simp [wordOfNat?, h]

/-- A number is the value of at most one word. -/
theorem wordOfNat?_eq_some_iff {n : Nat} {w : UInt64} :
    wordOfNat? n = some w ↔ w.toNat = n := by
  constructor
  · intro h
    simp only [wordOfNat?] at h
    split at h
    · cases h; rfl
    · cases h
  · rintro rfl
    exact wordOfNat?_toNat w

/-- Exactly the numbers beyond the bound have no word. -/
theorem wordOfNat?_eq_none_iff {n : Nat} : wordOfNat? n = none ↔
    maxWord < n := by
  have := maxWord_succ
  simp only [wordOfNat?]
  split <;> simp <;> omega

/-- Every number within the bound is the value of a word. -/
theorem exists_wordOfNat?_eq_some {n : Nat} (h : n ≤ maxWord) :
    ∃ w, wordOfNat? n = some w ∧ w.toNat = n := by
  cases hword : wordOfNat? n with
  | none => exact absurd (wordOfNat?_eq_none_iff.1 hword) (Nat.not_lt.2 h)
  | some w => exact ⟨w, rfl, wordOfNat?_eq_some_iff.1 hword⟩

end ChipFabric
