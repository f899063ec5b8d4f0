/-
Numerals that were written: decimals consist of digits, and no two numbers
have the same one.
-/
import ChipFabric.Text.Numeral

namespace ChipFabric.Numeral

@[simp] theorem toList_decimal (n : Nat) :
    (decimal n).toList = Nat.toDigits 10 n :=
  String.toList_ofList

/-- A decimal consists of digits. -/
theorem isDigit_of_mem_decimal {n : Nat} {c : Char}
    (h : c ∈ (decimal n).toList) : c.isDigit := by
  rw [toList_decimal] at h
  exact Nat.isDigit_of_mem_toDigits (by decide) (by decide) h

/-- A number is known by its decimal. -/
theorem decimal_inj {m n : Nat} : decimal m = decimal n ↔ m = n := by
  refine ⟨fun h => ?_, fun h => h ▸ rfl⟩
  have hdigits := congrArg String.toList h
  rw [toList_decimal, toList_decimal] at hdigits
  calc
    m = Nat.ofDigitChars 10 (Nat.toDigits 10 m) 0 :=
      Nat.ofDigitChars_ten_toDigits.symm
    _ = Nat.ofDigitChars 10 (Nat.toDigits 10 n) 0 := by rw [hdigits]
    _ = n := Nat.ofDigitChars_ten_toDigits

end ChipFabric.Numeral
