/-
Numerals for words, written and read. Numbers are written in hexadecimal
with a `0x` in front, or in decimal. They are read in either form: `_` may
stand anywhere as a separator and is dropped first, a leading `0x` or `0X`
then selects base sixteen, one `+` may precede the digits, at least one
digit has to follow, and the value has to be a word.
-/
import ChipFabric.Word

namespace ChipFabric.Numeral

-- ============================================================ writing

/-- The number in hexadecimal, lower case, after `0x`. -/
def hex (n : Nat) : String := "0x" ++ String.ofList (Nat.toDigits 16 n)

/-- The number in hexadecimal after `0x`, with zeros in between to make up
`width` characters in all. -/
def hexFilled (width n : Nat) : String :=
  let digits := Nat.toDigits 16 n
  "0x" ++ String.ofList
    (List.replicate (width - 2 - digits.length) '0' ++ digits)

def decimal (n : Nat) : String := String.ofList (Nat.toDigits 10 n)

-- ============================================================ reading

/-- The value of a digit of base `base`, which is at most sixteen; letters
count in either case. -/
def digit? (base : Nat) (c : Char) : Option Nat :=
  let value :=
    if '0' ≤ c ∧ c ≤ '9' then some (c.toNat - '0'.toNat)
    else if 'a' ≤ c ∧ c ≤ 'f' then some (10 + (c.toNat - 'a'.toNat))
    else if 'A' ≤ c ∧ c ≤ 'F' then some (10 + (c.toNat - 'A'.toNat))
    else none
  value.filter (· < base)

/-- The value of a row of digits read after digits of value `high`. -/
def digitsFrom? (base : Nat) : Nat → List Char → Option Nat
  | high, [] => some high
  | high, c :: cs =>
    (digit? base c).bind fun d => digitsFrom? base (high * base + d) cs

/-- The value of one or more digits. -/
def digits? (base : Nat) : List Char → Option Nat
  | [] => none
  | c :: cs => digitsFrom? base 0 (c :: cs)

/-- What follows an optional `+`. -/
def unsigned : List Char → List Char
  | '+' :: cs => cs
  | cs => cs

/-- The value of a numeral without separators. -/
def value? : List Char → Option Nat
  | '0' :: 'x' :: cs => digits? 16 (unsigned cs)
  | '0' :: 'X' :: cs => digits? 16 (unsigned cs)
  | cs => digits? 10 (unsigned cs)

/-- The word that a numeral stands for. -/
def word? (s : String) : Option UInt64 :=
  (value? (s.toList.filter (· ≠ '_'))).bind wordOfNat?

end ChipFabric.Numeral
