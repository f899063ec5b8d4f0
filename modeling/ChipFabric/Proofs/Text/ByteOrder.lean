/-
The order of texts is the order of their bytes. Texts compare character by
character; written in UTF-8 they compare byte by byte, and to the same
effect. One character is below another just if its bytes are: the longer
form leads with the greater byte, and two forms of one length differ first
in the digit of base 64 that also decides between the characters.
-/
import Mathlib.Data.String.Basic

namespace ChipFabric.Text

/-- The text in UTF-8. -/
def bytes (s : String) : List UInt8 := s.toUTF8.data.toList

/-- A text is encoded character by character. -/
theorem bytes_ofList (cs : List Char) :
    bytes (.ofList cs) = cs.flatMap String.utf8EncodeChar := by
  simp [bytes, List.utf8Encode]

theorem toNat_lt_of_valid (c : Char) : c.val.toNat < 0x110000 := by
  rcases c.valid with h | ⟨-, h⟩
  · exact Nat.lt_trans h (by decide)
  · exact h

/-- Of two characters, the lower has the lower bytes, whatever follows. -/
theorem utf8EncodeChar_append_lt {c d : Char} (h : c < d) (s t : List UInt8) :
    String.utf8EncodeChar c ++ s < String.utf8EncodeChar d ++ t := by
  have hval : c.val.toNat < d.val.toNat := h
  have hbound := toNat_lt_of_valid d
  unfold String.utf8EncodeChar
  generalize c.val.toNat = m at hval
  generalize d.val.toNat = n at hval hbound
  simp only
  split_ifs
  -- One case for each pair of lengths; a longer form is never the lower one.
  all_goals
    simp (disch := omega) only [List.cons_append, List.nil_append,
      List.cons_lt_cons_iff, UInt8.lt_iff_toNat_lt, ← UInt8.toNat_inj,
      UInt8.toNat_ofNat', Nat.mod_eq_of_lt]
    omega

/-- What is appended to no bytes at all is above them. -/
theorem nil_lt_utf8EncodeChar_append (c : Char) (s : List UInt8) :
    [] < String.utf8EncodeChar c ++ s := by
  cases hbytes : String.utf8EncodeChar c with
  | nil => exact absurd hbytes String.utf8EncodeChar_ne_nil
  | cons b bs => exact List.nil_lt_cons b (bs ++ s)

/-- The first character that differs decides. -/
theorem flatMap_utf8EncodeChar_lt {cs ds : List Char} (h : cs < ds) :
    cs.flatMap String.utf8EncodeChar < ds.flatMap String.utf8EncodeChar := by
  induction (h : List.Lex (· < ·) cs ds) with
  | @nil d ds => exact nil_lt_utf8EncodeChar_append d _
  | rel hlt => exact utf8EncodeChar_append_lt hlt _ _
  | cons _ ih => exact List.append_left_lt ih

/-- Smaller texts have smaller bytes. -/
theorem bytes_lt_bytes {s t : String} (h : s < t) : bytes s < bytes t := by
  rw [← String.ofList_toList (s := s), ← String.ofList_toList (s := t),
    bytes_ofList, bytes_ofList]
  exact flatMap_utf8EncodeChar_lt h

/-- Texts are ordered as their bytes are. -/
theorem bytes_lt_bytes_iff {s t : String} : bytes s < bytes t ↔ s < t := by
  constructor
  · intro h
    rcases lt_trichotomy s t with hlt | rfl | hgt
    · exact hlt
    · exact absurd h (List.lt_irrefl (bytes s))
    · exact absurd (bytes_lt_bytes hgt) (List.lt_asymm h)
  · exact bytes_lt_bytes

/-- So sorting by bytes is sorting by characters. -/
theorem bytes_le_bytes_iff {s t : String} : bytes s ≤ bytes t ↔ s ≤ t := by
  rw [← List.not_lt, bytes_lt_bytes_iff, String.not_lt]

end ChipFabric.Text
