/-
Texts in double quotes, for messages that list the values a setting may
take. Quotes and backslashes are escaped, control characters by their
letter where they have one, and every other character that would not show
as itself by its code point in braces.
-/
import ChipFabric.Text.Invisible

namespace ChipFabric.Text

/-- The character as it stands between quotes. -/
def quotedChar (c : Char) : String :=
  if c = '"' then "\\\""
  else if c = '\\' then "\\\\"
  else if c = '\t' then "\\t"
  else if c = '\n' then "\\n"
  else if c = '\r' then "\\r"
  else if c = '\x00' then "\\0"
  else if isInvisible c then
    "\\u\x7b" ++ String.ofList (Nat.toDigits 16 c.toNat) ++ "\x7d"
  else String.singleton c

def quoted (s : String) : String :=
  "\"" ++ String.join (s.toList.map quotedChar) ++ "\""

/-- The texts in double quotes, as a bracketed list. -/
def quotedList (ss : List String) : String :=
  "[" ++ ", ".intercalate (ss.map quoted) ++ "]"

end ChipFabric.Text
