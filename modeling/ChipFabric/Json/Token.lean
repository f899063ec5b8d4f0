/-
The tokens of a JSON text: punctuation, and the values that have no parts.
A value is a row of tokens and a text is the row of their spellings, with
blanks between them; so what stands here is one half of both the writer
and the reader. The reader of tokens is strict: only the four JSON blanks
separate, control characters in strings and halves of surrogate pairs are
refused, and a number has no leading zero.
-/
import ChipFabric.Json.Value
import ChipFabric.Text.Numeral

namespace ChipFabric.Json

inductive Mark where
  | openArray
  | closeArray
  | openObject
  | closeObject
  | comma
  | colon
  deriving DecidableEq, Repr

/-- One token: punctuation, or a value without parts. -/
inductive Token where
  | mark (m : Mark)
  | leaf (v : Json)
  deriving Repr

-- =========================================================== spelling

def Mark.char : Mark → Char
  | openArray => '['
  | closeArray => ']'
  | openObject => '\x7b'
  | closeObject => '\x7d'
  | comma => ','
  | colon => ':'

/-- The punctuation that a character spells. -/
def Mark.ofChar? : Char → Option Mark
  | '[' => some openArray
  | ']' => some closeArray
  | '\x7b' => some openObject
  | '\x7d' => some closeObject
  | ',' => some comma
  | ':' => some colon
  | _ => none

/-- The letter that stands for a character after a backslash. -/
def escapeLetter? : Char → Option Char
  | '"' => some '"'
  | '\\' => some '\\'
  | '\x08' => some 'b'
  | '\x0c' => some 'f'
  | '\n' => some 'n'
  | '\r' => some 'r'
  | '\t' => some 't'
  | _ => none

/-- A number below 2^16 in four hexadecimal digits. -/
def hexQuad (n : Nat) : List Char :=
  [n / 0x1000, n / 0x100, n / 0x10, n].map fun d => Nat.digitChar (d % 16)

/-- A character as it stands inside a string: quotes, backslashes and
control characters are escaped, all else stands for itself. -/
def escaped (c : Char) : List Char :=
  match escapeLetter? c with
  | some letter => ['\\', letter]
  | none => if c.toNat < 0x20 then '\\' :: 'u' :: hexQuad c.toNat else [c]

def stringLiteral (s : String) : List Char :=
  '"' :: (s.toList.flatMap escaped ++ ['"'])

/-- The spelling of a value without parts. -/
def leafText : Json → List Char
  | .null => ['n', 'u', 'l', 'l']
  | .bool true => ['t', 'r', 'u', 'e']
  | .bool false => ['f', 'a', 'l', 's', 'e']
  | .natural n => Nat.toDigits 10 n
  | .numeral text => text.toList
  | .string s => stringLiteral s
  | .array _ => []
  | .object _ => []

def Token.text : Token → List Char
  | mark m => [m.char]
  | leaf v => leafText v

-- ============================================================ strings

/-- The character that a letter after a backslash stands for. -/
def unescapeLetter? : Char → Option Char
  | '"' => some '"'
  | '\\' => some '\\'
  | '/' => some '/'
  | 'b' => some '\x08'
  | 'f' => some '\x0c'
  | 'n' => some '\n'
  | 'r' => some '\r'
  | 't' => some '\t'
  | _ => none

/-- The value of four hexadecimal digits, and what follows them. -/
def quad? : List Char → Option (Nat × List Char)
  | a :: b :: c :: d :: rest =>
    (Numeral.digits? 16 [a, b, c, d]).map fun n => (n, rest)
  | _ => none

/-- The character spelled by the digits after `\u`, and what follows. A
code unit of the upper surrogate half needs one of the lower half after it
and no code unit of the lower half stands alone. -/
def unicodeEscape? (cs : List Char) : Option (Char × List Char) :=
  match quad? cs with
  | none => none
  | some (high, rest) =>
    if 0xd800 ≤ high ∧ high < 0xdc00 then
      match rest with
      | '\\' :: 'u' :: more =>
        match quad? more with
        | none => none
        | some (low, rest) =>
          if 0xdc00 ≤ low ∧ low < 0xe000 then
            some (Char.ofNat
              (0x10000 + (high - 0xd800) * 0x400 + (low - 0xdc00)), rest)
          else none
      | _ => none
    else if 0xdc00 ≤ high ∧ high < 0xe000 then none
    else some (Char.ofNat high, rest)

/-- One character of a string, spelled out or escaped, and what follows. -/
def character? : List Char → Option (Char × List Char)
  | [] => none
  | '\\' :: 'u' :: cs => unicodeEscape? cs
  | '\\' :: letter :: cs => (unescapeLetter? letter).map fun c => (c, cs)
  | c :: cs => if c.toNat < 0x20 then none else some (c, cs)

/-- Four digits are taken from the input. -/
theorem quad?_length {cs rest : List Char} {n : Nat}
    (h : quad? cs = some (n, rest)) : rest.length < cs.length := by
  unfold quad? at h
  split at h
  · simp only [Option.map_eq_some_iff, Prod.mk.injEq] at h
    obtain ⟨-, -, -, rfl⟩ := h
    simp only [List.length_cons]
    omega
  · cases h

theorem unicodeEscape?_length {cs rest : List Char} {c : Char}
    (h : unicodeEscape? cs = some (c, rest)) : rest.length < cs.length := by
  unfold unicodeEscape? at h
  split at h
  · cases h
  · next hquad =>
    have hlen := quad?_length hquad
    split at h
    · split at h
      · split at h
        · cases h
        · next hlow =>
          have := quad?_length hlow
          split at h
          · simp only [Option.some.injEq, Prod.mk.injEq] at h
            obtain ⟨-, rfl⟩ := h
            simp only [List.length_cons] at hlen
            omega
          · cases h
      · cases h
    · split at h
      · cases h
      · simp only [Option.some.injEq, Prod.mk.injEq] at h
        obtain ⟨-, rfl⟩ := h
        exact hlen

/-- Reading a character of a string uses up input. -/
theorem character?_length {cs rest : List Char} {c : Char}
    (h : character? cs = some (c, rest)) : rest.length < cs.length := by
  unfold character? at h
  split at h
  · cases h
  · have := unicodeEscape?_length h
    simp only [List.length_cons]
    omega
  · simp only [Option.map_eq_some_iff, Prod.mk.injEq] at h
    obtain ⟨-, -, -, rfl⟩ := h
    simp only [List.length_cons]
    omega
  · split at h
    · cases h
    · cases h
      simp

/-- The characters of a string up to its closing quote, and what follows. -/
def stringBody? (cs : List Char) : Option (List Char × List Char) :=
  match cs with
  | '"' :: rest => some ([], rest)
  | cs =>
    match h : character? cs with
    | none => none
    | some (c, rest) =>
      have := character?_length h
      (stringBody? rest).map fun (body, after) => (c :: body, after)
termination_by cs.length

/-- At least the closing quote is. -/
theorem stringBody?_length {cs body rest : List Char}
    (h : stringBody? cs = some (body, rest)) : rest.length < cs.length := by
  fun_induction stringBody? cs generalizing body with
  | case1 after =>
    cases h
    simp
  | case2 => cases h
  | case3 cs _ c after hchar _ ih =>
    simp only [Option.map_eq_some_iff, Prod.mk.injEq] at h
    obtain ⟨⟨body', rest'⟩, hbody, -, rfl⟩ := h
    have := ih hbody
    have := character?_length hchar
    omega

-- ============================================================ numbers

/-- One or more digits at the front, and what follows. -/
def digitRun? (cs : List Char) : Option (List Char × List Char) :=
  match cs.takeWhile Char.isDigit with
  | [] => none
  | digits => some (digits, cs.dropWhile Char.isDigit)

/-- What follows a fraction, if the text starts with a point. -/
def afterFraction? : List Char → Option (List Char)
  | '.' :: cs => (digitRun? cs).map (·.2)
  | cs => some cs

/-- What follows an exponent, if the text starts with its letter. -/
def afterExponent? : List Char → Option (List Char)
  | c :: cs =>
    if c = 'e' ∨ c = 'E' then
      match cs with
      | '+' :: rest => (digitRun? rest).map (·.2)
      | '-' :: rest => (digitRun? rest).map (·.2)
      | rest => (digitRun? rest).map (·.2)
    else some (c :: cs)
  | [] => some []

/-- The digits before the point, and what follows; a zero stands alone. -/
def wholePart? (cs : List Char) : Option (List Char × List Char) :=
  match digitRun? cs with
  | some ('0' :: _ :: _, _) => none
  | run => run

/-- The number that a run of number characters spells. -/
def number? (text : List Char) : Option Json := do
  let (negative, body) := match text with
    | '-' :: cs => (true, cs)
    | cs => (false, cs)
  let (whole, rest) ← wholePart? body
  if rest = [] ∧ negative = false then
    return .natural (← Numeral.digits? 10 whole)
  if (← afterExponent? (← afterFraction? rest)) = [] then
    return .numeral (String.ofList text)
  none

-- =========================================================== scanning

/-- The four characters that may stand between tokens. -/
def isSpace (c : Char) : Bool := c = ' ' || c = '\t' || c = '\n' || c = '\r'

/-- The characters a number is spelled with. -/
def isNumberChar (c : Char) : Bool :=
  c.isDigit || c = '-' || c = '+' || c = '.' || c = 'e' || c = 'E'

/-- The value that a word of letters spells. -/
def keyword? : List Char → Option Json
  | ['n', 'u', 'l', 'l'] => some .null
  | ['t', 'r', 'u', 'e'] => some (.bool true)
  | ['f', 'a', 'l', 's', 'e'] => some (.bool false)
  | _ => none

/-- Dropping from the front never lengthens. -/
theorem dropWhile_length_le (p : Char → Bool) (cs : List Char) :
    (cs.dropWhile p).length ≤ cs.length :=
  (List.dropWhile_suffix p).length_le

/-- The tokens of a text. -/
def scan? (cs : List Char) : Option (List Token) :=
  match cs with
  | [] => some []
  | c :: cs =>
    if isSpace c then scan? cs
    else match Mark.ofChar? c with
    | some m => (scan? cs).map (.mark m :: ·)
    | none =>
      if c = '"' then
        match h : stringBody? cs with
        | none => none
        | some (body, rest) =>
          have := stringBody?_length h
          (scan? rest).map (.leaf (.string (String.ofList body)) :: ·)
      else if c.isDigit || c = '-' then
        have := dropWhile_length_le isNumberChar cs
        (number? (c :: cs.takeWhile isNumberChar)).bind fun v =>
          (scan? (cs.dropWhile isNumberChar)).map (.leaf v :: ·)
      else
        have := dropWhile_length_le Char.isLower cs
        (keyword? (c :: cs.takeWhile Char.isLower)).bind fun v =>
          (scan? (cs.dropWhile Char.isLower)).map (.leaf v :: ·)
termination_by cs.length
decreasing_by all_goals simp only [List.length_cons]; omega

end ChipFabric.Json
