/-
JSON texts of values: the compact one, which is the row of the value's
tokens, and the indented one, which puts every item and member on a line of
its own, two more spaces in than what holds it. Members stand in the order
they are given.
-/
import ChipFabric.Json.Token

namespace ChipFabric.Json

-- ============================================================ compact

mutual

/-- The tokens of a value. -/
def tokens : Json → List Token
  | .array items => .mark .openArray ::
      (itemTokens items ++ [.mark .closeArray])
  | .object members => .mark .openObject ::
      (memberTokens members ++ [.mark .closeObject])
  | .null => [.leaf .null]
  | .bool b => [.leaf (.bool b)]
  | .natural n => [.leaf (.natural n)]
  | .numeral text => [.leaf (.numeral text)]
  | .string s => [.leaf (.string s)]

/-- The tokens of the items of an array, with commas between them. -/
def itemTokens : List Json → List Token
  | [] => []
  | [v] => tokens v
  | v :: rest => tokens v ++ .mark .comma :: itemTokens rest

/-- The tokens of the members of an object, with commas between them. -/
def memberTokens : List (String × Json) → List Token
  | [] => []
  | [(name, v)] => .leaf (.string name) :: .mark .colon :: tokens v
  | (name, v) :: rest =>
    .leaf (.string name) :: .mark .colon ::
      (tokens v ++ .mark .comma :: memberTokens rest)

end

/-- The value on one line, without blanks. -/
def compact (v : Json) : String := String.ofList (v.tokens.flatMap Token.text)

-- =========================================================== indented

/-- The start of a line at a depth. -/
def newline (depth : Nat) : List Char := '\n' :: List.replicate (2 * depth) ' '

mutual

/-- The value with its parts on lines of their own, at a depth. -/
def indentedAt (depth : Nat) : Json → List Char
  | .array [] => ['[', ']']
  | .array items =>
    '[' :: (itemLines (depth + 1) items ++ newline depth ++ [']'])
  | .object [] => ['\x7b', '\x7d']
  | .object members =>
    '\x7b' :: (memberLines (depth + 1) members ++ newline depth ++ ['\x7d'])
  | v => leafText v

/-- The items of an array, each on its line. -/
def itemLines (depth : Nat) : List Json → List Char
  | [] => []
  | [v] => newline depth ++ indentedAt depth v
  | v :: rest =>
    newline depth ++ indentedAt depth v ++ ',' :: itemLines depth rest

/-- The members of an object, each on its line. -/
def memberLines (depth : Nat) : List (String × Json) → List Char
  | [] => []
  | [(name, v)] =>
    newline depth ++ stringLiteral name ++ ':' :: ' ' :: indentedAt depth v
  | (name, v) :: rest =>
    newline depth ++ stringLiteral name ++ ':' :: ' ' :: indentedAt depth v
      ++ ',' :: memberLines depth rest

end

/-- The value over several lines. -/
def indented (v : Json) : String := String.ofList (indentedAt 0 v)

end ChipFabric.Json
