/-
Property values: integers, texts and flags, and how a text becomes one. A
text given for an integer is a numeral between optional blanks, for a flag
one of four words between optional blanks, and for a text it is the value
as it stands.
-/
import ChipFabric.Fault
import ChipFabric.Text.Blank

namespace ChipFabric.Property

inductive Kind where
  | integer
  | text
  | flag
  deriving DecidableEq, Repr

def Kind.label : Kind → String
  | integer => "integer"
  | text => "string"
  | flag => "boolean"

inductive Value where
  | integer (n : UInt64)
  | text (s : String)
  | flag (b : Bool)
  deriving DecidableEq, Repr

namespace Value

/-- The value as reports and messages show it; integers in hexadecimal. -/
def shown : Value → String
  | integer n => Numeral.hex n.toNat
  | text s => s
  | flag b => if b then "true" else "false"

/-- The value as it is looked up in a set of allowed values; integers in
decimal. -/
def plain : Value → String
  | integer n => Numeral.decimal n.toNat
  | text s => s
  | flag b => if b then "true" else "false"

def integer? : Value → Option UInt64
  | integer n => some n
  | _ => none

def text? : Value → Option String
  | text s => some s
  | _ => none

def flag? : Value → Option Bool
  | flag b => some b
  | _ => none

def toJson : Value → Json
  | integer n => .natural n.toNat
  | text s => .string s
  | flag b => .bool b

end Value

/-- The integer that a text stands for. -/
def integerOf? (raw : String) : Option UInt64 := Numeral.word? (Text.trim raw)

/-- The flag that a text stands for. -/
def flagOf? (raw : String) : Option Bool :=
  let word := Text.trim raw
  if word = "true" ∨ word = "1" then some true
  else if word = "false" ∨ word = "0" then some false
  else none

namespace Kind

/-- The value of this sort that a text stands for. -/
def valueOf? : Kind → String → Option Value
  | integer, raw => (integerOf? raw).map .integer
  | text, raw => some (.text raw)
  | flag, raw => (flagOf? raw).map .flag

/-- The value that a text given for the property `name` stands for, or the
fault that there is none. -/
def cast (kind : Kind) (name raw : String) : Except Fault Value :=
  match kind.valueOf? raw with
  | some value => .ok value
  | none => .error (.unreadableValue name raw kind.label)

end Kind

end ChipFabric.Property
