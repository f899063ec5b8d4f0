/-
JSON values. An object keeps its members in the order they are written and
may hold a name twice: which of this a reader refuses is its own decision.
The configuration only ever uses unsigned integers, so these are numbers
of their own; every other number is kept as the text that spells it.
-/
namespace ChipFabric

/-- A JSON value. -/
inductive Json where
  | null
  | bool (b : Bool)
  /-- An integer without sign, fraction or exponent. -/
  | natural (n : Nat)
  /-- Any other number, as it is spelled. -/
  | numeral (text : String)
  | string (s : String)
  | array (items : List Json)
  | object (members : List (String × Json))
  deriving Inhabited, Repr

namespace Json

/-- The value an optional quantity is written as; `null` when it is absent. -/
def ofOption {α : Type} (write : α → Json) : Option α → Json
  | none => .null
  | some a => write a

/-- The first member of that name, of a value that is an object. -/
def member? (name : String) : Json → Option Json
  | .object members => members.lookup name
  | _ => none

end Json

end ChipFabric
