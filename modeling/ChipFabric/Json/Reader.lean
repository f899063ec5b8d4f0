/-
Reading JSON: a row of tokens is taken in one at a time, the brackets that
are still open standing on a stack with what has been read inside them. A
text is read if its tokens leave exactly one finished value, so nothing may
follow that value and no comma may stand before a closing bracket.
-/
import ChipFabric.Json.Token

namespace ChipFabric.Json

/-- A bracket that is still open: what stands before the value that is
being read inside it, the last part first. -/
inductive Frame where
  | array (before : List Json)
  | object (before : List (String × Json)) (name : String)

/-- What has been read so far: a state names what may come next. Parts that
are complete are kept with the last one first. -/
inductive Reading where
  /-- A value has to come. -/
  | value (stack : List Frame)
  /-- An array was just opened: an item or the closing bracket. -/
  | firstItem (stack : List Frame)
  /-- An object was just opened: a name or the closing bracket. -/
  | firstName (stack : List Frame)
  /-- A comma in an object: another name has to come. -/
  | nextName (before : List (String × Json)) (stack : List Frame)
  /-- A name was read: a colon has to come. -/
  | colon (before : List (String × Json)) (name : String) (stack : List Frame)
  /-- An item ended: a comma or the closing bracket. -/
  | afterItem (items : List Json) (stack : List Frame)
  /-- A member ended: a comma or the closing bracket. -/
  | afterMember (members : List (String × Json)) (stack : List Frame)
  /-- The value is complete. -/
  | done (v : Json)

namespace Reading

/-- A value ended inside the brackets of the stack. -/
def finish (v : Json) : List Frame → Reading
  | [] => .done v
  | .array before :: stack => .afterItem (v :: before) stack
  | .object before name :: stack => .afterMember ((name, v) :: before) stack

/-- A token where a value may start. -/
def start (stack : List Frame) : Token → Option Reading
  | .leaf v => some (finish v stack)
  | .mark .openArray => some (.firstItem stack)
  | .mark .openObject => some (.firstName stack)
  | .mark _ => none

/-- One more token. -/
def step : Reading → Token → Option Reading
  | .value stack, t => start stack t
  | .firstItem stack, .mark .closeArray => some (finish (.array []) stack)
  | .firstItem stack, t => start (.array [] :: stack) t
  | .firstName stack, .mark .closeObject => some (finish (.object []) stack)
  | .firstName stack, .leaf (.string name) => some (.colon [] name stack)
  | .nextName before stack, .leaf (.string name) =>
    some (.colon before name stack)
  | .colon before name stack, .mark .colon =>
    some (.value (.object before name :: stack))
  | .afterItem items stack, .mark .comma =>
    some (.value (.array items :: stack))
  | .afterItem items stack, .mark .closeArray =>
    some (finish (.array items.reverse) stack)
  | .afterMember members stack, .mark .comma => some (.nextName members stack)
  | .afterMember members stack, .mark .closeObject =>
    some (finish (.object members.reverse) stack)
  | _, _ => none

end Reading

/-- The value of a row of tokens. -/
def ofTokens? (ts : List Token) : Option Json :=
  match ts.foldlM Reading.step (.value []) with
  | some (.done v) => some v
  | _ => none

/-- The value that a text spells. -/
def parse? (s : String) : Option Json := (scan? s.toList).bind ofTokens?

end ChipFabric.Json
