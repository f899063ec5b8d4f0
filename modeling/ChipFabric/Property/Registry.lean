/-
The property registry. Users record overrides as texts; components then
declare the properties they know, each once, and a declaration settles the
value for good: the latest override, cast to the declared sort, or else the
default. Overrides of a declared property are refused, and `finish` finds
the overrides that nobody declared. A step that fails leaves the registry
as it was.
-/
import ChipFabric.Edit
import ChipFabric.Property.Value

namespace ChipFabric.Property

/-- What a component says about a property it knows. -/
structure Declaration where
  name : String
  default : Value
  kind : Kind
  /-- The values allowed, as `Value.plain` writes them; `none` allows all. -/
  allowed : Option (List String)
  description : String
  deriving DecidableEq, Repr

namespace Declaration

/-- An integer property, any word allowed. -/
def integer (name : String) (default : UInt64) (description : String) :
    Declaration :=
  ⟨name, .integer default, .integer, none, description⟩

/-- A text property, any text allowed. -/
def text (name default description : String) : Declaration :=
  ⟨name, .text default, .text, none, description⟩

def flag (name : String) (default : Bool) (description : String) :
    Declaration :=
  ⟨name, .flag default, .flag, none, description⟩

/-- The declaration with its values restricted to a set. -/
def among (decl : Declaration) (values : List String) : Declaration :=
  { decl with allowed := some values }

/-- The value is one the declaration allows. -/
def Allows (decl : Declaration) (value : Value) : Prop :=
  ∀ values, decl.allowed = some values → value.plain ∈ values

instance (decl : Declaration) (value : Value) :
    Decidable (decl.Allows value) :=
  match h : decl.allowed with
  | none => isTrue fun _ hsome => by rw [h] at hsome; cases hsome
  | some values =>
    if hmem : value.plain ∈ values then
      isTrue fun _ hsome => by rw [h] at hsome; cases hsome; exact hmem
    else
      isFalse fun hall => hmem (hall values h)

/-- The fault of a value that the declaration does not allow; a declaration
that allows all has none. -/
def checkAllowed (decl : Declaration) (value : Value) : Except Fault Unit :=
  if decl.Allows value then .ok ()
  else .error (.notAllowed decl.name value.plain (decl.allowed.getD []))

def toJson (decl : Declaration) : Json :=
  .object [
    ("name", .string decl.name),
    ("default", decl.default.toJson),
    ("cast", .string (match decl.kind with
      | .integer => "Int"
      | .text => "Str"
      | .flag => "Bool")),
    ("allowed",
      .ofOption (fun values => .array (values.map .string)) decl.allowed),
    ("description", .string decl.description)]

end Declaration

structure Entry where
  decl : Declaration
  value : Value
  /-- The value is a user's, not the default. -/
  overridden : Bool
  deriving DecidableEq, Repr

def Entry.toJson (entry : Entry) : Json :=
  .object [
    ("decl", entry.decl.toJson),
    ("value", entry.value.toJson),
    ("overridden", .bool entry.overridden)]

/-- The declared properties, oldest first, and the overrides, latest first. -/
structure Registry where
  declared : List Entry := []
  overrides : List (String × String) := []
  deriving DecidableEq, Repr

namespace Registry

def find? (r : Registry) (name : String) : Option Entry :=
  r.declared.find? (·.decl.name = name)

def IsDeclared (r : Registry) (name : String) : Prop :=
  ∃ entry ∈ r.declared, entry.decl.name = name

instance (r : Registry) (name : String) : Decidable (r.IsDeclared name) :=
  inferInstanceAs (Decidable (∃ entry ∈ r.declared, entry.decl.name = name))

def get (r : Registry) (name : String) : Except Fault Value :=
  match r.find? name with
  | some entry => .ok entry.value
  | none => .error (.undeclaredProperty name)

/-- The declared properties in the order of their names. -/
def describe (r : Registry) : List Entry :=
  r.declared.mergeSort fun a b => a.decl.name ≤ b.decl.name

/-- Every override names a declared property; the first name that does not,
in order, is the fault. -/
def finish (r : Registry) : Except Fault Unit :=
  let names := (r.overrides.map (·.1)).mergeSort fun a b => a ≤ b
  match names.find? fun name => ¬ r.IsDeclared name with
  | some name => .error (.unknownProperty name)
  | none => .ok ()

/-- The value a declaration settles on, and whether it is a user's. -/
def settle (r : Registry) (decl : Declaration) : Except Fault (Value × Bool) :=
  match r.overrides.lookup decl.name with
  | some raw => (decl.kind.cast decl.name raw).map fun value => (value, true)
  | none => .ok (decl.default, false)

end Registry

open Registry

/-- Records a user's text for a property that is not yet declared. -/
def override (name raw : String) : Edit Registry Unit := do
  if (← get).IsDeclared name then
    throw (.lateOverride name)
  modify fun r => { r with overrides := (name, raw) :: r.overrides }

/-- The name and the text in `name=value`, blanks around either dropped. -/
def splitPair? (pair : String) : Option (String × String) :=
  let cs := pair.toList
  match cs.dropWhile (· ≠ '=') with
  | [] => none
  | _ :: raw =>
    some (Text.trim (String.ofList (cs.takeWhile (· ≠ '='))),
      Text.trim (String.ofList raw))

/-- Records an override given as `name=value`. -/
def overridePair (pair : String) : Edit Registry Unit :=
  match splitPair? pair with
  | some (name, raw) => override name raw
  | none => throw (.unreadableValue pair "" "name=value")

/-- Declares a property and gives its value. -/
def declare (decl : Declaration) : Edit Registry Value := do
  let r ← get
  if r.IsDeclared decl.name then
    throw (.duplicateProperty decl.name)
  let (value, overridden) ← r.settle decl
  decl.checkAllowed value
  modify fun r =>
    { r with declared := r.declared ++ [⟨decl, value, overridden⟩] }
  return value

def declareInteger (name : String) (default : UInt64) (description : String) :
    Edit Registry UInt64 := do
  match ← declare (.integer name default description) with
  | .integer n => return n
  | other => throw (.unreadableValue name other.shown Kind.integer.label)

/-- Declares a text property whose values are restricted to a set. -/
def declareChoice (name default : String) (values : List String)
    (description : String) : Edit Registry String := do
  match ← declare
    ((Declaration.text name default description).among values) with
  | .text s => return s
  | other => throw (.unreadableValue name other.shown Kind.text.label)

end ChipFabric.Property
