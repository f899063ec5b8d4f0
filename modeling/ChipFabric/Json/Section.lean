/-
Sections: JSON values with a fixed list of named fields. A section is
written as an object, in any order, or as an array of its first fields in
their order. Nothing unknown and nothing twice is accepted, and what a
field left out means is for the section to say.
-/
import ChipFabric.Json.Value
import ChipFabric.Word

namespace ChipFabric.Json

/-- The values of the named fields, absent ones as `none`. -/
def fields? (names : List String) : Json → Option (List (Option Json))
  | .object members =>
    let given := members.map (·.1)
    if given.Nodup ∧ ∀ name ∈ given, name ∈ names then
      some (names.map fun name => members.lookup name)
    else none
  | .array items =>
    if items.length ≤ names.length then
      some (items.map some ++ List.replicate
        (names.length - items.length) none)
    else none
  | _ => none

/-- The value of a field, which is `absent` where it was left out. -/
def field? {α : Type} (read : Json → Option α) (absent : α) :
    Option Json → Option α
  | none => some absent
  | some v => read v

/-- The word that a value spells. -/
def word? : Json → Option UInt64
  | .natural n => wordOfNat? n
  | _ => none

/-- The words of an array. -/
def words? : Json → Option (List UInt64)
  | .array items => items.mapM word?
  | _ => none

/-- A word as a value. -/
def ofWord (w : UInt64) : Json := .natural w.toNat

end ChipFabric.Json
