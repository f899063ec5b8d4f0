/-
What the two steps of a registry do: their outcome and the registry they
leave, as one equation each. Every fault stands beside the old registry.
-/
import ChipFabric.Property.Registry

namespace ChipFabric.Property

open Edit

/-- An override comes too late once its property is declared. -/
theorem on_override (name raw : String) (r : Registry) :
    (override name raw).on r =
      if r.IsDeclared name then (.error (.lateOverride name), r)
      else (.ok (), { r with overrides := (name, raw) :: r.overrides }) := by
  simp only [override, on_bind, on_get]
  by_cases h : r.IsDeclared name <;> simp [h]

/-- A property is declared once, with a value that it allows; if it is
refused, the registry is as it was. -/
theorem on_declare (decl : Declaration) (r : Registry) :
    (declare decl).on r =
      if r.IsDeclared decl.name then (.error (.duplicateProperty decl.name), r)
      else match r.settle decl with
        | .error fault => (.error fault, r)
        | .ok (value, overridden) =>
          if decl.Allows value then
            (.ok value,
              { r with declared := r.declared ++ [⟨decl, value, overridden⟩] })
          else
            (.error (.notAllowed decl.name value.plain (decl.allowed.getD [])),
              r) := by
  simp only [declare, on_bind, on_get]
  by_cases h : r.IsDeclared decl.name
  · simp [h]
  · cases r.settle decl with
    | error fault => simp [h, on_bind]
    | ok settled =>
      obtain ⟨value, overridden⟩ := settled
      by_cases hallowed : decl.Allows value <;>
        simp [h, hallowed, Declaration.checkAllowed, on_bind]

end ChipFabric.Property
