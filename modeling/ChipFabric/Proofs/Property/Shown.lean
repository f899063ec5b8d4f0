/-
Values as they are shown, given back. Reports show an integer in
hexadecimal, a text as it stands and a flag as a word; a user who copies
such a text into an override gets the value it was shown for
(`valueOf?_shown`). A value that was read from some other spelling is shown
in this one, so recording what is shown in place of what was written makes
no difference to the property (`valueOf?_shown_of_valueOf?`).
-/
import ChipFabric.Proofs.Property.Settled
import ChipFabric.Proofs.Text.Numeral

namespace ChipFabric.Property

open Edit

-- ============================================================= values

/-- The sort of a value. -/
def Value.kind : Value → Kind
  | integer _ => .integer
  | text _ => .text
  | flag _ => .flag

/-- A value is read back from what it is shown as. -/
theorem valueOf?_shown (value : Value) :
    value.kind.valueOf? value.shown = some value := by
  cases value with
  | integer n =>
    have hread : integerOf? (Numeral.hex n.toNat) = some n :=
      Numeral.integerOf?_of_spells (Numeral.spells_hex n.toNat)
    show (integerOf? (Numeral.hex n.toNat)).map Value.integer =
      some (.integer n)
    rw [hread, Option.map_some]
  | text s => rfl
  | flag b => cases b <;> decide

/-- What is read as a value of a sort is of that sort. -/
theorem kind_of_valueOf? {kind : Kind} {raw : String} {value : Value}
    (h : kind.valueOf? raw = some value) : value.kind = kind := by
  cases kind with
  | integer =>
    have hmap : (integerOf? raw).map Value.integer = some value := h
    obtain ⟨n, -, rfl⟩ := Option.map_eq_some_iff.1 hmap
    rfl
  | text =>
    cases h
    rfl
  | flag =>
    have hmap : (flagOf? raw).map Value.flag = some value := h
    obtain ⟨b, -, rfl⟩ := Option.map_eq_some_iff.1 hmap
    rfl

/-- However a value was spelled, it is read from what it is shown as, too. -/
theorem valueOf?_shown_of_valueOf? {kind : Kind} {raw : String} {value : Value}
    (h : kind.valueOf? raw = some value) :
    kind.valueOf? value.shown = some value := by
  have hshown := valueOf?_shown value
  rwa [kind_of_valueOf? h] at hshown

-- ======================================================== on a registry

/-- Records a text for the property of a declaration, and then declares it. -/
def Declaration.given (decl : Declaration) (raw : String) :
    Edit Registry Value := do
  override decl.name raw
  declare decl

namespace Registry

variable {after : Registry} {decl : Declaration} {raw : String} {value : Value}

/-- The property of the declaration is all that is declared; it has the value,
and has it from a user. -/
structure HoldsOnly (r : Registry) (decl : Declaration) (value : Value) :
    Prop where
  get : r.get decl.name = .ok value
  described : r.describe = [⟨decl, value, true⟩]
  finished : r.finish = .ok ()

/-- A text that reads as a value allowed settles the property on it, and no
other text does. -/
theorem on_given_eq_ok_iff :
    (decl.given raw).on {} = (.ok value, after) ↔
      decl.kind.valueOf? raw = some value ∧ decl.Allows value ∧
        after = ⟨[⟨decl, value, true⟩], [(decl.name, raw)]⟩ := by
  have hnew : ¬ ({} : Registry).IsDeclared decl.name := by simp [IsDeclared]
  have hrecorded : (override decl.name raw).on {} =
      (.ok (), { overrides := [(decl.name, raw)] }) := by
    rw [on_override, if_neg hnew]
  rw [Declaration.given, on_bind, hrecorded]
  simp only [on_declare_eq_ok_iff]
  simp [IsDeclared, Gives, declaring]

/-- What is left after a property was given its value. -/
theorem holdsOnly_of_on_given
    (h : (decl.given raw).on {} = (.ok value, after)) :
    after.HoldsOnly decl value := by
  obtain ⟨-, -, rfl⟩ := on_given_eq_ok_iff.1 h
  constructor
  · simp [get, find?]
  · simp [describe]
  · rw [finish_eq_ok_iff]
    simp [Unknown, IsDeclared]

end Registry

/-- What a value is shown as settles a property on the value: whatever the name
and the default, if all values are allowed, and whatever the declaration, if
another text has settled a registry of its own on that value. -/
theorem shown_settles :
    (∀ (name : String) (value default : Value) (description : String),
      let decl : Declaration := ⟨name, default, value.kind, none, description⟩
      ∃ after, (decl.given value.shown).on {} = (.ok value, after)
        ∧ after.HoldsOnly decl value) ∧
    ∀ (decl : Declaration) (raw : String) (value : Value),
      ((decl.given raw).on {}).1 = .ok value →
      ∃ after, (decl.given value.shown).on {} = (.ok value, after)
        ∧ after.HoldsOnly decl value := by
  -- A declaration takes what is shown if it reads the value and allows it.
  have hsettles : ∀ (decl : Declaration) (value : Value),
      decl.kind.valueOf? value.shown = some value → decl.Allows value →
      ∃ after, (decl.given value.shown).on {} = (.ok value, after) ∧
        after.HoldsOnly decl value := by
    intro decl value hvalue hallows
    have hon := Registry.on_given_eq_ok_iff.2 ⟨hvalue, hallows, rfl⟩
    exact ⟨_, hon, Registry.holdsOnly_of_on_given hon⟩
  constructor
  · intro name value default description decl
    exact hsettles decl value (valueOf?_shown value) nofun
  · intro decl raw value hok
    obtain ⟨hvalue, hallows, -⟩ :=
      Registry.on_given_eq_ok_iff.1 (Prod.ext hok rfl)
    exact hsettles decl value (valueOf?_shown_of_valueOf? hvalue) hallows

/-- The greatest word given with blanks, a mark, a sign and separators, and
then as it is shown. -/
theorem shown_settles_maxWord :
    let decl := (Declaration.integer "soc/limit" 0 "a limit").among
      ["0", "18446744073709551615"]
    let raw := " 0X+FFFF_FFFF_FFFF_FFFF_\n"
    let value : Value := .integer 0xffffffffffffffff
    value.shown = "0xffffffffffffffff"
      ∧ ((decl.given raw).on {}).1 = .ok value ∧
      ∃ after, (decl.given value.shown).on {} = (.ok value, after)
        ∧ after.HoldsOnly decl value := by
  intro decl raw value
  have hok : ((decl.given raw).on {}).1 = .ok value := by decide +kernel
  exact ⟨by decide +kernel, hok, shown_settles.2 decl raw value hok⟩

end ChipFabric.Property
