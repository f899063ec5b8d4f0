/-
Declarations of one sort, and what becomes of the values they settle. A
component that declares an integer or a choice gets what was recorded for
the property, as a value of the component's own type, or the default it
named (`Gives`), and the registry then holds that value (`declaring`). It
holds it for good: every operation on a registry, whichever way it is
spelled, does what one of the two calls does or nothing at all.
-/
import ChipFabric.Proofs.Property.History

namespace ChipFabric.Property

open Edit

@[simp] theorem Declaration.name_integer (name : String) (default : UInt64)
    (description : String) :
    (integer name default description).name = name := rfl

@[simp] theorem Declaration.name_text (name default description : String) :
    (text name default description).name = name := rfl

@[simp] theorem Declaration.name_among (decl : Declaration)
    (values : List String) :
    (decl.among values).name = decl.name := rfl

namespace Registry

variable {r after : Registry} {decl : Declaration} {value : Value}
  {overridden : Bool} {name description : String}

-- ====================================================== what is given

/-- The property of that name has the value `a` for its user: what the text
recorded for it reads as, or the default if there is no text. -/
def Gives {α : Type} (r : Registry) (name : String) (reads : String → α → Prop)
    (default a : α) : Prop :=
  match r.overrides.lookup name with
  | some raw => reads raw a
  | none => a = default

/-- The registry with the entry of a declaration that settles on the value. -/
def declaring (r : Registry) (decl : Declaration) (value : Value) : Registry :=
  { r with
    declared := r.declared
      ++ [⟨decl, value, (r.overrides.lookup decl.name).isSome⟩] }

@[simp] theorem overrides_declaring : (r.declaring decl value).overrides =
    r.overrides := rfl

/-- To declare a property changes nothing for the others. -/
@[simp] theorem gives_declaring_iff {α : Type} {reads : String → α → Prop}
    {default a : α} :
    (r.declaring decl value).Gives name reads default a ↔
      r.Gives name reads default a :=
  Iff.rfl

@[simp] theorem isDeclared_declaring_iff :
    (r.declaring decl value).IsDeclared name ↔ r.IsDeclared name
      ∨ decl.name = name := by
  simp [IsDeclared, declaring, or_and_right, exists_or]

/-- A value that is read by way of another. -/
theorem gives_map_iff {α β : Type} (read? : String → Option α) (f : α → β)
    {default : α} {b : β} :
    r.Gives name (fun raw b => (read? raw).map f = some b) (f default) b ↔
      ∃ a, r.Gives name (read? · = some ·) default a ∧ f a = b := by
  unfold Gives
  cases r.overrides.lookup name with
  | none => simp [eq_comm]
  | some raw => simp

/-- A property is got if it is declared, and then as it was settled. -/
theorem get_eq_ok_iff :
    r.get name = .ok value ↔ ∃ entry, r.find? name = some entry
      ∧ entry.value = value := by
  unfold get
  cases r.find? name <;> simp

/-- A new property has the value that its declaration settles on. -/
theorem get_declaring_self (hnew : ¬ r.IsDeclared decl.name) :
    (r.declaring decl value).get decl.name = .ok value := by
  have hnone : r.declared.find? (·.decl.name = decl.name) = none :=
    find?_eq_none_iff.2 hnew
  simp [get, find?, declaring, hnone]

/-- Whatever is declared besides, a value stays. -/
theorem get_declaring {settled : Value} (h : r.get name = .ok settled) :
    (r.declaring decl value).get name = .ok settled := by
  obtain ⟨entry, hfind, rfl⟩ := get_eq_ok_iff.1 h
  have hsome : r.declared.find? (·.decl.name = name) = some entry := hfind
  simp [get, find?, declaring, hsome]

-- ====================================================== declarations

/-- The three things that a declaration is settled by: it is new, it is given
a value, and it allows that. -/
theorem settles_iff_gives :
    r.Settles decl value overridden ↔ ¬ r.IsDeclared decl.name ∧
      r.Gives decl.name (decl.kind.valueOf? · = some ·) decl.default value ∧
      overridden = (r.overrides.lookup decl.name).isSome
        ∧ decl.Allows value := by
  unfold Settles Gives
  rw [settle_eq_ok_iff]
  cases r.overrides.lookup decl.name <;> simp [and_assoc]

/-- If they are so, the property is declared, and only then. -/
theorem on_declare_eq_ok_iff :
    (declare decl).on r = (.ok value, after) ↔ ¬ r.IsDeclared decl.name ∧
      r.Gives decl.name (decl.kind.valueOf? · = some ·) decl.default value ∧
      decl.Allows value ∧ after = r.declaring decl value := by
  constructor
  · intro hon
    obtain ⟨overridden, hsettles⟩ :=
      declare_eq_ok_iff.1 (congrArg Prod.fst hon)
    obtain ⟨hnew, hgives, rfl, hallows⟩ := settles_iff_gives.1 hsettles
    rw [on_declare_of_settles hsettles] at hon
    exact ⟨hnew, hgives, hallows, (congrArg Prod.snd hon).symm⟩
  · rintro ⟨hnew, hgives, hallows, rfl⟩
    exact on_declare_of_settles
      (settles_iff_gives.2 ⟨hnew, hgives, rfl, hallows⟩)

/-- What a component gets that declares an integer. -/
theorem on_declareInteger_eq_ok_iff {default n : UInt64} :
    (declareInteger name default description).on r = (.ok n, after) ↔
      ¬ r.IsDeclared name ∧
      r.Gives name (integerOf? · = some ·) default n ∧
      after = r.declaring (.integer name default description)
        (.integer n) := by
  have hgives : ∀ value, r.Gives name (Kind.integer.valueOf? · = some ·)
      (.integer default) value ↔
      ∃ n, r.Gives name (integerOf? · = some ·) default n
        ∧ Value.integer n = value :=
    fun value => gives_map_iff integerOf? Value.integer
  unfold declareInteger
  rw [on_bind_eq_ok_iff]
  constructor
  · rintro ⟨value, t, hon, hrest⟩
    obtain ⟨hnew, hvalue, -, rfl⟩ := on_declare_eq_ok_iff.1 hon
    obtain ⟨m, hm, rfl⟩ := (hgives value).1 hvalue
    obtain ⟨rfl, rfl⟩ : m = n ∧ _ = after := by simpa using hrest
    exact ⟨hnew, hm, rfl⟩
  · rintro ⟨hnew, hn, rfl⟩
    exact ⟨_, _, on_declare_eq_ok_iff.2
      ⟨hnew, (hgives _).2 ⟨n, hn, rfl⟩, nofun, rfl⟩, rfl⟩

/-- What a component gets that declares a choice. -/
theorem on_declareChoice_eq_ok_iff {default s : String}
    {values : List String} :
    (declareChoice name default values description).on r = (.ok s, after) ↔
      ¬ r.IsDeclared name ∧
      r.Gives name (· = ·) default s ∧ s ∈ values ∧
      after = r.declaring
        ((Declaration.text name default description).among values)
        (.text s) := by
  have hgives : ∀ value, r.Gives name (Kind.text.valueOf? · = some ·)
      (.text default) value ↔
      ∃ s, r.Gives name (· = ·) default s ∧ Value.text s = value := by
    intro value
    have hmap : r.Gives name (Kind.text.valueOf? · = some ·) (.text default)
        value ↔ _ :=
      gives_map_iff some Value.text
    simpa only [Option.some.injEq] using hmap
  have hallows : ∀ s,
      ((Declaration.text name default description).among values).Allows
      (.text s) ↔
      s ∈ values := by
    intro s
    simp [Declaration.Allows, Declaration.among, Value.plain]
  unfold declareChoice
  rw [on_bind_eq_ok_iff]
  constructor
  · rintro ⟨value, t, hon, hrest⟩
    obtain ⟨hnew, hvalue, hallowed, rfl⟩ := on_declare_eq_ok_iff.1 hon
    obtain ⟨u, hu, rfl⟩ := (hgives value).1 hvalue
    obtain ⟨rfl, rfl⟩ : u = s ∧ _ = after := by simpa using hrest
    exact ⟨hnew, hu, (hallows u).1 hallowed, rfl⟩
  · rintro ⟨hnew, hs, hmem, rfl⟩
    exact ⟨_, _, on_declare_eq_ok_iff.2
      ⟨hnew, (hgives _).2 ⟨s, hs, rfl⟩, (hallows s).2 hmem, rfl⟩, rfl⟩

end Registry

-- ======================================================== operations

/-- An operation of the registry that may change it, in each way it is
offered. -/
inductive Operation where
  | override (name raw : String)
  | overridePair (pair : String)
  | declare (decl : Declaration)
  | declareInteger (name : String) (default : UInt64) (description : String)
  | declareChoice (name default : String) (values : List String)
    (description : String)
  deriving DecidableEq, Repr

/-- What only looks at what an edit gave leaves the state as the edit left
it. -/
theorem snd_on_bind_of_keeps {σ α β : Type} {edit : Edit σ α}
    {next : α → Edit σ β} {s : σ} (h : ∀ a t, ((next a).on t).2 = t) :
    ((edit >>= next).on s).2 = (edit.on s).2 := by
  rw [on_bind]
  rcases edit.on s with ⟨_ | a, t⟩
  · rfl
  · exact h a t

namespace Operation

def edit : Operation → Edit Registry Unit
  | override name raw => Property.override name raw
  | overridePair pair => Property.overridePair pair
  | declare decl => do
    let _ ← Property.declare decl
    return ()
  | declareInteger name default description => do
    let _ ← Property.declareInteger name default description
    return ()
  | declareChoice name default values description => do
    let _ ← Property.declareChoice name default values description
    return ()

/-- The registry after an operation, whether it succeeded or failed. -/
def after (r : Registry) (operation : Operation) : Registry :=
  (operation.edit.on r).2

/-- An operation does what a call does, or nothing. -/
theorem after_eq (r : Registry) (operation : Operation) :
    after r operation = r ∨ ∃ call, after r operation = r.after call := by
  unfold after
  cases operation with
  | override name raw => exact .inr ⟨.override name raw, rfl⟩
  | overridePair pair =>
    cases hsplit : splitPair? pair with
    | none => exact .inl (by simp [edit, Property.overridePair, hsplit])
    | some parts =>
      exact .inr ⟨.override parts.1 parts.2, by
        simp [edit, Property.overridePair, hsplit, Registry.after, Call.edit]⟩
  | declare decl => exact .inr ⟨.declare decl, rfl⟩
  | declareInteger name default description =>
    refine .inr ⟨.declare (.integer name default description), ?_⟩
    refine (snd_on_bind_of_keeps fun n t => rfl).trans ?_
    refine (snd_on_bind_of_keeps fun value t => ?_).trans
      (snd_on_bind_of_keeps fun n t => rfl).symm
    cases value <;> rfl
  | declareChoice name default values description =>
    refine .inr
      ⟨.declare ((Declaration.text name default description).among values), ?_⟩
    refine (snd_on_bind_of_keeps fun s t => rfl).trans ?_
    refine (snd_on_bind_of_keeps fun value t => ?_).trans
      (snd_on_bind_of_keeps fun s t => rfl).symm
    cases value <;> rfl

/-- No row of operations changes a value once it is settled. -/
theorem get_foldl_after {r : Registry} {name : String} {value : Value}
    (operations : List Operation) (h : r.get name = .ok value) :
    (operations.foldl after r).get name = .ok value := by
  induction operations generalizing r with
  | nil => exact h
  | cons operation operations ih =>
    apply ih
    obtain hsame | ⟨call, hcall⟩ := after_eq r operation
    · rwa [hsame]
    · obtain ⟨entry, hfind, hvalue⟩ := Registry.get_eq_ok_iff.1 h
      rw [hcall]
      exact Registry.get_eq_ok_iff.2
        ⟨entry, Registry.find?_after call hfind, hvalue⟩

end Operation

end ChipFabric.Property
