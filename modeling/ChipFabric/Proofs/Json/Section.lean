/-
What a section is read as. A section with a fixed list of fields takes an
object if no name stands there twice and all are known (`Keys`), and the value
of a field is then the one that stands at its name, or the one it has when it
is left out (`Field`). So the order of an object never matters: of two values
that differ in the order of their members, at any depth, the same fields are
read (`fields?_reordered`).
-/
import ChipFabric.Json.Section
import Mathlib.Data.List.Basic
import Mathlib.Data.List.Nodup

namespace ChipFabric.Json

variable {α : Type} {members members' : List (String × Json)}
  {names : List String} {name : String} {v v' : Json}

-- ============================================================== words

/-- The reader of words takes the one spelling of a word. -/
theorem word?_eq_some_iff {w : UInt64} : word? v = some w ↔
    v = .natural w.toNat := by
  constructor
  · intro h
    unfold word? at h
    split at h
    · rw [wordOfNat?_eq_some_iff] at h
      rw [h]
    · cases h
  · intro h
    rw [h]
    exact wordOfNat?_toNat w

theorem mapM_word?_eq_some_iff {items : List Json} {ws : List UInt64} :
    items.mapM word? = some ws ↔ items = ws.map ofWord := by
  induction items generalizing ws with
  | nil => cases ws <;> simp
  | cons v items ih =>
    cases ws with
    | nil => simp [Option.bind_eq_some_iff]
    | cons w ws =>
      simp [Option.bind_eq_some_iff, word?_eq_some_iff, ih, ofWord]

/-- A list of words is read word by word. -/
theorem words?_eq_some_iff {ws : List UInt64} :
    words? v = some ws ↔ v = .array (ws.map ofWord) := by
  constructor
  · intro h
    unfold words? at h
    split at h
    · rw [mapM_word?_eq_some_iff.1 h]
    · cases h
  · intro h
    rw [h]
    exact mapM_word?_eq_some_iff.2 rfl

-- ============================================================= fields

/-- The names of an object: no two are the same, and all are known. -/
structure Keys (members : List (String × Json)) (known : List String) :
    Prop where
  nodup : (members.map (·.1)).Nodup
  known : ∀ name ∈ members.map (·.1), name ∈ known

/-- The field of an object: every value that stands at the name means `a`, and
where none does, `a` is the one for a field left out. -/
structure Field (members : List (String × Json)) (name : String)
    (Means : Json → α → Prop)
    (absent a : α) : Prop where
  given : ∀ v, (name, v) ∈ members → Means v a
  absent : (∀ v, (name, v) ∉ members) → a = absent

/-- The field of an object that may not be left out. -/
def Required (members : List (String × Json)) (name : String)
    (Means : Json → α → Prop) (a : α) : Prop :=
  ∃ v, (name, v) ∈ members ∧ Means v a

/-- The value is an object whose members mean `a`. -/
def AsObject (Means : List (String × Json) → α → Prop) (v : Json) (a : α) :
    Prop :=
  ∃ members, v = .object members ∧ Means members a

def IsArray : Json → Prop
  | .array _ => True
  | _ => False

def IsObject : Json → Prop
  | .object _ => True
  | _ => False

/-- Whatever stands at the name, if the value is an object. -/
def Every (name : String) (P : Json → Prop) : Json → Prop
  | .object members => ∀ v, (name, v) ∈ members → P v
  | _ => True

/-- The value is an unsigned integer, and the word is the one of that value. -/
def IsWord (v : Json) (w : UInt64) : Prop := v = .natural w.toNat

/-- The value is an array of unsigned integers, and the words are the ones of
their values. -/
def IsWords (v : Json) (ws : List UInt64) : Prop :=
  v = .array (ws.map fun w => .natural w.toNat)

/-- Where no name stands twice, what is found at a name is what stands
there. -/
theorem lookup_eq_some_iff_mem (hnodup : (members.map (·.1)).Nodup) :
    members.lookup name = some v ↔ (name, v) ∈ members := by
  induction members with
  | nil => simp
  | cons member members ih =>
    obtain ⟨first, w⟩ := member
    obtain ⟨hfirst, hrest⟩ := List.nodup_cons.1 hnodup
    rw [List.lookup_cons, List.mem_cons, Prod.mk.injEq]
    by_cases hname : name = first
    · have hnot : (name, v) ∉ members := by
        intro hmem
        exact hfirst (List.mem_map.2 ⟨_, hmem, hname⟩)
      rw [beq_iff_eq.2 hname, Option.some.injEq]
      simp [hname ▸ hnot, hname, eq_comm]
    · rw [beq_false_of_ne hname, ih hrest]
      simp [hname]

/-- An object is read if its keys are distinct and known, and gives what
stands under each name. -/
theorem fields?_object_eq_some_iff {values : List (Option Json)} :
    fields? names (.object members) = some values ↔
      Keys members names
        ∧ names.map (fun name => members.lookup name) = values := by
  show (if (members.map (·.1)).Nodup ∧ ∀ name ∈ members.map (·.1),
    name ∈ names then some _
    else none) = _ ↔ _
  by_cases hkeys : (members.map (·.1)).Nodup
    ∧ ∀ name ∈ members.map (·.1), name ∈ names
  · rw [if_pos hkeys, Option.some.injEq]
    exact ⟨fun h => ⟨⟨hkeys.1, hkeys.2⟩, h⟩, fun h => h.2⟩
  · rw [if_neg hkeys]
    exact ⟨nofun, fun h => absurd ⟨h.1.nodup, h.1.known⟩ hkeys⟩

/-- An object with all the fields and no others. -/
theorem fields?_of_names (hnames : members.map (·.1) = names)
    (hnodup : names.Nodup) :
    fields? names (.object members) =
      some (members.map fun member => some member.2) := by
  subst hnames
  rw [fields?_object_eq_some_iff, List.map_map]
  refine ⟨⟨hnodup, fun name hname => hname⟩,
    List.map_congr_left fun member hmem => ?_⟩
  exact (lookup_eq_some_iff_mem hnodup).2 hmem

/-- What the value is read as is just what it means. -/
def Reads (read : Json → Option α) (Means : Json → α → Prop) (v : Json) :
    Prop :=
  ∀ a, read v = some a ↔ Means v a

theorem reads_word? (v : Json) : Reads word? IsWord v :=
  fun _ => word?_eq_some_iff

theorem reads_words? (v : Json) : Reads words? IsWords v :=
  fun _ => words?_eq_some_iff

/-- What a field is read as. -/
theorem Reads.field? {read : Json → Option α} {Means : Json → α → Prop}
    {absent a : α} (hread : (object members).Every name (Reads read Means))
    (hnodup : (members.map (·.1)).Nodup) :
    field? read absent (members.lookup name) = some a ↔
      Field members name Means absent a := by
  cases hlookup : members.lookup name with
  | none =>
    have hnone : ∀ v, (name, v) ∉ members := by
      intro v hmem
      rw [← lookup_eq_some_iff_mem hnodup, hlookup] at hmem
      cases hmem
    constructor
    · intro h
      cases h
      exact ⟨fun v hmem => absurd hmem (hnone v), fun _ => rfl⟩
    · intro h
      rw [h.absent hnone]
      rfl
  | some v =>
    have hmem := (lookup_eq_some_iff_mem hnodup).1 hlookup
    constructor
    · intro h
      refine ⟨fun w hw => ?_, fun hnone => absurd hmem (hnone v)⟩
      have hv : some v = some w :=
        hlookup.symm.trans ((lookup_eq_some_iff_mem hnodup).2 hw)
      cases hv
      exact (hread v hmem a).1 h
    · intro h
      exact (hread v hmem a).2 (h.given v hmem)

/-- A field is read from its member, or is absent. -/
theorem field?_word?_eq_some_iff {absent w : UInt64}
    (hnodup : (members.map (·.1)).Nodup) :
    field? word? absent (members.lookup name) = some w ↔
      Field members name IsWord absent w :=
  Reads.field? (fun v _ => reads_word? v) hnodup

/-- What a section is read as that is not written as an array. -/
theorem reads_section {read : Json → Option α}
    {make : List (Option Json) → Option α}
    {Means : List (String × Json) → α → Prop}
    (hread : read v = (fields? names v).bind make) (harray : ¬ v.IsArray)
    (hkeys : ∀ members a, Means members a → Keys members names)
    (hmake : ∀ members, v = .object members → Keys members names → ∀ a,
      make (names.map fun name => members.lookup name) = some a ↔
        Means members a) :
    Reads read (AsObject Means) v := by
  intro a
  rw [hread, Option.bind_eq_some_iff]
  constructor
  · intro ⟨values, hvalues, ha⟩
    cases v with
    | object members =>
      obtain ⟨hknown, rfl⟩ := fields?_object_eq_some_iff.1 hvalues
      exact ⟨members, rfl, (hmake members rfl hknown a).1 ha⟩
    | array items => exact absurd trivial harray
    | _ => cases hvalues
  · rintro ⟨members, rfl, hmeans⟩
    have hknown := hkeys members a hmeans
    exact ⟨_, fields?_object_eq_some_iff.2 ⟨hknown, rfl⟩,
      (hmake members rfl hknown a).2 hmeans⟩

-- ============================================================== order

mutual

/-- The value with the members of its object in another order, and so within
each of them. -/
inductive Reordered : Json → Json → Prop
  | same (v : Json) : Reordered v v
  | object {members between members' : List (String × Json)}
      (hperm : members.Perm between) (h : ReorderedMembers between members') :
      Reordered (.object members) (.object members')

/-- The same names, the value at each reordered. -/
inductive ReorderedMembers : List (String × Json) → List (String × Json) → Prop
  | nil : ReorderedMembers [] []
  | cons {name : String} {v v' : Json}
      {members members' : List (String × Json)} (hvalue : Reordered v v')
      (h : ReorderedMembers members members') :
      ReorderedMembers ((name, v) :: members) ((name, v') :: members')

end

theorem ReorderedMembers.names_eq {members members' : List (String × Json)}
    (h : ReorderedMembers members members') :
    members.map (·.1) = members'.map (·.1) :=
  match h with
  | .nil => rfl
  | .cons _ h => congrArg (_ :: ·) h.names_eq

/-- Under each name stands the same, but for order. -/
theorem ReorderedMembers.lookup {members members' : List (String × Json)}
    (h : ReorderedMembers members members') (name : String) :
    Option.Rel Reordered (members.lookup name) (members'.lookup name) :=
  match h with
  | .nil => .none
  | @ReorderedMembers.cons first _ _ _ _ hvalue h => by
    rw [List.lookup_cons, List.lookup_cons]
    by_cases hname : name = first
    · rw [beq_iff_eq.2 hname]
      exact .some hvalue
    · rw [beq_false_of_ne hname]
      exact h.lookup name

/-- Distinct names are looked up in any order. -/
theorem lookup_perm (hnodup : (members.map (·.1)).Nodup)
    (hperm : members.Perm members') (name : String) :
    members.lookup name = members'.lookup name := by
  have hnodup' := (hperm.map (·.1)).nodup_iff.1 hnodup
  ext v
  rw [lookup_eq_some_iff_mem hnodup, lookup_eq_some_iff_mem hnodup',
    hperm.mem_iff]

/-- An object that holds the named values and no others holds just these, in
some order. -/
theorem Keys.perm {pairs : List (String × Json)}
    (h : Keys members (pairs.map (·.1))) (hnodup : (pairs.map (·.1)).Nodup)
    (hall : ∀ pair ∈ pairs, pair ∈ members) : members.Perm pairs := by
  rw [List.perm_ext_iff_of_nodup (.of_map _ h.nodup) (.of_map _ hnodup)]
  refine fun member => ⟨fun hmem => ?_, hall member⟩
  obtain ⟨pair, hpair, hname⟩ :=
    List.mem_map.1 (h.known member.1 (List.mem_map_of_mem hmem))
  rwa [← List.inj_on_of_nodup_map h.nodup (hall pair hpair) hmem hname]

/-- Which keys there are does not depend on their order. -/
theorem Keys.congr (hnames : (members.map (·.1)).Perm (members'.map (·.1))) :
    Keys members names ↔ Keys members' names :=
  ⟨fun h => ⟨hnames.nodup_iff.1 h.nodup,
      fun name hmem => h.known name (hnames.mem_iff.2 hmem)⟩,
    fun h => ⟨hnames.nodup_iff.2 h.nodup,
      fun name hmem => h.known name (hnames.mem_iff.1 hmem)⟩⟩

/-- Of a reordered value no fields are read either, or the same ones, each with
its value reordered. -/
theorem fields?_reordered (names : List String) (h : Reordered v v') :
    fields? names v = fields? names v' ∨
      ∃ given given' : String → Option Json,
        (∀ name, Option.Rel Reordered (given name) (given' name))
          ∧ fields? names v = some (names.map given)
          ∧ fields? names v' = some (names.map given') := by
  cases h with
  | same v => exact .inl rfl
  | @object members between members' hperm hmembers =>
    have hnames : (members.map (·.1)).Perm (members'.map (·.1)) :=
      hmembers.names_eq ▸ hperm.map (·.1)
    by_cases hkeys : Keys members names
    · have hkeys' := (Keys.congr hnames).1 hkeys
      refine .inr ⟨(members.lookup ·), (members'.lookup ·), fun name => ?_,
        fields?_object_eq_some_iff.2 ⟨hkeys, rfl⟩, fields?_object_eq_some_iff.2
          ⟨hkeys', rfl⟩⟩
      show Option.Rel Reordered (members.lookup name) (members'.lookup name)
      rw [lookup_perm hkeys.nodup hperm]
      exact hmembers.lookup name
    · left
      have hnone : ∀ {members}, ¬ Keys members names →
          fields? names (.object members) = none := by
        intro members hnot
        rw [Option.eq_none_iff_forall_ne_some]
        exact fun values hvalues =>
          hnot (fields?_object_eq_some_iff.1 hvalues).1
      rw [hnone hkeys, hnone (mt (Keys.congr hnames).2 hkeys)]

/-- What is read as the same of every reordered value. -/
def Unordered (read : Json → Option α) : Prop :=
  ∀ {v v'}, Reordered v v' → read v = read v'

/-- A field that is read in any order is a field of objects in any order. -/
theorem Unordered.field? {read : Json → Option α} (hread : Unordered read)
    (absent : α) {given given' : Option Json}
    (h : Option.Rel Reordered given given') :
    field? read absent given = field? read absent given' := by
  cases h with
  | none => rfl
  | some h => exact hread h

theorem unordered_word? : Unordered word? := by
  intro v v' h
  cases h <;> rfl

theorem unordered_words? : Unordered words? := by
  intro v v' h
  cases h <;> rfl

/-- What is made of fields that are each read whatever the order is read
whatever the order. -/
theorem unordered_section {read : Json → Option α}
    {make : List (Option Json) → Option α}
    (hread : ∀ v, read v = (fields? names v).bind make)
    (hmake : ∀ given given' : String → Option Json,
      (∀ name, Option.Rel Reordered (given name) (given' name)) →
      make (names.map given) = make (names.map given')) : Unordered read := by
  intro v v' h
  rw [hread, hread]
  obtain hsame | ⟨given, given', hgiven, hv, hv'⟩ := fields?_reordered names h
  · rw [hsame]
  · rw [hv, hv']
    exact hmake given given' hgiven

end ChipFabric.Json
