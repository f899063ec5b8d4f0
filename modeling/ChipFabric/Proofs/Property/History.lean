/-
What a registry remembers of the calls made on it. Calls override and
declare properties of many names in any order, and each may fail. The calls
that succeeded say everything about the registry they leave: which
properties are declared, and which text was recorded last for each.
`Lawful` is the account of one registry in terms of its calls: when the next
call succeeds, what it stores, and what stays.

# The step

`Registry.after_cases` says once what a call does. It fails and changes
nothing, or it records a text for a name that is not declared, or it adds
the entry of a name that is not declared. `Registry.Built` is the row of the
steps that succeed, and what the calls say of a registry is proved by
induction on it.

# The last text

`History.Latest` is about the last of the overrides that succeeded for a
name. No override of a declared name succeeds, so it is settled when the
name is declared; before that a text that cannot be read may be replaced by
one that can, and the declaration made again.
-/
import ChipFabric.Proofs.Property.Outcomes
import Mathlib.Data.List.Induction

namespace ChipFabric.Property

open Edit

-- ============================================================= calls

/-- A call that may change a registry. -/
inductive Call where
  | override (name raw : String)
  | declare (decl : Declaration)
  deriving DecidableEq, Repr

namespace Call

def edit : Call → Edit Registry Unit
  | override name raw => Property.override name raw
  | declare decl => do
    let _ ← Property.declare decl
    return ()

def Succeeds (call : Call) (r : Registry) : Prop := (call.edit.on r).1 = .ok ()

instance (call : Call) (r : Registry) : Decidable (call.Succeeds r) :=
  inferInstanceAs (Decidable (_ = _))

end Call

namespace Registry

variable {r : Registry} {calls : List Call} {name raw : String}
  {decl : Declaration} {value : Value} {overridden : Bool} {entry : Entry}

/-- The registry after a call, whether it succeeded or failed. -/
def after (r : Registry) (call : Call) : Registry := (call.edit.on r).2

/-- The calls of a row that succeed, made one after another from `r` on. -/
def accepted (r : Registry) : List Call → List Call
  | [] => []
  | call :: calls =>
    if call.Succeeds r then call :: accepted (r.after call) calls
    else accepted (r.after call) calls

/-- A new registry after a row of calls. -/
def run (calls : List Call) : Registry := calls.foldl after {}

-- ========================================================== one step

theorem on_edit_override (name raw : String) (r : Registry) :
    (Call.override name raw).edit.on r =
      if r.IsDeclared name then (.error (.lateOverride name), r)
      else (.ok (), { r with overrides := (name, raw) :: r.overrides }) :=
  on_override name raw r

/-- A declaration as a call does what it does anyway. -/
theorem on_edit_declare (decl : Declaration) (r : Registry) :
    (Call.declare decl).edit.on r =
      (((declare decl).on r).1.map fun _ => (), ((declare decl).on r).2) := by
  unfold Call.edit
  rw [on_bind]
  rcases (declare decl).on r with ⟨_ | value, after⟩ <;> rfl

/-- What a call does: nothing, or it records a text, or it adds an entry. -/
theorem after_cases (r : Registry) (call : Call) :
    (¬ call.Succeeds r ∧ r.after call = r)
      ∨ (call.Succeeds r ∧ ∃ name raw, call = .override name raw
        ∧ ¬ r.IsDeclared name
          ∧ r.after call = { r with overrides := (name, raw) :: r.overrides })
      ∨ (call.Succeeds r ∧ ∃ decl value overridden, call = .declare decl
          ∧ r.Settles decl value overridden
          ∧ r.after call =
            { r with declared := r.declared ++ [⟨decl, value, overridden⟩] })
            := by
  unfold Call.Succeeds after
  cases call with
  | override name raw =>
    rw [on_edit_override]
    by_cases hdeclared : r.IsDeclared name
    · rw [if_pos hdeclared]
      exact .inl ⟨nofun, rfl⟩
    · rw [if_neg hdeclared]
      exact .inr (.inl ⟨rfl, name, raw, rfl, hdeclared, rfl⟩)
  | declare decl =>
    rw [on_edit_declare]
    by_cases h : ∃ value overridden, r.Settles decl value overridden
    · obtain ⟨value, overridden, h⟩ := h
      rw [on_declare_of_settles h]
      exact .inr (.inr ⟨rfl, decl, value, overridden, rfl, h, rfl⟩)
    · obtain ⟨fault, hon, -⟩ := on_declare_of_not_settles
        fun value overridden hsettles => h ⟨value, overridden, hsettles⟩
      rw [hon]
      exact .inl ⟨nofun, rfl⟩

/-- What is declared stays as it is, whatever is called. -/
theorem find?_after (call : Call) (h : r.find? name = some entry) :
    (r.after call).find? name = some entry := by
  rcases after_cases r call with ⟨-, hafter⟩ | ⟨-, _, _, -, -, hafter⟩
    | ⟨-, _, _, _, -, -, hafter⟩
  · rwa [hafter]
  · rwa [hafter]
  · rw [hafter]
    exact List.find?_append.trans
      (by rw [show List.find? _ r.declared = some entry from h]; rfl)

-- ============================================================= a row

theorem run_concat (calls : List Call) (call : Call) :
    run (calls ++ [call]) = (run calls).after call :=
  List.foldl_concat ..

theorem accepted_concat (calls : List Call) (call : Call) (r : Registry) :
    r.accepted (calls ++ [call]) =
      r.accepted calls ++ if call.Succeeds (calls.foldl after r) then [call]
        else [] := by
  induction calls generalizing r with
  | nil => by_cases h : call.Succeeds r <;> simp [accepted, h]
  | cons first calls ih =>
    rw [List.cons_append, accepted, accepted, ih, List.foldl_cons]
    by_cases h : first.Succeeds r <;> simp [h]

/-- What is declared stays as it was settled, whatever is called after it. -/
theorem find?_run_append (calls more : List Call)
    (h : (run calls).find? name = some entry) :
    (run (calls ++ more)).find? name = some entry := by
  induction more using List.reverseRecOn with
  | nil => rwa [List.append_nil]
  | append_singleton more call ih =>
    rw [← List.append_assoc, run_concat]
    exact find?_after call ih

/-- The registry that a row of calls makes of a new one if each of them
succeeds. -/
inductive Built : List Call → Registry → Prop where
  | new : Built [] {}
  | override {calls : List Call} {r : Registry} {name : String} (raw : String)
      (h : Built calls r) (hnew : ¬ r.IsDeclared name) :
      Built (calls ++ [.override name raw])
        { r with overrides := (name, raw) :: r.overrides }
  | declare {calls : List Call} {r : Registry} {decl : Declaration}
      {value : Value} {overridden : Bool} (h : Built calls r)
      (hsettles : r.Settles decl value overridden) :
      Built (calls ++ [.declare decl])
        { r with declared := r.declared ++ [⟨decl, value, overridden⟩] }

/-- Calls that fail have no part in the registry. -/
theorem built_run (calls : List Call) : Built (accepted {} calls)
    (run calls) := by
  induction calls using List.reverseRecOn with
  | nil => exact .new
  | append_singleton calls call ih =>
    have hrun : calls.foldl after {} = run calls := rfl
    rw [accepted_concat, run_concat, hrun]
    rcases after_cases (run calls) call with
      ⟨hfails, hafter⟩ | ⟨hok, name, raw, rfl, hnew, hafter⟩
        | ⟨hok, decl, value, overridden, rfl, hsettles, hafter⟩
    · rwa [if_neg hfails, List.append_nil, hafter]
    · rw [if_pos hok, hafter]
      exact ih.override raw hnew
    · rw [if_pos hok, hafter]
      exact ih.declare hsettles

namespace Built

/-- All overrides of the history are kept, those that were overtaken too. -/
theorem mem_overrides_iff (h : Built calls r) :
    (name, raw) ∈ r.overrides ↔ .override name raw ∈ calls := by
  induction h with
  | new => simp
  | override _ _ _ ih => simp [ih, or_comm]
  | declare _ _ ih => simp [ih]

/-- What is declared was declared by a call. -/
theorem isDeclared_iff (h : Built calls r) :
    r.IsDeclared name ↔ ∃ decl : Declaration, .declare decl ∈ calls
      ∧ decl.name = name := by
  induction h with
  | new => simp [IsDeclared]
  | override raw _ _ ih => simpa [IsDeclared] using ih
  | declare _ _ ih =>
    simp only [IsDeclared] at ih
    simp [IsDeclared, or_and_right, exists_or, ih]

/-- Every name is declared at most once. -/
theorem nodup_declared (h : Built calls r) :
    (r.declared.map (·.decl.name)).Nodup := by
  induction h with
  | new => exact List.nodup_nil
  | override _ _ _ ih => exact ih
  | declare _ hsettles ih =>
    rw [List.map_append, List.map_singleton, ← List.concat_eq_append,
      List.nodup_concat]
    refine ⟨fun hmem => ?_, ih⟩
    obtain ⟨entry, hentry, hname⟩ := List.mem_map.1 hmem
    exact hsettles.1 ⟨entry, hentry, hname⟩

end Built

/-- Of the calls, the last override of the property is with that text. -/
def LastIn (calls : List Call) (name raw : String) : Prop :=
  ∃ before later, calls = before ++ .override name raw :: later
    ∧ ∀ other, .override name other ∉ later

/-- The last override of a name is the one just made or, if there is none, the
one before. -/
theorem lastIn_concat_iff {call : Call} :
    LastIn (calls ++ [call]) name raw ↔
      call = .override name raw ∨ LastIn calls name raw
        ∧ ∀ other, call ≠ .override name other := by
  constructor
  · intro ⟨before, later, hcalls, hlater⟩
    rcases List.eq_nil_or_concat later with rfl | ⟨init, last, rfl⟩
    · obtain ⟨-, hcall⟩ := List.append_inj' hcalls rfl
      exact .inl (List.singleton_inj.1 hcall)
    · rw [List.concat_eq_append, ← List.cons_append,
        ← List.append_assoc] at hcalls
      obtain ⟨hinit, hcall⟩ := List.append_inj' hcalls rfl
      obtain rfl := List.singleton_inj.1 hcall
      refine .inr
        ⟨⟨before, init, hinit, fun other hmem => ?_⟩, fun other hcall => ?_⟩
      · exact hlater other (by simp [hmem])
      · exact hlater other (by simp [hcall])
  · intro h
    rcases h with rfl | ⟨⟨before, later, rfl, hlater⟩, hcall⟩
    · exact ⟨calls, [], rfl, fun _ => List.not_mem_nil⟩
    · refine ⟨before, later ++ [call], by simp, fun other hmem => ?_⟩
      rcases List.mem_append.1 hmem with hmem | hmem
      · exact hlater other hmem
      · exact hcall other (List.mem_singleton.1 hmem).symm

/-- The search finds the last override, since later ones stand in front. -/
theorem Built.lookup_overrides_iff (h : Built calls r) :
    r.overrides.lookup name = some raw ↔ LastIn calls name raw := by
  induction h with
  | new => simp [LastIn]
  | declare _ _ ih => simp [lastIn_concat_iff, ih]
  | @override _ _ other text _ _ ih =>
    rw [lastIn_concat_iff, ← ih]
    rcases eq_or_ne name other with rfl | hname
    · simp
    · simp [List.lookup_cons, beq_false_of_ne hname, hname.symm]

theorem Built.lookup_overrides_eq_none_iff (h : Built calls r) :
    r.overrides.lookup name = none ↔ ∀ raw, .override name raw ∉ calls := by
  simp only [← h.mem_overrides_iff, List.lookup_eq_none_iff, bne_iff_ne,
    Prod.forall]
  constructor
  · exact fun hne raw hmem => hne name raw hmem rfl
  · exact fun hnone other raw hmem hname => hnone raw (hname ▸ hmem)

end Registry

open Registry

-- ================================================ what the calls say

/-- The calls made on a new registry, oldest first. -/
abbrev History := List Call

namespace History

variable {calls : History} {name raw : String} {decl : Declaration}
  {value : Value} {overridden : Bool}

def succeeded (calls : History) : List Call := accepted {} calls

/-- A declaration of the property has succeeded. -/
def Declares (calls : History) (name : String) : Prop :=
  ∃ decl : Declaration, .declare decl ∈ calls.succeeded ∧ decl.name = name

/-- An override of the property has succeeded. -/
def Records (calls : History) (name : String) : Prop :=
  ∃ raw, .override name raw ∈ calls.succeeded

/-- The text is that of the last override of the property that succeeded. -/
def Latest (calls : History) (name raw : String) : Prop :=
  LastIn calls.succeeded name raw

/-- What a declaration of the property would take: the text recorded last,
as a value of its sort, or its default if none was recorded. -/
inductive Takes (calls : History) (decl : Declaration) : Value → Bool →
    Prop where
  | override {raw : String} {value : Value}
      (hlatest : calls.Latest decl.name raw)
      (hvalue : decl.kind.valueOf? raw = some value) :
      Takes calls decl value true
  | default (hnone : ¬ calls.Records decl.name) :
      Takes calls decl decl.default false

theorem isDeclared_run_iff : (run calls).IsDeclared name ↔
    calls.Declares name :=
  (built_run calls).isDeclared_iff

/-- What a property is settled with can be read off the calls. -/
theorem settle_run_iff :
    (run calls).settle decl = .ok (value, overridden) ↔
      calls.Takes decl value overridden := by
  rw [settle_eq_ok_iff]
  simp only [(built_run calls).lookup_overrides_iff,
    (built_run calls).lookup_overrides_eq_none_iff]
  constructor
  · intro h
    rcases h with ⟨raw, hlatest, hvalue, rfl⟩ | ⟨hnone, rfl, rfl⟩
    · exact .override hlatest hvalue
    · exact .default fun ⟨raw, hmem⟩ => hnone raw hmem
  · intro h
    cases h with
    | override hlatest hvalue => exact .inl ⟨_, hlatest, hvalue, rfl⟩
    | default hnone => exact .inr ⟨fun raw hmem => hnone ⟨raw, hmem⟩, rfl, rfl⟩

/-- And whether it is settled at all. -/
theorem settles_run_iff :
    (run calls).Settles decl value overridden ↔
      ¬ calls.Declares decl.name ∧ calls.Takes decl value overridden
        ∧ decl.Allows value := by
  rw [Settles, isDeclared_run_iff, settle_run_iff]

/-- An override is unknown if nothing of its name was declared by then. -/
theorem unknown_run_iff :
    (run calls).Unknown name ↔ calls.Records name ∧ ¬ calls.Declares name := by
  simp only [Unknown, Records, isDeclared_run_iff,
    (built_run calls).mem_overrides_iff, succeeded]

end History

-- ====================================================== the whole run

/-- What a registry does after a row of calls, told by the calls. -/
structure Lawful (calls : History) : Prop where
  /-- A call that fails leaves the registry as it was. -/
  failed : ∀ (call : Call) (fault : Fault),
    (call.edit.on (run calls)).1 = .error fault →
      (call.edit.on (run calls)).2 = run calls
  override_ok : ∀ name raw,
    ((override name raw).on (run calls)).1 = .ok () ↔ ¬ calls.Declares name
  override_late : ∀ name raw,
    ((override name raw).on (run calls)).1 = .error (.lateOverride name) ↔
      calls.Declares name
  declare_ok : ∀ decl value,
    ((declare decl).on (run calls)).1 = .ok value ↔
      ¬ calls.Declares decl.name
        ∧ ∃ overridden, calls.Takes decl value overridden ∧ decl.Allows value
  declare_duplicate : ∀ decl,
    ((declare decl).on (run calls)).1 = .error (.duplicateProperty decl.name) ↔
      calls.Declares decl.name
  /-- A declaration that succeeds stores what it takes. -/
  stored : ∀ decl value overridden, ¬ calls.Declares decl.name →
    calls.Takes decl value overridden → decl.Allows value →
      (run (calls ++ [.declare decl])).find? decl.name = some ⟨decl, value,
        overridden⟩
  /-- An entry stays as it is, whatever is called afterwards. -/
  kept : ∀ name entry more, (run calls).find? name = some entry →
    (run (calls ++ more)).find? name = some entry
  /-- The names listed are the ones declared, with the entries found there. -/
  names_described : ∀ name,
    name ∈ (run calls).describe.map (·.decl.name) ↔ calls.Declares name
  described : ∀ entry,
    entry ∈ (run calls).describe ↔
      (run calls).find? entry.decl.name = some entry
  described_in_order : (run calls).describe.Pairwise fun a b =>
    Text.bytes a.decl.name < Text.bytes b.decl.name
  finish_ok : (run calls).finish = .ok () ↔ ∀ name, calls.Records name →
    calls.Declares name
  /-- The fault is of the least name that is overridden and not declared. -/
  finish_unknown : ∀ fault, (run calls).finish = .error fault ↔
    ∃ name, fault = .unknownProperty name ∧ calls.Records name
      ∧ ¬ calls.Declares name
      ∧ ∀ other, calls.Records other → ¬ calls.Declares other →
        Text.bytes name ≤ Text.bytes other

/-- Every row of calls on a new registry leaves one that the calls account
for. -/
theorem lawful_of_history (calls : History) : Lawful calls where
  failed call fault herror := by
    rcases after_cases (run calls) call with ⟨-, hafter⟩ | ⟨hok, -⟩ | ⟨hok, -⟩
    · exact hafter
    · exact nomatch herror.symm.trans hok
    · exact nomatch herror.symm.trans hok
  override_ok name raw := by
    rw [on_override, ← History.isDeclared_run_iff]
    by_cases hdeclared : (run calls).IsDeclared name <;> simp [hdeclared]
  override_late name raw := by
    rw [on_override, ← History.isDeclared_run_iff]
    by_cases hdeclared : (run calls).IsDeclared name <;> simp [hdeclared]
  declare_ok decl value := by
    simp only [declare_eq_ok_iff, History.settles_run_iff, exists_and_left]
  declare_duplicate decl :=
    declare_eq_duplicate_iff.trans History.isDeclared_run_iff
  stored decl value overridden hnew htakes hallows := by
    have hsettles := History.settles_run_iff.2 ⟨hnew, htakes, hallows⟩
    rw [find?_eq_some_iff_mem (built_run _).nodup_declared, run_concat, after,
      on_edit_declare, on_declare_of_settles hsettles]
    exact ⟨List.mem_concat_self, rfl⟩
  kept name entry more hfind := find?_run_append calls more hfind
  names_described name := by
    rw [((run calls).describe_perm.map _).mem_iff,
      ← History.isDeclared_run_iff]
    exact List.mem_map
  described entry := by
    rw [(run calls).describe_perm.mem_iff,
      find?_eq_some_iff_mem (built_run calls).nodup_declared]
    exact (and_iff_left rfl).symm
  described_in_order := pairwise_describe (built_run calls).nodup_declared
  finish_ok := by
    simp only [finish_eq_ok_iff, History.unknown_run_iff, not_and_not_right]
  finish_unknown fault := by
    simp only [finish_eq_error_iff, History.unknown_run_iff,
      and_assoc, and_imp]

-- A text that cannot be read is replaced, and the declaration made again.
example :
    let harts : Declaration := .integer "soc/harts" 1 "number of harts"
    ((declare harts).on (run [.override "soc/harts" "many", .declare harts,
      .override "soc/harts" "0x10"])).1 = .ok (.integer 16) := by
  decide +kernel

end ChipFabric.Property
