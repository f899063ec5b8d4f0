/-
Edits: changes to a state that may fail. What an edit changed before it
failed stays changed, so whether it is all or nothing is a question about
the edit and not settled by its type. `Edit.on` runs one, and the lemmas
here say what the steps of an edit do to the outcome and to the state.
-/
import ChipFabric.Fault

namespace ChipFabric

/-- A change to a state, which may fail. -/
abbrev Edit (σ α : Type) := ExceptT Fault (StateM σ) α

namespace Edit

variable {σ α β : Type}

/-- The outcome of an edit on a state, and the state it leaves. -/
def on (edit : Edit σ α) (s : σ) : Except Fault α × σ := edit.run.run s

@[simp] theorem on_pure (a : α) (s : σ) :
    (pure a : Edit σ α).on s = (.ok a, s) := rfl

@[simp] theorem on_throw (fault : Fault) (s : σ) :
    (throw fault : Edit σ α).on s = (.error fault, s) := rfl

@[simp] theorem on_get (s : σ) : (get : Edit σ σ).on s = (.ok s, s) := rfl

@[simp] theorem on_set (s t : σ) :
    (set t : Edit σ PUnit).on s = (.ok (), t) := rfl

@[simp] theorem on_modify (f : σ → σ) (s : σ) :
    (modify f : Edit σ PUnit).on s = (.ok (), f s) := rfl

@[simp] theorem on_liftExcept (outcome : Except Fault α) (s : σ) :
    (liftM outcome : Edit σ α).on s = (outcome, s) := by
  cases outcome <;> rfl

/-- What follows an edit runs on the state the edit left, and only if the
edit succeeded. -/
theorem on_bind (edit : Edit σ α) (next : α → Edit σ β) (s : σ) :
    (edit >>= next).on s =
      match edit.on s with
      | (.ok a, t) => (next a).on t
      | (.error fault, t) => (.error fault, t) := by
  unfold on
  generalize hrun : edit.run.run s = outcome
  obtain ⟨result, t⟩ := outcome
  show StateT.run (ExceptT.run (edit >>= next)) s = _
  rw [ExceptT.run_bind]
  show StateT.run (_ >>= _) s = _
  rw [StateT.run_bind, hrun]
  cases result <;> rfl

/-- Edits in a row succeed if each does, and the last one says with what. -/
theorem on_bind_eq_ok_iff {edit : Edit σ α} {next : α → Edit σ β}
    {s u : σ} {b : β} :
    (edit >>= next).on s = (.ok b, u) ↔
      ∃ a t, edit.on s = (.ok a, t) ∧ (next a).on t = (.ok b, u) := by
  rw [on_bind]
  constructor
  · intro h
    rcases hon : edit.on s with ⟨_ | a, t⟩
    · simp [hon] at h
    · exact ⟨a, t, rfl, by simpa [hon] using h⟩
  · rintro ⟨a, t, hon, h⟩
    rw [hon]
    exact h

/-- What is given back may be changed afterwards. -/
theorem on_bind_pure_eq_ok_iff {edit : Edit σ α} {f : α → β}
    {s t : σ} {b : β} :
    (edit >>= fun a => pure (f a)).on s = (.ok b, t) ↔
      ∃ a, edit.on s = (.ok a, t) ∧ f a = b := by
  rw [on_bind_eq_ok_iff]
  simp only [on_pure, Prod.mk.injEq, Except.ok.injEq]
  constructor
  · rintro ⟨a, u, hon, rfl, rfl⟩
    exact ⟨a, hon, rfl⟩
  · rintro ⟨a, hon, rfl⟩
    exact ⟨a, t, hon, rfl, rfl⟩

@[simp] theorem on_map (f : α → β) (edit : Edit σ α) (s : σ) :
    (f <$> edit).on s = ((edit.on s).1.map f, (edit.on s).2) := by
  rw [← bind_pure_comp, on_bind]
  generalize edit.on s = outcome
  obtain ⟨result, t⟩ := outcome
  cases result <;> rfl

/-- To give back something else changes no state. -/
theorem snd_on_bind_pure (edit : Edit σ α) (f : α → β) (s : σ) :
    ((edit >>= fun a => pure (f a)).on s).2 = (edit.on s).2 := by
  rw [on_bind]
  rcases edit.on s with ⟨_ | a, t⟩ <;> rfl

/-- A row of edits fails with the first one that does. -/
theorem on_forM_cons (edit : α → Edit σ PUnit) (a : α) (as : List α) (s : σ) :
    ((a :: as).forM edit).on s =
      match (edit a).on s with
      | (.ok _, t) => (as.forM edit).on t
      | (.error fault, t) => (.error fault, t) := by
  refine (on_bind (edit a) (fun _ => as.forM edit) s).trans ?_
  rcases (edit a).on s with ⟨_ | _, t⟩ <;> rfl

/-- Of a row of edits that succeeds, the last one does on what the others
left. -/
theorem on_mapM_concat_eq_ok {edit : α → Edit σ β} {as : List α} {a : α}
    {bs : List β} {s u : σ} (h : ((as ++ [a]).mapM edit).on s = (.ok bs, u)) :
    ∃ init last t, (as.mapM edit).on s = (.ok init, t)
      ∧ (edit a).on t = (.ok last, u)
      ∧ bs = init ++ [last] := by
  rw [List.mapM_append] at h
  obtain ⟨init, t, hinit, h⟩ := on_bind_eq_ok_iff.1 h
  obtain ⟨lasts, u', hlast, h⟩ := on_bind_eq_ok_iff.1 h
  rw [List.mapM_cons, List.mapM_nil] at hlast
  obtain ⟨last, u'', hlast, hrest⟩ := on_bind_eq_ok_iff.1 hlast
  obtain ⟨rfl, rfl⟩ : lasts = [last] ∧ u' = u'' := by
    simpa [eq_comm] using hrest
  obtain ⟨rfl, rfl⟩ : bs = init ++ [last] ∧ u = u' := by
    simpa [eq_comm] using h
  exact ⟨init, last, t, hinit, hlast, rfl⟩

end Edit

@[simp] theorem map_ok {α β : Type} (f : α → β) (a : α) :
    Except.map f (Except.ok a : Except Fault α) = .ok (f a) := rfl

@[simp] theorem map_error {α β : Type} (f : α → β) (fault : Fault) :
    Except.map f (Except.error fault : Except Fault α) = .error fault := rfl

/-- What follows a success. -/
@[simp] theorem ok_bind {α β : Type} (a : α) (next : α → Except Fault β) :
    (Except.ok a >>= next) = next a := rfl

/-- Nothing follows a failure. -/
@[simp] theorem error_bind {α β : Type} (fault : Fault)
    (next : α → Except Fault β) :
    (Except.error fault >>= next) = .error fault := rfl

/-- What runs in a row succeeds if both do. -/
theorem bind_eq_ok_iff {α β : Type} {first : Except Fault α}
    {next : α → Except Fault β} {b : β} :
    (first >>= next) = .ok b ↔ ∃ a, first = .ok a ∧ next a = .ok b := by
  cases first <;> simp

/-- What follows a check runs if the check passes. -/
theorem check_bind_eq_ok_iff {β : Type} {check : Except Fault Unit}
    {next : Unit → Except Fault β} {b : β} : (check >>= next) = .ok b ↔
      check = .ok () ∧ next () = .ok b := by
  cases check <;> simp

/-- What is refused under a condition succeeds only without it. -/
theorem ite_error_eq_ok_iff {α : Type} {c : Prop} [Decidable c] {fault : Fault}
    {rest : Except Fault α} {a : α} :
    (if c then .error fault else rest) = .ok a ↔ ¬ c ∧ rest = .ok a := by
  by_cases hc : c <;> simp [hc]

/-- A row of checks passes if each of them does. -/
theorem forM_eq_ok_iff {α : Type} {check : α → Except Fault Unit}
    {as : List α} : as.forM check = .ok () ↔ ∀ a ∈ as, check a = .ok () := by
  induction as with
  | nil => exact ⟨fun _ => nofun, fun _ => rfl⟩
  | cons a as ih =>
    show (check a >>= fun _ => as.forM check) = .ok () ↔ _
    cases hcheck : check a with
    | error fault => simp [hcheck]
    | ok _ => rw [ok_bind, ih, List.forall_mem_cons, hcheck, eq_self, true_and]

/-- A row of checks fails with the fault of one of them. -/
theorem exists_of_forM_eq_error {α : Type} {check : α → Except Fault Unit}
    {as : List α} {fault : Fault} (h : as.forM check = .error fault) :
    ∃ a ∈ as, check a = .error fault := by
  induction as with
  | nil => cases h
  | cons a as ih =>
    change (check a >>= fun _ => as.forM check) = .error fault at h
    cases hcheck : check a with
    | error other =>
      rw [hcheck, error_bind] at h
      exact ⟨a, List.mem_cons_self .., hcheck.trans h⟩
    | ok _ =>
      rw [hcheck, ok_bind] at h
      obtain ⟨b, hb, hfault⟩ := ih h
      exact ⟨b, List.mem_cons_of_mem _ hb, hfault⟩

@[simp] theorem throw_bind {α β : Type} (fault : Fault)
    (next : α → Except Fault β) :
    ((throw fault : Except Fault α) >>= next) = .error fault := rfl

@[simp] theorem ok_fmap {α β : Type} (f : α → β) (a : α) :
    (f <$> (Except.ok a : Except Fault α)) = .ok (f a) := rfl

@[simp] theorem error_fmap {α β : Type} (f : α → β) (fault : Fault) :
    (f <$> (Except.error fault : Except Fault α)) = .error fault := rfl

end ChipFabric
