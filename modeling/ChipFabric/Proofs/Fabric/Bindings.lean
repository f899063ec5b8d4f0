/-
New bindings. Whatever graph a building step is done to, that graph grows; and
if there is a new binding, it is one, and the last thing that is done. The
updates of a step say so but for the "one": there is none at all where no
update is a binding, and only the four operations that bind may do one. What
those bind is said by `Operation.Binds`: the ports of two handles, two ports
that were found to carry the same, or the output that was declared for a
window to the window's target.

Nothing is asked of what the steps are given. A component or a port that is
named may not exist, and a handle may be one that nobody handed out.
-/
import ChipFabric.Proofs.Fabric.Update

namespace ChipFabric

open Edit

-- ============================================================= growth

namespace Graph

variable {g g' g'' : Graph}

/-- The second graph holds all that the first one does, and no binding that
the first one does not hold. -/
structure GrowsUnbound (g g' : Graph) : Prop where
  grows : g.Grows g'
  bindings_eq : g'.bindings = g.bindings

theorem GrowsUnbound.refl (g : Graph) : g.GrowsUnbound g := ⟨.refl g, rfl⟩

theorem GrowsUnbound.trans (h : g.GrowsUnbound g') (h' : g'.GrowsUnbound g'') :
    g.GrowsUnbound g'' :=
  ⟨h.grows.trans h'.grows, h'.bindings_eq.trans h.bindings_eq⟩

instance : IsPreorder Graph GrowsUnbound where
  refl := .refl
  trans _ _ _ := .trans

/-- The parent need not be there. -/
theorem growsUnbound_pushChild (parent : ComponentId) (name path : String)
    (kind : ComponentKind) :
    g.GrowsUnbound (g.pushChild parent name path kind) where
  grows :=
    { size_le := by simp
      path_eq := fun _ hid => g.path_pushChild hid _ _ _ _
      kind_grows := fun _ hid => by
        rw [g.kind_pushChild hid]
        exact .same _
      port_eq := fun _ hid => ⟨hid, rfl⟩
      mem_bindings := fun _ hb => hb }
  bindings_eq := rfl

/-- The owner need not be there. -/
theorem growsUnbound_pushPort (port : Port) :
    g.GrowsUnbound (g.pushPort port) where
  grows :=
    { size_le := by simp
      path_eq := fun _ _ => g.path_pushPort _ _
      kind_grows := fun _ _ => by
        rw [kind_pushPort]
        exact .same _
      port_eq := fun _ hid => by
        rw [g.port_pushPort hid, ports_pushPort, Array.size_push]
        exact ⟨Nat.lt_succ_of_lt hid, rfl⟩
      mem_bindings := fun _ hb => hb }
  bindings_eq := rfl

end Graph

-- ============================================================= updates

namespace Update

variable {u : Update} {g g' : Graph}

/-- The update makes no binding. -/
def Unbound (u : Update) : Prop :=
  ∀ source target, u ≠ .binding source target

theorem Does.growsUnbound (h : u.Does g g') (hu : u.Unbound) :
    g.GrowsUnbound g' := by
  cases h with
  | child parent name kind => exact Graph.growsUnbound_pushChild _ _ _ _
  | port port => exact Graph.growsUnbound_pushPort _
  | input name hkind =>
    have hchange : g.Change (fun _ => False) _ := .input name hkind
    exact ⟨hchange.grows, rfl⟩
  | output hkind hfree hstep =>
    have hchange : g.Change (fun _ => False) _ := .output hkind hfree hstep
    exact ⟨hchange.grows, rfl⟩
  | mapping hkind hstep =>
    have hchange : g.Change (fun _ => False) _ := .mapping hkind hstep
    exact ⟨hchange.grows, rfl⟩
  | binding source target => exact absurd rfl (hu source target)

theorem Does.grows (h : u.Does g g') : g.Grows g' := by
  by_cases hu : u.Unbound
  · exact (h.growsUnbound hu).grows
  · simp only [Unbound, not_forall, not_not] at hu
    obtain ⟨source, target, rfl⟩ := hu
    cases h
    exact g.grows_pushBinding source target

end Update

-- =============================================================== steps

/-- No update of the operation makes a binding. -/
def Operation.Unbound (op : Operation) : Prop :=
  ∀ g u, op.MayDo g u → u.Unbound

namespace Build

variable {α : Type} {step : Build α} {op : Operation}

theorem Does.grows (h : step.Does op) : step.Within Graph.Grows :=
  h.within fun _ _ _ _ _ hdoes => hdoes.grows

theorem Does.growsUnbound (h : step.Does op) (hop : op.Unbound) :
    step.Within Graph.GrowsUnbound :=
  h.within fun g₀ u _ _ hu hdoes => hdoes.growsUnbound (hop g₀ u hu)

/-- The port of an output that is declared is new. -/
theorem declares_of_addRouterOutput {router : ComponentId} {name : String}
    {g g' : Graph} {port : RouterPort} {output : OutputPort .io}
    (h : (addRouterOutput router name).on g = (.ok (port, output), g')) :
    g.ports.size ≤ output.port.index
      ∧ g'.Declares output.port ⟨router, name, .output,
        Signal.io.signature⟩ := by
  rw [on_addRouterOutput] at h
  cases hfind : g.findPort? router name with
  | some id => simp [hfind] at h
  | none =>
    simp only [hfind, Option.isSome_none, Bool.false_eq_true, ↓reduceIte] at h
    split at h
    · cases h
    · cases h
      rename_i table _
      have hport : ((g.setTable router table).pushPort _).Declares
          ⟨g.ports.size⟩ ⟨router, name, .output, Signal.io.signature⟩ :=
          .pushPort hfind
      exact ⟨Nat.le_refl _, hport.exists_port, hport.port_eq, hport.found⟩

/-- A window that is refused leaves no binding behind; one that is added is
bound last, from a port that is new. -/
theorem mapWindow_outcome {d : Direction} (router : ComponentId)
    (name : String) (target : Handle d .io) (window : Window) (rebase : Bool)
    (attrs : MappingAttrs) (g : Graph) :
    (∃ fault g', (mapWindow router name target window rebase attrs).on g =
      (.error fault, g')
      ∧ g.GrowsUnbound g')
    ∨ ∃ output g', (mapWindow router name target window rebase attrs).on g =
        (.ok output, g'.pushBinding output.port target.port)
      ∧ g.GrowsUnbound g' ∧ g.ports.size ≤ output.port.index
      ∧ g'.Declares output.port ⟨router, name, .output,
        Signal.io.signature⟩ := by
  rw [on_mapWindow]
  split
  · exact .inl ⟨_, _, rfl, .refl g⟩
  split
  · exact .inl ⟨_, _, rfl, .refl g⟩
  rw [addWindow, on_bind]
  have hout := (addRouterOutput_does router name).growsUnbound
    (by simp [Operation.Unbound, Operation.MayDo, Update.Unbound]) g
  rcases hon : (addRouterOutput router name).on g with ⟨_ | ⟨port, output⟩, g₁⟩
  · rw [hon] at hout
    exact .inl ⟨_, _, rfl, hout⟩
  · obtain ⟨hnew, hport⟩ := declares_of_addRouterOutput hon
    have hmap :=
      (addMapping_does router ⟨window, port, rebase, attrs⟩).growsUnbound
        (by simp [Operation.Unbound, Operation.MayDo, Update.Unbound]) g₁
    rw [hon] at hout
    simp only [on_bind]
    rcases hon' : (addMapping router ⟨window, port, rebase, attrs⟩).on g₁
      with ⟨_ | _, g₂⟩
    · rw [hon'] at hmap
      exact .inl ⟨_, _, rfl, hout.trans hmap⟩
    · rw [hon'] at hmap
      exact .inr ⟨output, g₂, rfl, hout.trans hmap, hnew,
        hmap.grows.declares hport⟩

/-- Two ports that are bound carry the same. -/
theorem bindPorts_outcome (source target : PortId) (g : Graph) :
    ((bindPorts source target).on g).2 = g
    ∨ (g.port source).signature = (g.port target).signature
      ∧ ((bindPorts source target).on g).2 = g.pushBinding source target := by
  rw [on_bindPorts]
  split
  · exact .inl rfl
  split
  · exact .inl rfl
  split
  · exact .inl rfl
  · rename_i hsame
    exact .inr ⟨not_not.1 hsame, rfl⟩

/-- Ports that are bound by their names are found under them. -/
theorem bindByName_outcome (source : ComponentId) (sourcePort : String)
    (target : ComponentId) (targetPort : String) (g : Graph) :
    ((bindByName source sourcePort target targetPort).on g).2 = g
    ∨ ∃ s t, g.findPort? source sourcePort = some s
      ∧ g.findPort? target targetPort = some t
      ∧ (g.port s).signature = (g.port t).signature
      ∧ ((bindByName source sourcePort target targetPort).on g).2 =
        g.pushBinding s t := by
  rw [on_bindByName, Graph.requirePort, Graph.requirePort]
  cases hsource : g.findPort? source sourcePort with
  | none => exact .inl rfl
  | some s =>
    cases htarget : g.findPort? target targetPort with
    | none => exact .inl rfl
    | some t =>
      obtain hsame | ⟨hsame, hon⟩ := bindPorts_outcome s t g
      · exact .inl hsame
      · exact .inr ⟨s, t, rfl, rfl, hsame, hon⟩

end Build

-- ========================================================= operations

namespace Operation

/-- What an operation binds if it binds anything, between the graph it is done
to and the one right before the binding. -/
inductive Binds (g g' : Graph) : Operation → Binding → Prop
  | window {d : Direction} {router : ComponentId} {name : String}
      {target : Handle d .io} {window : Window} {rebase : Bool}
      {attrs : MappingAttrs} {output : PortId}
      (hnew : g.ports.size ≤ output.index)
      (hport : g'.Declares output ⟨router, name, .output,
        Signal.io.signature⟩) :
      Binds g g' (.mapWindow router name target window rebase attrs)
        ⟨output, target.port⟩
  | handles {signal : Signal} {d e : Direction} [d.Source] [e.Sink]
      (source : Handle d signal) (target : Handle e signal) :
      Binds g g' (.bind source target) ⟨source.port, target.port⟩
  | ports {source target : PortId}
      (hsame : (g.port source).signature = (g.port target).signature) :
      Binds g g' (.bindPorts source target) ⟨source, target⟩
  | names {source target : ComponentId} {sourcePort targetPort : String}
      {s t : PortId} (hsource : g.findPort? source sourcePort = some s)
      (htarget : g.findPort? target targetPort = some t)
      (hsame : (g.port s).signature = (g.port t).signature) :
      Binds g g' (.bindByName source sourcePort target targetPort) ⟨s, t⟩

/-- What any operation does to any graph: it grows, and there is at most one
new binding. -/
theorem outcome (op : Operation) (g : Graph) :
    g.GrowsUnbound (op.edit.on g).2
    ∨ ∃ g' b, g.GrowsUnbound g' ∧ op.Binds g g' b
      ∧ (op.edit.on g).2 = g'.pushBinding b.source b.target := by
  cases op with
  | mapWindow router name target window rebase attrs =>
    rw [edit, on_bind]
    obtain ⟨fault, g', hon, hgrows⟩ | ⟨output, g', hon, hgrows, hnew, hport⟩ :=
      Build.mapWindow_outcome router name target window rebase attrs g
    · rw [hon]
      exact .inl hgrows
    · rw [hon]
      exact .inr ⟨g', _, hgrows, .window hnew hport, rfl⟩
  | bind source target =>
    exact .inr ⟨g, _, .refl g, .handles source target, rfl⟩
  | bindPorts source target =>
    rw [edit, snd_on_bind_pure]
    obtain hsame | ⟨hsame, hon⟩ := Build.bindPorts_outcome source target g
    · rw [hsame]
      exact .inl (.refl g)
    · exact .inr ⟨g, _, .refl g, .ports hsame, hon⟩
  | bindByName source sourcePort target targetPort =>
    rw [edit, snd_on_bind_pure]
    obtain hsame | ⟨s, t, hsource, htarget, hsame, hon⟩ :=
      Build.bindByName_outcome source sourcePort target targetPort g
    · rw [hsame]
      exact .inl (.refl g)
    · exact .inr ⟨g, _, .refl g, .names hsource htarget hsame, hon⟩
  -- the others do no update that is a binding
  | _ =>
    refine .inl ((edit_does _).growsUnbound ?_ g)
    simp [Unbound, MayDo, Update.Unbound]

end Operation

end ChipFabric
