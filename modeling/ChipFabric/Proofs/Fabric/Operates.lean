/-
Steps that are rows of operations. `step.Operates s post` says that what the
step does to the graph of a session, a row of operations could have done, with
the components that are there and the handles that were handed out; `post` is
true of what the step gives back and of the session after it. There is a rule
for each operation that a builder of clusters has a use for.
-/
import ChipFabric.Proofs.Fabric.Outside

namespace ChipFabric

open Edit

namespace Session

variable {s t : Session}

/-- A handle that was handed out once can be used for good. -/
theorem Run.mem_issued (h : s.Run t) {handle : Issued}
    (hmem : handle ∈ s.issued) : handle ∈ t.issued := by
  induction h with
  | none => exact hmem
  | @step t op _ _ ih =>
    rw [after]
    rcases op.edit.on t.graph with ⟨_ | handles, g'⟩
    · exact ih
    · exact List.mem_append_left _ ih

/-- A component that is there stays there. -/
theorem Run.hasComponent (h : s.Run t) {id : ComponentId}
    (hid : s.HasComponent id) : t.HasComponent id :=
  Nat.lt_of_lt_of_le hid h.grows.size_le

end Session

namespace Build

variable {α β : Type} {s : Session}

/-- The step leaves the graph of a session that operations lead to. -/
def Operates (step : Build α) (s : Session) (post : α → Session → Prop) :
    Prop :=
  ∃ t, s.Run t ∧ t.graph = (step.on s.graph).2
    ∧ ∀ a, (step.on s.graph).1 = .ok a → post a t

-- ====================================================== composition

/-- To give something back takes no operation. -/
theorem Operates.pure {a : α} {post : α → Session → Prop} (h : post a s) :
    (Pure.pure a : Build α).Operates s post := by
  refine ⟨s, .none, rfl, fun b hb => ?_⟩
  obtain rfl := Except.ok.inj hb
  exact h

/-- The second row of operations goes on from the session that the first one
led to, and is not begun where the first step fails. -/
theorem Operates.bind {step : Build α} {next : α → Build β}
    {mid : α → Session → Prop} {post : β → Session → Prop}
    (h : step.Operates s mid)
    (hnext : ∀ a t, s.Run t → mid a t → (next a).Operates t post) :
    (step >>= next).Operates s post := by
  obtain ⟨t, hrun, hgraph, hmid⟩ := h
  rw [Operates, on_bind]
  generalize step.on s.graph = outcome at hgraph hmid
  obtain ⟨_ | a, g'⟩ := outcome
  · exact ⟨t, hrun, hgraph, nofun⟩
  · obtain rfl : t.graph = g' := hgraph
    obtain ⟨u, hrun', hgraph', hpost⟩ := hnext a t hrun (hmid a rfl)
    exact ⟨u, hrun.trans hrun', hgraph', hpost⟩

/-- In a loop each round may rely on what was there before the loop. -/
theorem Operates.forM {step : α → Build Unit} {values : List α}
    (h : ∀ a ∈ values, ∀ t, s.Run t → (step a).Operates t fun _ _ => True) :
    (values.forM step).Operates s fun _ _ => True := by
  induction values generalizing s with
  | nil => exact .pure trivial
  | cons a values ih =>
    obtain ⟨ha, hvalues⟩ := List.forall_mem_cons.1 h
    exact (ha s .none).bind fun _ t hrun _ =>
      ih fun b hb u hrun' => hvalues b hb u (hrun.trans hrun')

/-- An operation is a step that gives back something else beside its
handles. -/
theorem Operates.of_operation {step : Build α} (op : Operation)
    {handles : α → List Issued} {post : α → Session → Prop}
    (hallows : s.Allows op)
    (hedit : op.edit = step >>= fun a => Pure.pure (handles a))
    (hpost : ∀ a t,
      (step.on s.graph).1 = .ok a → t.graph = (step.on s.graph).2 →
      handles a ⊆ t.issued → post a t) : step.Operates s post := by
  have hgraph : (s.after op).graph = (step.on s.graph).2 := by
    rw [Session.graph_after, hedit, on_bind]
    rcases step.on s.graph with ⟨_ | a, g'⟩ <;> rfl
  refine ⟨s.after op, .step op .none hallows,
    hgraph, fun a hok => hpost a _ hok hgraph ?_⟩
  have hissued : (s.after op).issued = s.issued ++ handles a := by
    rw [Session.after, hedit, on_bind]
    generalize step.on s.graph = outcome at hok
    obtain ⟨result, g'⟩ := outcome
    obtain rfl : result = .ok a := hok
    rfl
  rw [hissued]
  exact List.subset_append_right _ _

/-- The handle that an operation hands out can be used from then on. -/
theorem Operates.of_handle {step : Build α} (op : Operation)
    {handle : α → Issued} (hallows : s.Allows op)
    (hedit : op.edit = step >>= fun a => Pure.pure [handle a]) :
    step.Operates s fun a t => handle a ∈ t.issued :=
  .of_operation op hallows hedit
    fun _ _ _ _ hissued => hissued (List.mem_singleton_self _)

-- ============================================================ rules

/-- Whatever kind of component an operation adds, it is there afterwards. -/
theorem addComponent_operates {parent : ComponentId} {name : String}
    {kind : ComponentKind} (op : Operation) (hparent : s.HasComponent parent)
    (hkind : kind.Fresh Router.Made) (hallows : s.Allows op)
    (hedit : op.edit =
      addComponent parent name kind >>= fun _ => Pure.pure []) :
    (addComponent parent name kind).Operates s
      fun id t => t.HasComponent id := by
  refine .of_operation op hallows hedit fun id t hok hgraph _ => ?_
  obtain ⟨hlook, -⟩ := (addComponent_ensures name hparent hkind).2 id hok
  rw [← hgraph] at hlook
  exact (t.graph.lookup?_eq_some_iff.1 hlook).1

theorem addGroup_operates {parent : ComponentId} (name : String)
    (hparent : s.HasComponent parent) :
    (addGroup parent name).Operates s fun id t => t.HasComponent id :=
  addComponent_operates (.addGroup parent name) hparent .group hparent rfl

theorem addDevice_operates {parent : ComponentId} (name : String)
    (device : Device) (hparent : s.HasComponent parent) :
    (addDevice parent name device).Operates s fun id t => t.HasComponent id :=
  addComponent_operates (.addDevice parent name device) hparent
    (.device device) hparent rfl

/-- A router may be added if it can be made, and is a component like any
other then. -/
theorem addRouter_operates {parent : ComponentId} {router : Router}
    (hparent : s.HasComponent parent) (hrouter : router.Made) :
    (addRouter parent router).Operates s fun id t => t.HasComponent id := by
  refine .of_operation (.addRouter parent router) ⟨hparent, hrouter⟩ rfl
    fun id t hok hgraph _ => ?_
  have hlt := (addRouter_ensures hrouter hparent).2 id hok
  rwa [← hgraph] at hlt

/-- Only the input of the device is needed of it, not its number. -/
theorem addTerminal_operates {parent : ComponentId} (name : String)
    (device : Device) (hparent : s.HasComponent parent) :
    (addTerminal parent name device).Operates s
      fun made t => made.2.issued ∈ t.issued :=
  .of_handle (.addTerminal parent name device) hparent rfl

theorem declare_operates {owner : ComponentId} (name : String) (d : Direction)
    (signal : Signal) (howner : s.HasComponent owner) :
    (declare owner name d signal).Operates s
      fun handle t => handle.issued ∈ t.issued :=
  .of_handle (.declare owner name d signal) howner rfl

theorem routerInput_operates {router : ComponentId} (name : String)
    (hrouter : s.HasComponent router) :
    (routerInput router name).Operates s
      fun handle t => handle.issued ∈ t.issued :=
  .of_handle (.routerInput router name) hrouter rfl

theorem addRouterInput_operates {router : ComponentId} (name : String)
    (hrouter : s.HasComponent router) :
    (addRouterInput router name).Operates s
      fun handle t => handle.issued ∈ t.issued :=
  .of_handle (.addRouterInput router name) hrouter rfl

/-- A window may lead to every port that was handed out, and its own output is
handed out in turn. -/
theorem mapWindow_operates {d : Direction} {router : ComponentId}
    (name : String) {target : Handle d .io} (window : Window) (rebase : Bool)
    (attrs : MappingAttrs) (hrouter : s.HasComponent router)
    (htarget : target.issued ∈ s.issued) :
    (mapWindow router name target window rebase attrs).Operates s
      fun handle t => handle.issued ∈ t.issued :=
  .of_handle (.mapWindow router name target window rebase attrs)
    ⟨hrouter, htarget⟩ rfl

/-- Two ports that were handed out may be bound. -/
theorem bind_operates {d e : Direction} {signal : Signal} [d.Source] [e.Sink]
    {source : Handle d signal} {target : Handle e signal}
    (hsource : source.issued ∈ s.issued)
    (htarget : target.issued ∈ s.issued) :
    (Build.bind source target).Operates s fun _ _ => True :=
  .of_operation (.bind source target) ⟨hsource, htarget⟩ rfl
    fun _ _ _ _ _ => trivial

end Build

end ChipFabric
