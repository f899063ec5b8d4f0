/-
What the type of a handle promises. A handle of a direction and a signal
stands for a port of that direction that carries that signal; two handles are
bound without another look at their ports. Every operation that declares a
port keeps the promise. One hands out a port that it did not declare: an
input of a router is asked for by its name, and what is found under the name
has to be an input, but may carry anything. `Session.Stray` are the ports that
were handed out so and do not carry what their handle says.

# The statement

`wellTyped_iff`: in every reachable session, all handles and bindings are what
their types say if and only if no port is stray. Bindings always run from a
port that issues to one that receives, and both carry the same unless the
target is stray. The inputs in the table of a router, the default one among
them, are never stray; an input that was declared on a router as on any
component may be, and `irq_not_wellTyped` is a session where it is handed out
and bound.

# The history

That a port was asked for is a fact about the way to a session. `Asked` keeps
the session where it happened; what was found there is there still, since the
graph only grows.
-/
import ChipFabric.Proofs.Fabric.Inputs
import ChipFabric.Proofs.Fabric.Operates

namespace ChipFabric

open Edit

-- =========================================================== handles

/-- The port of a handle carries the handle's signal. -/
def Handle.Carries {d : Direction} {s : Signal} (handle : Handle d s)
    (g : Graph) : Prop :=
  (g.port handle.port).signature = s.signature

instance {d : Direction} {s : Signal} (handle : Handle d s) (g : Graph) :
    Decidable (handle.Carries g) := inferInstanceAs (Decidable (_ = _))

theorem Handle.Carries.grows {d : Direction} {s : Signal} {handle : Handle d s}
    {g g' : Graph} (h : handle.Carries g)
    (hport : handle.port.index < g.ports.size) (hgrows : g.Grows g') :
    handle.Carries g' := by
  unfold Carries
  rw [(hgrows.port_eq handle.port hport).2]
  exact h

namespace Build

theorem declare_carries {owner : ComponentId} {name : String} {d : Direction}
    {s : Signal} {g g' : Graph} {handle : Handle d s}
    (h : (declare owner name d s).on g = (.ok handle, g')) :
    handle.Carries g' := by
  rw [on_declare] at h
  split at h
  · cases h
  · cases h
    exact congrArg Port.signature (g.port_pushPort_size _)

theorem addTerminal_carries {parent id : ComponentId} {name : String}
    {device : Device} {g g' : Graph} {input : InputPort .io}
    (h : (addTerminal parent name device).on g = (.ok (id, input), g')) :
    input.Carries g' := by
  obtain ⟨_, g₁, -, hdeclare⟩ := on_bind_eq_ok_iff.1 h
  obtain ⟨_, hon, heq⟩ := on_bind_pure_eq_ok_iff.1 hdeclare
  cases heq
  exact declare_carries hon

/-- What becomes of the table is nothing to the port. -/
theorem addRouterInput_carries {router : ComponentId} {name : String}
    {g g' : Graph} {input : InputPort .io}
    (h : (addRouterInput router name).on g = (.ok input, g')) :
    input.Carries g' := by
  rw [on_addRouterInput] at h
  split at h
  · cases h
  · simp only at h
    split at h
    · cases h
    · cases h
      exact congrArg Port.signature (g.port_pushPort_size _)

end Build

/-- The handles that an operation hands out carry what they say, but for an
input that it was asked for. -/
theorem Operation.carries_or_asked {op : Operation} {g g' : Graph}
    {handles : List Issued} (hon : op.edit.on g = (.ok handles, g'))
    {h : Issued} (hmem : h ∈ handles) :
    h.handle.Carries g' ∨ ∃ router name, ∃ input : InputPort .io,
      op = .routerInput router name
      ∧ ((Build.routerInput router name).on g).1 = .ok input
      ∧ h = input.issued := by
  cases op with
  | addTerminal parent name device =>
    obtain ⟨⟨id, input⟩, hstep, rfl⟩ := on_bind_pure_eq_ok_iff.1 hon
    obtain rfl := List.mem_singleton.1 hmem
    exact .inl (Build.addTerminal_carries hstep)
  | declare owner name d signal =>
    obtain ⟨handle, hstep, rfl⟩ := on_bind_pure_eq_ok_iff.1 hon
    obtain rfl := List.mem_singleton.1 hmem
    exact .inl (Build.declare_carries hstep)
  | routerInput router name =>
    obtain ⟨input, hstep, rfl⟩ := on_bind_pure_eq_ok_iff.1 hon
    obtain rfl := List.mem_singleton.1 hmem
    exact .inr ⟨router, name, input, rfl, by rw [hstep], rfl⟩
  | addRouterInput router name =>
    obtain ⟨input, hstep, rfl⟩ := on_bind_pure_eq_ok_iff.1 hon
    obtain rfl := List.mem_singleton.1 hmem
    exact .inl (Build.addRouterInput_carries hstep)
  | addRouterOutput router name =>
    obtain ⟨⟨port, output⟩, hstep, rfl⟩ := on_bind_pure_eq_ok_iff.1 hon
    obtain rfl := List.mem_singleton.1 hmem
    exact .inl (congrArg Port.signature
      (Build.declares_of_addRouterOutput hstep).2.port_eq)
  | mapWindow router name target window rebase attrs =>
    obtain ⟨output, hstep, rfl⟩ := on_bind_pure_eq_ok_iff.1 hon
    obtain rfl := List.mem_singleton.1 hmem
    obtain ⟨fault, g₁, hfail, -⟩ | ⟨made, g₁, hmade, -, -, hport⟩ :=
      Build.mapWindow_outcome router name target window rebase attrs g
    · rw [hfail] at hstep
      cases hstep
    · rw [hmade] at hstep
      cases hstep
      exact .inl (congrArg Port.signature hport.port_eq)
  | _ =>
    obtain ⟨_, -, rfl⟩ := on_bind_pure_eq_ok_iff.1 hon
    cases hmem

-- =========================================================== history

namespace Session

variable {s t : Session}

/-- On the way to the session, the port was asked for as the input of that
name of a router. -/
def Asked (t : Session) (router : ComponentId) (name : String)
    (input : InputPort .io) : Prop :=
  ∃ s : Session, s.Reachable ∧ s.Allows (.routerInput router name)
    ∧ ((Build.routerInput router name).on s.graph).1 = .ok input
    ∧ (s.after (.routerInput router name)).Run t

/-- The port was handed out as an input for reads and writes, which it does
not carry. -/
def Stray (t : Session) (id : PortId) : Prop :=
  (∃ router name, t.Asked router name ⟨id⟩)
    ∧ (t.graph.port id).signature ≠ Signal.io.signature

variable {router : ComponentId} {name : String} {input : InputPort .io}

/-- The port that was found is found under its name ever after, and the
component is a router. -/
theorem Asked.found (h : t.Asked router name input) :
    t.graph.findPort? router name = some input.port
      ∧ ∃ table, (t.graph.component router).table? = some table := by
  obtain ⟨s, -, -, hok, hrun⟩ := h
  obtain ⟨⟨table, htable⟩, hfind, -⟩ := Build.routerInput_eq_ok_iff.1 hok
  have hgrows : s.graph.Grows t.graph := by
    have hop := Operation.edit_grows (.routerInput router name) s.graph
    rw [← graph_after] at hop
    exact hop.trans hrun.grows
  refine ⟨hgrows.findPort? hfind, ?_⟩
  obtain ⟨exits, hkind⟩ := s.graph.router_eq_ok_iff.1 htable
  obtain ⟨table', exits', hkind', -⟩ := hgrows.kind_router hkind
  exact ⟨table', Component.table?_of_kind hkind'⟩

/-- The handle was handed out. -/
theorem Asked.mem_issued (h : t.Asked router name input) :
    input.issued ∈ t.issued := by
  obtain ⟨s, -, -, hok, hrun⟩ := h
  apply hrun.mem_issued
  rw [after, Operation.edit, on_bind]
  generalize (Build.routerInput router name).on s.graph = outcome at hok
  obtain ⟨result, g'⟩ := outcome
  obtain rfl : result = .ok input := hok
  exact List.mem_append_right _ (List.mem_singleton_self _)

theorem Stray.after {id : PortId} (h : t.Stray id) {op : Operation}
    (hallows : t.Allows op) : (t.after op).Stray id := by
  obtain ⟨⟨router, name, hasked⟩, hsignature⟩ := h
  have hport := (t.graph.port_of_findPort? hasked.found.1).1
  obtain ⟨s, hs, hask, hok, hrun⟩ := hasked
  refine ⟨⟨router, name, s, hs, hask, hok, .step op hrun hallows⟩, ?_⟩
  rw [graph_after, ((op.edit_grows t.graph).port_eq id hport).2]
  exact hsignature

/-- A handle is handed out before the operation or by it. -/
theorem mem_issued_after {op : Operation} {h : Issued}
    (hmem : h ∈ (t.after op).issued) :
    h ∈ t.issued
    ∨ ∃ handles, op.edit.on t.graph = (.ok handles, (t.after op).graph)
      ∧ h ∈ handles := by
  rw [after] at hmem ⊢
  rcases hon : op.edit.on t.graph with ⟨_ | handles, g'⟩
  · rw [hon] at hmem
    exact .inl hmem
  · rw [hon] at hmem
    exact (List.mem_append.1 hmem).imp_right fun hnew => ⟨handles, rfl, hnew⟩

/-- The handle carries what it says, or it was asked for and its port is
stray. -/
def Holds (t : Session) (h : Issued) : Prop :=
  h.handle.Carries t.graph
    ∨ (h.direction = .input ∧ h.signal = .io ∧ t.Stray h.handle.port)

theorem Holds.after {h : Issued} (hholds : t.Holds h)
    (hfits : h.handle.Fits t.graph) {op : Operation} (hallows : t.Allows op) :
    (t.after op).Holds h := by
  rcases hholds with hcarries | ⟨hdirection, hsignal, hstray⟩
  · left
    rw [graph_after]
    exact hcarries.grows hfits.1 (op.edit_grows _)
  · exact .inr ⟨hdirection, hsignal, hstray.after hallows⟩

/-- Handles of every reachable session. -/
theorem Reachable.holds (ht : t.Reachable) : ∀ h ∈ t.issued, t.Holds h := by
  obtain ⟨root, hrun⟩ := ht
  induction hrun with
  | none => nofun
  | @step t op hrun hallows ih =>
    have ht : t.Reachable := ⟨root, hrun⟩
    intro h hmem
    rcases mem_issued_after hmem with hold | ⟨handles, hon, hnew⟩
    · exact (ih h hold).after (ht.changes.2 h hold) hallows
    · obtain hcarries | ⟨router, name, input, rfl, hok, rfl⟩ :=
        Operation.carries_or_asked hon hnew
      · exact .inl hcarries
      · by_cases hsignature : input.Carries
          (t.after (.routerInput router name)).graph
        · exact .inl hsignature
        · exact .inr ⟨rfl, rfl, ⟨router, name, t, ht, hallows, hok, .none⟩,
            hsignature⟩

-- ========================================================== bindings

/-- The ends of a binding carry the same, unless it ends at a stray port. -/
def Matches (t : Session) (b : Binding) : Prop :=
  (t.graph.port b.source).signature = (t.graph.port b.target).signature
    ∨ t.Stray b.target

theorem Matches.after {b : Binding} (h : t.Matches b)
    (hsource : t.HasPort b.source) (htarget : t.HasPort b.target)
    {op : Operation} (hallows : t.Allows op) : (t.after op).Matches b := by
  rcases h with hsame | hstray
  · left
    rw [graph_after, ((op.edit_grows _).port_eq b.source hsource).2,
      ((op.edit_grows _).port_eq b.target htarget).2]
    exact hsame
  · exact .inr (hstray.after hallows)

/-- Handles of one signal match, if the first one may start a binding. -/
theorem Holds.matches {d e : Direction} {signal : Signal} [hd : d.Source]
    {source : Handle d signal} {target : Handle e signal}
    (hsource : t.Holds source.issued) (htarget : t.Holds target.issued) :
    t.Matches ⟨source.port, target.port⟩ := by
  rcases hsource with hsource | ⟨hinput, -, -⟩
  · rcases htarget with htarget | ⟨-, -, hstray⟩
    · exact .inl (hsource.trans htarget.symm)
    · exact .inr hstray
  · -- an input is no source
    have hissues := hd.isSource
    rw [show d = .input from hinput] at hissues
    cases hissues

/-- A new binding matches, because of what was known of the two ends. -/
theorem matches_of_binds (ht : t.Reachable) {op : Operation}
    (hallows : t.Allows op) {g' : Graph} {b : Binding}
    (hbinds : op.Binds t.graph g' b)
    (hon : (op.edit.on t.graph).2 = g'.pushBinding b.source b.target) :
    (t.after op).Matches b := by
  have hafter : ∀ h ∈ t.issued, (t.after op).Holds h :=
    fun h hmem => (ht.holds h hmem).after (ht.changes.2 h hmem) hallows
  cases hbinds with
  | @window d router name target window rebase attrs output hnew hport =>
    have houtput :
        (t.after (.mapWindow router name target window rebase attrs)).Holds
        (⟨output⟩ : OutputPort .io).issued := by
      left
      rw [graph_after, hon]
      exact congrArg Port.signature hport.port_eq
    exact houtput.matches (hafter target.issued hallows.2)
  | handles source target =>
    exact (hafter source.issued hallows.1).matches
      (hafter target.issued hallows.2)
  | ports hsame => exact Matches.after (.inl hsame) hallows.1 hallows.2 hallows
  | names hsource htarget hsame =>
    refine Matches.after (.inl hsame) ?_ ?_ hallows
    · exact (t.graph.port_of_findPort? hsource).1
    · exact (t.graph.port_of_findPort? htarget).1

/-- Bindings of every reachable session. -/
theorem Reachable.matches (ht : t.Reachable) : ∀ b ∈ t.graph.bindings,
    t.Matches b := by
  obtain ⟨root, hrun⟩ := ht
  induction hrun with
  | none => exact fun b hb => by cases hb; contradiction
  | @step t op hrun hallows ih =>
    have ht : t.Reachable := ⟨root, hrun⟩
    have hold : ∀ b ∈ t.graph.bindings, (t.after op).Matches b := fun b hb =>
      have hends := ht.graph.closed.ends b hb
      (ih b hb).after hends.1 hends.2 hallows
    obtain hunbound | ⟨g', b, hunbound, hbinds, hon⟩ := op.outcome t.graph
    · rw [graph_after, hunbound.bindings_eq]
      exact hold
    · intro b' hb'
      rw [graph_after, hon] at hb'
      rcases Array.mem_push.1 hb' with hb' | rfl
      · rw [hunbound.bindings_eq] at hb'
        exact hold b' hb'
      · exact matches_of_binds ht hallows hbinds hon

end Session

/-- Bindings start at ports that may issue and end at ports that may
receive. -/
theorem Graph.Reachable.directed {g : Graph} (hg : g.Reachable) :
    ∀ b ∈ g.bindings, (g.port b.source).direction.isSource
      ∧ (g.port b.target).direction.isSink := by
  refine (hg.invariant (P := fun g => g.Closed ∧ ∀ b ∈ g.bindings,
    (g.port b.source).direction.isSource ∧ (g.port b.target).direction.isSink)
      ?_ ?_).2
  · exact fun root => ⟨.new root, fun b hb => by cases hb; contradiction⟩
  · rintro g g' ⟨hclosed, hdirected⟩ hchange
    refine ⟨hclosed.change hchange, ?_⟩
    have hold : ∀ b ∈ g.bindings,
        (g'.port b.source).direction.isSource
          ∧ (g'.port b.target).direction.isSink := by
      intro b hb
      obtain ⟨hsource, htarget⟩ := hclosed.ends b hb
      rw [(hchange.port_eq hsource).2, (hchange.port_eq htarget).2]
      exact hdirected b hb
    cases hchange with
    | binding _ _ hissues hreceives =>
      intro b hb
      rcases Array.mem_push.1 hb with hb | rfl
      · exact hold b hb
      · exact ⟨hissues, hreceives⟩
    | _ => exact hold

/-- Every router has its default input. -/
theorem Router.Made.defaultInput_mem {router : Router} (h : router.Made) :
    Router.defaultInput ∈ router.inputs := by
  induction h with
  | new name bandwidth => exact List.mem_singleton_self _
  | withInput name _ ih => exact mem_inputs_withInput.2 (.inl ih)
  | declareOutput _ hstep ih =>
    obtain ⟨-, -, rfl⟩ := declareOutput_eq_ok_iff.1 hstep
    exact ih
  | addMapping _ hstep ih =>
    obtain ⟨-, -, rfl⟩ := addMapping_eq_ok_iff.1 hstep
    exact ih

namespace Session

variable {t : Session} {router : ComponentId} {name : String}
  {input : InputPort .io}

/-- What is asked for under the name of an input of the table is not stray. -/
theorem Asked.not_stray (h : t.Asked router name input) (ht : t.Reachable)
    (hname : name ∈ t.graph.inputsOf router) : ¬ t.Stray input.port := by
  rintro ⟨-, hsignature⟩
  obtain ⟨id, hid⟩ := ht.inputsDeclared router name hname
  obtain rfl : input.port = id :=
    Option.some.inj (h.found.1.symm.trans hid.found)
  exact hsignature (congrArg Port.signature hid.port_eq)

theorem Asked.defaultInput_mem (h : t.Asked router name input)
    (ht : t.Reachable) : Router.defaultInput ∈ t.graph.inputsOf router := by
  obtain ⟨table, htable⟩ := h.found.2
  obtain ⟨exits, hkind⟩ := Component.exists_kind_of_table? htable
  rw [Graph.inputsOf_of_table? htable]
  exact (ht.graph.made hkind).defaultInput_mem

/-- Handles and bindings are what their types say: a handle stands for a port
of its direction that carries its signal, and a binding leads from a port that
may issue to one that may receive and carries the same. -/
structure WellTyped (t : Session) : Prop where
  handles : ∀ h ∈ t.issued, h.handle.Fits t.graph ∧ h.handle.Carries t.graph
  bindings : ∀ b ∈ t.graph.bindings, t.HasPort b.source ∧ t.HasPort b.target
    ∧ (t.graph.port b.source).direction.isSource
    ∧ (t.graph.port b.target).direction.isSink
    ∧ (t.graph.port b.source).signature = (t.graph.port b.target).signature

end Session

-- ======================================================== statements

/-- A reachable session is well typed if and only if no port is stray. Whether
it is or not, handles have the direction they say and all but those of stray
ports carry what they say; bindings have both ends and lead the right way, and
all but those to stray ports join what is the same; and an input in the table
of a router, such as its default input, is not stray. -/
theorem wellTyped_iff {t : Session} (ht : t.Reachable) :
    (t.WellTyped ↔ ∀ id, ¬ t.Stray id)
    ∧ (∀ h ∈ t.issued, h.handle.Fits t.graph ∧ t.Holds h)
    ∧ (∀ b ∈ t.graph.bindings, t.HasPort b.source ∧ t.HasPort b.target
      ∧ (t.graph.port b.source).direction.isSource
      ∧ (t.graph.port b.target).direction.isSink
      ∧ t.Matches b)
    ∧ ∀ router name input, t.Asked router name input →
      name = Router.defaultInput ∨ name ∈ t.graph.inputsOf router →
        ¬ t.Stray input.port := by
  have hhandles : ∀ h ∈ t.issued, h.handle.Fits t.graph ∧ t.Holds h :=
    fun h hmem => ⟨ht.changes.2 h hmem, ht.holds h hmem⟩
  have hbindings : ∀ b ∈ t.graph.bindings, t.HasPort b.source
    ∧ t.HasPort b.target
    ∧ (t.graph.port b.source).direction.isSource
    ∧ (t.graph.port b.target).direction.isSink
    ∧ t.Matches b := by
    intro b hb
    obtain ⟨hsource, htarget⟩ := ht.graph.closed.ends b hb
    obtain ⟨hissues, hreceives⟩ := ht.graph.directed b hb
    exact ⟨hsource, htarget, hissues, hreceives, ht.matches b hb⟩
  refine ⟨⟨fun hwell id hstray => ?_, fun hnone =>
    ⟨fun h hmem => ?_, fun b hb => ?_⟩⟩,
    hhandles, hbindings, fun router name input hasked hname => ?_⟩
  · obtain ⟨⟨router, name, hasked⟩, hsignature⟩ := hstray
    exact hsignature (hwell.handles _ hasked.mem_issued).2
  · obtain ⟨hfits, hcarries | ⟨-, -, hstray⟩⟩ := hhandles h hmem
    · exact ⟨hfits, hcarries⟩
    · exact absurd hstray (hnone _)
  · obtain ⟨hsource, htarget, hissues, hreceives, hsame | hstray⟩ :=
      hbindings b hb
    · exact ⟨hsource, htarget, hissues, hreceives, hsame⟩
    · exact absurd hstray (hnone _)
  · rcases hname with rfl | hname
    · exact hasked.not_stray ht (hasked.defaultInput_mem ht)
    · exact hasked.not_stray ht hname

/-- A router with an input `irq` for one bit beside its default one, of which
one is asked for by its name. -/
def askedSession (name : String) : Session :=
  ((((Session.new "top").after (.addRouter Graph.root (.new "r" 8))).after
    (.declare ⟨1⟩ "irq" .input .wire)).after
    (.declare Graph.root "out" .output .io)).after
    (.routerInput ⟨1⟩ name)

/-- An output for reads and writes is bound to what was handed out. -/
def boundSession (name : String) (input : InputPort .io) : Session :=
  (askedSession name).after (.bind (⟨⟨2⟩⟩ : OutputPort .io) input)

theorem boundSession_reachable {name : String} {input : InputPort .io}
    (hout : (⟨⟨2⟩⟩ : OutputPort .io).issued ∈ (askedSession name).issued)
    (hinput : input.issued ∈ (askedSession name).issued) :
    (boundSession name input).Reachable := by
  have hrun : (Session.new "top").Run (askedSession name) :=
    .step _ (.step _ (.step _ (.step _
      .none ⟨show 0 < _ by decide, .new "r" 8⟩)
      (show 1 < _ by decide +kernel)) (show 0 < _ by decide +kernel))
      (show 1 < _ by decide +kernel)
  exact ⟨"top", .step _ hrun ⟨hout, hinput⟩⟩

/-- The default input carries reads and writes. -/
theorem defaultInput_wellTyped :
    (boundSession Router.defaultInput ⟨⟨0⟩⟩).Reachable
      ∧ (boundSession Router.defaultInput ⟨⟨0⟩⟩).WellTyped
      ∧ ∀ id, ¬ (boundSession Router.defaultInput ⟨⟨0⟩⟩).Stray id := by
  have hreach : (boundSession Router.defaultInput ⟨⟨0⟩⟩).Reachable :=
    boundSession_reachable (by decide +kernel) (by decide +kernel)
  have hwell : (boundSession Router.defaultInput ⟨⟨0⟩⟩).WellTyped :=
    ⟨by decide +kernel, by decide +kernel⟩
  exact ⟨hreach, hwell, (wellTyped_iff hreach).1.1 hwell⟩

/-- The input `irq` carries one bit, and is handed out and bound all the
same. -/
theorem irq_not_wellTyped :
    (boundSession "irq" ⟨⟨1⟩⟩).Reachable
      ∧ (⟨⟨1⟩⟩ : InputPort .io).issued ∈ (boundSession "irq" ⟨⟨1⟩⟩).issued
      ∧ ⟨⟨2⟩, ⟨1⟩⟩ ∈ (boundSession "irq" ⟨⟨1⟩⟩).graph.bindings
      ∧ ((boundSession "irq" ⟨⟨1⟩⟩).graph.port ⟨2⟩).signature =
        Signal.io.signature
      ∧ ((boundSession "irq" ⟨⟨1⟩⟩).graph.port ⟨1⟩).signature =
        Signal.wire.signature
      ∧ ¬ (boundSession "irq" ⟨⟨1⟩⟩).WellTyped := by
  have hissued : (⟨⟨1⟩⟩ : InputPort .io).issued ∈
      (boundSession "irq" ⟨⟨1⟩⟩).issued := by
    decide +kernel
  have hnot : ¬ (⟨⟨1⟩⟩ : InputPort .io).Carries
      (boundSession "irq" ⟨⟨1⟩⟩).graph := by
    decide +kernel
  exact ⟨boundSession_reachable (by decide +kernel) (by decide +kernel),
    hissued, by decide +kernel, by decide +kernel, by decide +kernel,
    fun hwell => hnot (hwell.handles _ hissued).2⟩

end ChipFabric
