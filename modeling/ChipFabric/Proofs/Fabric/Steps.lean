/-
What each building step does, as a row of changes. `Build.Ensures` is what is
proved of a step: its changes, and what is true of the graph and of the value
it gave back. `Ensures.bind` puts the steps of a step together, and there is
one lemma for each of the steps that a graph is built with.
-/
import ChipFabric.Fabric.Build.Lemmas
import ChipFabric.Proofs.Fabric.Growth

namespace ChipFabric

open Edit

variable {admits : Router → Prop}

-- =========================================================== handles

/-- The port of a handle exists and has the handle's direction. Its signal is
not part of this: an input of a router that is asked for by name is handed
out without a look at its signature. -/
def Handle.Fits {d : Direction} {s : Signal} (handle : Handle d s)
    (g : Graph) : Prop :=
  handle.port.index < g.ports.size ∧ (g.port handle.port).direction = d

instance {d : Direction} {s : Signal} (handle : Handle d s) (g : Graph) :
    Decidable (handle.Fits g) := inferInstanceAs (Decidable (_ ∧ _))

/-- A handle fits every later graph, since ports stay what they are. -/
theorem Handle.Fits.grows {d : Direction} {s : Signal} {handle : Handle d s}
    {g g' : Graph} (h : handle.Fits g) (hgrows : g.Grows g') :
    handle.Fits g' := by
  obtain ⟨hlt, heq⟩ := hgrows.port_eq handle.port h.1
  exact ⟨hlt, by rw [heq, h.2]⟩

theorem Handle.Fits.changes {d : Direction} {s : Signal} {handle : Handle d s}
    {g g' : Graph} (h : handle.Fits g) (hchanges : g.Changes admits g') :
    handle.Fits g' :=
  h.grows hchanges.grows

-- ====================================================== composition

namespace Build

variable {α β : Type}

/-- The step changes the graph by changes, and what it gives back if it
succeeds satisfies `post` there. -/
def Ensures (admits : Router → Prop) (step : Build α) (g : Graph)
    (post : α → Graph → Prop) : Prop :=
  g.Changes admits (step.on g).2
    ∧ ∀ a, (step.on g).1 = .ok a → post a (step.on g).2

/-- What the first step ensures of its value and its graph, the next one may
start from. -/
theorem Ensures.bind {step : Build α} {next : α → Build β} {g : Graph}
    {mid : α → Graph → Prop} {post : β → Graph → Prop}
    (h : step.Ensures admits g mid)
    (hnext : ∀ a g', g.Changes admits g' → mid a g' →
      (next a).Ensures admits g' post) :
    (step >>= next).Ensures admits g post := by
  obtain ⟨hchanges, hmid⟩ := h
  rw [Ensures, on_bind]
  generalize step.on g = outcome at hchanges hmid
  obtain ⟨_ | a, g'⟩ := outcome
  · exact ⟨hchanges, nofun⟩
  · obtain ⟨hafter, hpost⟩ := hnext a g' hchanges (hmid a rfl)
    exact ⟨hchanges.trans hafter, hpost⟩

theorem Ensures.pure {a : α} {g : Graph} {post : α → Graph → Prop}
    (h : post a g) : (Pure.pure a : Build α).Ensures admits g post := by
  refine ⟨.refl, fun b hb => ?_⟩
  rw [on_pure] at hb ⊢
  cases hb
  exact h

/-- What is ensured may be weakened with the help of the changes that were
made. -/
theorem Ensures.imp {step : Build α} {g : Graph}
    {post post' : α → Graph → Prop} (h : step.Ensures admits g post)
    (himp : ∀ a g', g.Changes admits g' → post a g' → post' a g') :
    step.Ensures admits g post' :=
  ⟨h.1, fun a ha => himp a _ h.1 (h.2 a ha)⟩

/-- A step that leaves the graph as it is has only its value to speak for. -/
theorem Ensures.of_unchanged {step : Build α} {g : Graph}
    {post : α → Graph → Prop} (hsame : (step.on g).2 = g)
    (h : ∀ a, (step.on g).1 = .ok a → post a g) :
    step.Ensures admits g post := by
  rw [Ensures, hsame]
  exact ⟨.refl, h⟩

/-- A step that is refused has changed nothing and has nothing to give. -/
theorem Ensures.of_refused {step : Build α} {g : Graph} {fault : Fault}
    {post : α → Graph → Prop} (hon : step.on g = (.error fault, g)) :
    step.Ensures admits g post :=
  .of_unchanged (by rw [hon]) (by rw [hon]; nofun)

/-- A step that succeeds with one change. -/
theorem Ensures.of_change {step : Build α} {g g' : Graph} {a : α}
    {post : α → Graph → Prop} (hon : step.on g = (.ok a, g'))
    (hchange : g.Change admits g') (h : post a g') :
    step.Ensures admits g post := by
  rw [Ensures, hon]
  refine ⟨.single hchange, fun b hb => ?_⟩
  cases hb
  exact h

/-- What one round keeps, a loop keeps. -/
theorem Ensures.forM {step : α → Build Unit} {values : List α}
    {inv : Graph → Prop}
    (hstep : ∀ a ∈ values, ∀ g, inv g → (step a).Ensures admits g fun _ => inv)
    {g : Graph} (h : inv g) : (values.forM step).Ensures admits g
    fun _ => inv := by
  induction values generalizing g with
  | nil => exact .pure h
  | cons a values ih =>
    obtain ⟨ha, hvalues⟩ := List.forall_mem_cons.1 hstep
    exact (ha g h).bind fun _ g' _ hinv => ih hvalues hinv

-- ============================================================ steps

variable {g : Graph}

/-- A component that is added is looked up under its path below its
parent. -/
theorem addComponent_ensures {parent : ComponentId} {kind : ComponentKind}
    (name : String) (hparent : parent.index < g.components.size)
    (hkind : kind.Fresh admits) :
    (addComponent parent name kind).Ensures admits g fun id g' =>
      g'.lookup? (g.path parent ++ "/" ++ name) = some id
        ∧ (g'.component id).kind = kind := by
  have hon := on_addComponent parent name kind g
  cases hlook : g.lookup? (g.path parent ++ "/" ++ name) with
  | some id =>
    simp only [hlook, Option.isSome_some, ↓reduceIte] at hon
    exact .of_refused hon
  | none =>
    simp only [hlook, Option.isSome_none, Bool.false_eq_true,
      ↓reduceIte] at hon
    refine .of_change hon (.child hparent hlook hkind) ⟨?_, ?_⟩
    · rw [Graph.lookup?_eq_some_iff]
      refine ⟨by simp, ?_, fun other hother => ?_⟩
      · rw [Graph.path, g.component_pushChild_size hparent]
      · rw [g.path_pushChild hother]
        exact g.lookup?_eq_none_iff.1 hlook other hother
    · rw [g.component_pushChild_size hparent]

/-- A port that is declared has its number and is found under its name. -/
theorem declarePort_ensures {owner : ComponentId} (name : String)
    (d : Direction) (signature : String)
    (howner : owner.index < g.components.size) :
    (declarePort owner name d signature).Ensures admits g fun id g' =>
      g'.Declares id ⟨owner, name, d, signature⟩ := by
  have hon := on_declarePort owner name d signature g
  cases hfind : g.findPort? owner name with
  | some id =>
    simp only [hfind, Option.isSome_some, ↓reduceIte] at hon
    exact .of_refused hon
  | none =>
    simp only [hfind, Option.isSome_none, Bool.false_eq_true,
      ↓reduceIte] at hon
    exact .of_change hon (.port howner hfind) (.pushPort hfind)

/-- The handle fits, and its port has the signature of its signal. -/
theorem declare_ensures {owner : ComponentId} (name : String) (d : Direction)
    (s : Signal) (howner : owner.index < g.components.size) :
    (declare owner name d s).Ensures admits g fun handle g' =>
      handle.Fits g' ∧ g'.Declares handle.port ⟨owner, name, d, s.signature⟩ :=
  (declarePort_ensures name d s.signature howner).bind fun _ _ _ hport =>
    .pure ⟨⟨hport.exists_port, congrArg Port.direction hport.port_eq⟩, hport⟩

/-- A device that is added has its input. -/
theorem addTerminal_ensures {parent : ComponentId} (name : String)
    (device : Device) (hparent : parent.index < g.components.size) :
    (addTerminal parent name device).Ensures admits g fun made g' =>
      made.2.Fits g'
      ∧ g'.Declares made.2.port ⟨made.1, Router.defaultInput, .input,
        Signal.io.signature⟩
      ∧ g'.lookup? (g.path parent ++ "/" ++ name) = some made.1
      ∧ (g'.component made.1).kind = .device device := by
  refine (addComponent_ensures name hparent (.device device)).bind
    fun id g₁ _ hid => ?_
  obtain ⟨hlook, hkind⟩ := hid
  have hlt := (g₁.lookup?_eq_some_iff.1 hlook).1
  refine (declare_ensures _ _ _ hlt).bind
    fun input g₂ hchanges hport => .pure ?_
  exact ⟨hport.1, hport.2, hchanges.grows.lookup? hlook,
    hchanges.grows.kind_eq_device hlt hkind⟩

/-- A router that is added is there; the ports of its inputs come after it. -/
theorem addRouter_ensures {parent : ComponentId} {router : Router}
    (hrouter : admits router) (hparent : parent.index < g.components.size) :
    (addRouter parent router).Ensures admits g fun id g' =>
      id.index < g'.components.size := by
  refine (addComponent_ensures _ hparent (.router hrouter)).bind
    fun id g' _ hcomponent => ?_
  have hid := (g'.lookup?_eq_some_iff.1 hcomponent.1).1
  have hports : (router.inputs.forM fun name => do
      let _ ← declarePort id name .input Signal.io.signature).Ensures admits g'
        fun _ g'' => id.index < g''.components.size := by
    refine Ensures.forM (fun name _ g'' hid' => ?_) hid
    refine (declarePort_ensures _ _ _ hid').bind fun _ _ hchanges _ => ?_
    exact .pure (Nat.lt_of_lt_of_le hid' hchanges.size_le)
  exact hports.bind fun _ _ _ hid' => .pure hid'

/-- An input that is asked for is an input, but its signature is not looked
at. -/
theorem routerInput_ensures (router : ComponentId) (name : String) :
    (routerInput router name).Ensures admits g fun handle g' =>
      handle.Fits g' := by
  have hon := on_routerInput router name g
  refine .of_unchanged (by rw [hon]) fun handle hok => ?_
  obtain ⟨-, hfind, hdir⟩ := routerInput_eq_ok_iff.1 hok
  exact ⟨(g.port_of_findPort? hfind).1, hdir⟩

/-- A later input fits as well, since its port comes first. -/
theorem addRouterInput_ensures {router : ComponentId} (name : String)
    (hrouter : router.index < g.components.size) :
    (addRouterInput router name).Ensures admits g fun handle g' =>
      handle.Fits g' := by
  unfold addRouterInput
  refine (declare_ensures name .input .io hrouter).bind
    fun input g' _ hport => ?_
  have hfits := hport.1
  cases htable : g'.router router with
  | error fault =>
    exact .of_unchanged (by simp [on_bind, htable]) (by simp [on_bind, htable])
  | ok table =>
    obtain ⟨exits, hkind⟩ := g'.router_eq_ok_iff.1 htable
    exact .of_change (by simp [on_bind, htable]) (.input name hkind) hfits

/-- Where outputs and exits are in step, the new port is the exit of the new
output. -/
theorem addRouterOutput_ensures {router : ComponentId} (name : String) :
    (addRouterOutput router name).Ensures admits g fun made g' =>
      made.2.Fits g'
      ∧ (g.InStep router → (g'.component router).exit? made.1 =
        some made.2.port) := by
  have hon := on_addRouterOutput router name g
  cases hfind : g.findPort? router name with
  | some id =>
    simp only [hfind, Option.isSome_some, ↓reduceIte] at hon
    exact .of_refused hon
  | none =>
    simp only [hfind, Option.isSome_none, Bool.false_eq_true,
      ↓reduceIte] at hon
    cases htable : g.router router with
    | error fault =>
      simp only [htable, error_bind] at hon
      exact .of_refused hon
    | ok table =>
      obtain ⟨exits, hkind⟩ := g.router_eq_ok_iff.1 htable
      cases hstep : table.declareOutput name with
      | error fault =>
        simp only [htable, ok_bind, hstep] at hon
        exact .of_refused hon
      | ok made =>
        obtain ⟨port, extended⟩ := made
        obtain ⟨-, rfl, -⟩ := Router.declareOutput_eq_ok_iff.1 hstep
        simp only [htable, ok_bind, hstep] at hon
        refine .of_change hon (.output hkind hfind hstep)
          ⟨⟨by simp, ?_⟩, fun hr => ?_⟩
        · show (((g.setTable router extended).pushPort _).port
            ⟨g.ports.size⟩).direction = .output
          rw [← g.ports_setTable router extended, Graph.port_pushPort_size]
        · obtain ⟨table', exits', hkind', -, hlength⟩ := hr
          obtain ⟨rfl, rfl⟩ :=
            ComponentKind.router.inj (hkind.symm.trans hkind')
          have hkind'' := g.kind_pushOutput hkind router extended
            ⟨router, name, .output, Signal.io.signature⟩ ⟨g.ports.size⟩
          rw [if_pos rfl] at hkind''
          simp [Component.exit?_of_kind hkind'', ← hlength]

/-- The new mapping is in the table. -/
theorem addMapping_ensures (router : ComponentId) (m : Mapping) :
    (addMapping router m).Ensures admits g fun _ g' => g'.Maps router m := by
  have hon := on_addMapping router m g
  cases htable : g.router router with
  | error fault =>
    simp only [htable, error_bind] at hon
    exact .of_refused hon
  | ok table =>
    obtain ⟨exits, hkind⟩ := g.router_eq_ok_iff.1 htable
    cases hstep : table.addMapping m with
    | error fault =>
      simp only [htable, ok_bind, hstep] at hon
      exact .of_refused hon
    | ok extended =>
      obtain ⟨-, -, hextended⟩ := Router.addMapping_eq_ok_iff.1 hstep
      simp only [htable, ok_bind, hstep] at hon
      refine .of_change hon (.mapping hkind hstep)
        ⟨extended, ?_, by simp [hextended]⟩
      exact Component.table?_of_kind (g.kind_setTable_self hkind extended)

/-- Where outputs and exits are in step, the new window leads to the
target. -/
theorem addWindow_ensures {d : Direction} (router : ComponentId)
    (name : String) {target : Handle d .io} (window : Window) (rebase : Bool)
    (attrs : MappingAttrs) (htarget : target.Fits g) (hsink : d.isSink) :
    (addWindow router name target window rebase attrs).Ensures admits g
      fun handle g' => handle.Fits g' ∧ (g.InStep router →
        ∃ port, g'.Serves router ⟨window, port, rebase, attrs⟩
          handle.port target.port) := by
  refine (addRouterOutput_ensures name).bind fun made g₁ hchanges₁ hmade => ?_
  refine (addMapping_ensures router _).bind fun _ g₂ hchanges₂ hmaps => ?_
  obtain ⟨hfits, hexit⟩ := hmade
  have hout := hfits.changes hchanges₂
  have hin := htarget.changes (hchanges₁.trans hchanges₂)
  refine .of_change rfl (.binding hout.1 hin.1 ?_ ?_)
    ⟨hout, fun hr => ⟨made.1, ?_⟩⟩
  · rw [hout.2]
    rfl
  · rw [hin.2, hsink]
  · exact ⟨hmaps, hchanges₂.grows.exit? (hexit hr), Array.mem_push_self⟩

/-- The same of a window that was found to be free before. -/
theorem mapWindow_ensures {d : Direction} (router : ComponentId)
    (name : String) {target : Handle d .io} (window : Window) (rebase : Bool)
    (attrs : MappingAttrs) (htarget : target.Fits g) :
    (mapWindow router name target window rebase attrs).Ensures admits g
      fun handle g' => handle.Fits g' ∧ (g.InStep router →
        ∃ port, g'.Serves router ⟨window, port, rebase, attrs⟩
          handle.port target.port) := by
  have hon := on_mapWindow router name target window rebase attrs g
  cases hcheck : g.router router >>= (·.checkFree window) with
  | error fault =>
    simp only [hcheck] at hon
    exact .of_refused hon
  | ok _ =>
    cases hsink : (g.port target.port).direction.isSink with
    | false =>
      simp only [hcheck, hsink, Bool.false_eq_true, not_false_eq_true,
        ↓reduceIte] at hon
      exact .of_refused hon
    | true =>
      simp only [hcheck, hsink, not_true_eq_false, ↓reduceIte] at hon
      rw [Ensures, hon]
      rw [htarget.2] at hsink
      exact addWindow_ensures router name window rebase attrs htarget hsink

/-- Handles say enough to bind their ports without a check. -/
theorem bind_ensures {d e : Direction} {s : Signal} [d.Source] [e.Sink]
    {source : Handle d s} {target : Handle e s} (hsource : source.Fits g)
    (htarget : target.Fits g) :
    (Build.bind source target).Ensures admits g fun _ g' =>
      ⟨source.port, target.port⟩ ∈ g'.bindings := by
  refine .of_change rfl (.binding hsource.1 htarget.1 ?_ ?_)
    Array.mem_push_self
  · rw [hsource.2, Direction.Source.isSource]
  · rw [htarget.2, Direction.Sink.isSink]

/-- Two ports that exist are bound once they were found to fit. -/
theorem bindPorts_ensures {source target : PortId}
    (hsource : source.index < g.ports.size)
    (htarget : target.index < g.ports.size) :
    (bindPorts source target).Ensures admits g fun _ g' =>
      ⟨source, target⟩ ∈ g'.bindings := by
  have hon := on_bindPorts source target g
  split at hon
  · exact .of_refused hon
  · split at hon
    · exact .of_refused hon
    · split at hon
      · exact .of_refused hon
      · rename_i hissues hreceives _
        rw [not_not] at hissues hreceives
        exact .of_change hon (.binding hsource htarget hissues hreceives)
          Array.mem_push_self

/-- The ports that were found under the names are bound. -/
theorem bindByName_ensures (source : ComponentId) (sourcePort : String)
    (target : ComponentId) (targetPort : String) :
    (bindByName source sourcePort target targetPort).Ensures admits g
      fun _ g' => ∃ s t, g.findPort? source sourcePort = some s
        ∧ g.findPort? target targetPort = some t
        ∧ ⟨s, t⟩ ∈ g'.bindings := by
  rw [Ensures, on_bindByName]
  simp only [Graph.requirePort]
  cases hsource : g.findPort? source sourcePort with
  | none => exact ⟨.refl, nofun⟩
  | some sourceId =>
    cases htarget : g.findPort? target targetPort with
    | none => exact ⟨.refl, nofun⟩
    | some targetId =>
      have hports : (bindPorts sourceId targetId).Ensures admits g fun _ g' =>
          ⟨sourceId, targetId⟩ ∈ g'.bindings :=
        bindPorts_ensures (g.port_of_findPort? hsource).1
          (g.port_of_findPort? htarget).1
      exact ⟨hports.1, fun a ha => ⟨sourceId, targetId, rfl, rfl,
        hports.2 a ha⟩⟩

end Build

end ChipFabric
