/-
Operations that are all or nothing. An edit spares a state if it leaves the
state as it is where it fails. A check spares everything, and so does what is
nothing but checks before the first change; a row of steps spares a state if
its first step does and the others cannot fail any more. So for each operation
that takes several steps it has to be seen that all that could refuse a later
step was asked before the first.

# The steps that follow

A component that was just added has no ports, so its inputs can be declared,
as often as their names are distinct; an output that was asked for in the
table and among the ports can be declared in both; and a window that was free
is free still when its output is declared.

# The statement

`unchanged_of_error`: an operation that fails leaves the graph, and both
directories of a graph with directories, exactly as they were. The one
exception is `addRouterInput`, which declares a port before it looks for the
table.
-/
import ChipFabric.Proofs.Fabric.Directory
import ChipFabric.Proofs.Fabric.Windows

namespace ChipFabric

-- =============================================================== edits

namespace Edit

variable {σ α β : Type} {edit : Edit σ α} {next : α → Edit σ β} {s : σ}

/-- The edit succeeds on the state. -/
def Succeeds (edit : Edit σ α) (s : σ) : Prop := ∃ a, (edit.on s).1 = .ok a

/-- If the edit fails on the state, it leaves it as it is. -/
def Spares (edit : Edit σ α) (s : σ) : Prop :=
  ∀ fault, (edit.on s).1 = .error fault → (edit.on s).2 = s

/-- Steps succeed in a row if each does where the one before it ends. -/
theorem Succeeds.bind (h : edit.Succeeds s)
    (hnext : ∀ a t, edit.on s = (.ok a, t) → (next a).Succeeds t) :
    (edit >>= next).Succeeds s := by
  obtain ⟨a, hok⟩ := h
  rcases hon : edit.on s with ⟨outcome, t⟩
  obtain rfl : outcome = .ok a := by rwa [hon] at hok
  obtain ⟨b, hb⟩ := hnext a t hon
  exact ⟨b, by rw [on_bind, hon, hb]⟩

theorem Spares.pure (a : α) : (Pure.pure a : Edit σ α).Spares s := nofun

theorem Spares.throw (fault : Fault) :
    (MonadExcept.throw fault : Edit σ α).Spares s :=
  fun _ _ => rfl

/-- After a step that spares the state nothing may fail. -/
theorem Spares.bind (h : edit.Spares s)
    (hnext : ∀ a t, edit.on s = (.ok a, t) → (next a).Succeeds t) :
    (edit >>= next).Spares s := by
  intro fault hfault
  rw [on_bind] at hfault ⊢
  rcases hon : edit.on s with ⟨_ | a, t⟩
  · rw [← congrArg Prod.snd hon]
    exact h _ (congrArg Prod.fst hon)
  · obtain ⟨b, hb⟩ := hnext a t hon
    rw [hon, hb] at hfault
    cases hfault

/-- To give back something else cannot fail. -/
theorem Succeeds.bind_pure (h : edit.Succeeds s) (f : α → β) :
    (edit >>= fun a => Pure.pure (f a)).Succeeds s :=
  h.bind fun _ _ _ => ⟨_, rfl⟩

/-- To give something else back does nothing. -/
theorem Spares.bind_pure (h : edit.Spares s) (f : α → β) :
    (edit >>= fun a => Pure.pure (f a)).Spares s :=
  h.bind fun _ _ _ => ⟨_, rfl⟩

/-- A step that is no change leaves it to the next one. -/
theorem Spares.get {next : σ → Edit σ β} (h : (next s).Spares s) :
    (MonadState.get >>= next).Spares s := by
  rwa [Spares, on_bind]

/-- A check that fails comes before anything is done. -/
theorem Spares.check {outcome : Except Fault α}
    (h : ∀ a, outcome = .ok a → (next a).Spares s) :
    (liftM outcome >>= next).Spares s := by
  intro fault hfault
  rw [on_bind, on_liftExcept] at hfault ⊢
  cases outcome with
  | error _ => rfl
  | ok a => exact h a rfl fault hfault

/-- A refusal before the first change. -/
theorem Spares.refuse {c : Prop} [Decidable c] {fault : Fault}
    {rest : Edit σ α} (h : ¬ c → rest.Spares s) :
    (if c then MonadExcept.throw fault else rest).Spares s := by
  by_cases hc : c
  · rw [if_pos hc]
    exact .throw fault
  · rw [if_neg hc]
    exact h hc

/-- What does not fail leaves nothing behind where it fails. -/
theorem Succeeds.spares (h : edit.Succeeds s) : edit.Spares s := by
  obtain ⟨a, hok⟩ := h
  intro fault hfault
  cases hok.symm.trans hfault

end Edit

open Edit

namespace Graph.Indexed

variable {α : Type} {d : Indexed}

-- =============================================================== steps

theorem lift_spares {step : Build α} (h : step.Spares d.graph) :
    (lift step).Spares d :=
  fun fault hfault => congrArg (fun g => { d with graph := g })
    (h fault hfault)

/-- The path is looked up before the component is entered. -/
theorem addComponent_spares (parent : ComponentId) (name : String)
    (kind : ComponentKind) : (addComponent parent name kind).Spares d := by
  refine .get (.refuse fun _ => ?_)
  exact Succeeds.spares ⟨_, rfl⟩

/-- The name is looked up before the port is. -/
theorem declarePort_spares (owner : ComponentId) (name : String)
    (direction : Direction) (signature : String) :
    (declarePort owner name direction signature).Spares d := by
  refine .get (.refuse fun _ => ?_)
  exact Succeeds.spares ⟨_, rfl⟩

theorem declare_spares (owner : ComponentId) (name : String)
    (direction : Direction) (signal : Signal) :
    (declare owner name direction signal).Spares d :=
  (declarePort_spares owner name direction signal.signature).bind_pure _

/-- A port can be declared where the directory has none of its name. -/
theorem declare_succeeds {owner : ComponentId} {name : String}
    (h : d.findPort? owner name = none) (direction : Direction)
    (signal : Signal) : (declare owner name direction signal).Succeeds d := by
  refine ⟨⟨⟨d.graph.ports.size⟩⟩, ?_⟩
  simp [declare, declarePort, on_bind, h]

/-- What is left of a step that follows another one succeeds where that
does. -/
theorem Follows.succeeds {step : Edit Indexed α} {plain : Build α}
    (h : Follows step plain) (hd : d.Consistent)
    (hplain : plain.Succeeds d.graph) : step.Succeeds d := by
  obtain ⟨a, hok⟩ := hplain
  exact ⟨a, by rw [← hok, (h d hd).2]⟩

/-- The component that was added last has no ports. -/
theorem findPort?_of_addComponent (hd : d.Consistent)
    (hclosed : d.graph.Closed) {parent id : ComponentId} {name : String}
    {kind : ComponentKind} {d' : Indexed}
    (hon : (addComponent parent name kind).on d = (.ok id, d'))
    (port : String) : d'.findPort? id port = none := by
  have hnone : d.findPort? ⟨d.graph.components.size⟩ port = none := by
    rw [hd.findPort?_eq]
    exact hclosed.findPort?_eq_none (Nat.le_refl _) port
  cases hlook : d.lookup? (d.graph.path parent ++ "/" ++ name) with
  | some other => simp [addComponent, on_bind, hlook] at hon
  | none =>
    simp only [addComponent, on_bind, on_get, hlook, Option.isSome_none,
      Bool.false_eq_true, ↓reduceIte, on_set, on_pure] at hon
    cases hon
    exact hnone

/-- Once the device is there, its port cannot be refused: a new component has
none. -/
theorem addTerminal_spares (hd : d.Consistent) (hclosed : d.graph.Closed)
    (parent : ComponentId) (name : String) (device : Device) :
    (addTerminal parent name device).Spares d := by
  refine (addComponent_spares parent name (.device device)).bind
    fun id d' hon => ?_
  have hfree := findPort?_of_addComponent hd hclosed hon Router.defaultInput
  exact (declare_succeeds hfree .input .io).bind_pure _

/-- Nor can the ports of a router be whose inputs have different names. -/
theorem addRouter_spares (hd : d.Consistent) (hclosed : d.graph.Closed)
    (parent : ComponentId) {router : Router} (hinputs : router.inputs.Nodup) :
    (addRouter parent router).Spares d := by
  refine (addComponent_spares parent router.name (.router router [])).bind
    fun id d' hon => ?_
  have hd' : d'.Consistent := by
    have hafter :=
      (addComponent_follows parent router.name (.router router []) d hd).1
    rwa [hon] at hafter
  have hports : Follows (router.inputs.forM fun name => do
      let _ ← declarePort id name .input Signal.io.signature)
        (router.inputs.forM fun name => do
      let _ ← Build.declarePort id name .input Signal.io.signature) :=
    .forM (fun name => (declarePort_follows id name .input _).bind fun _ =>
      .pure _) router.inputs
  refine (hports.succeeds hd' ⟨(), ?_⟩).bind_pure _
  rw [Build.on_declareInputs hinputs fun name _ => ?_]
  rw [← hd'.findPort?_eq]
  exact findPort?_of_addComponent hd hclosed hon name

/-- To ask does nothing, whatever the answer. -/
theorem routerInput_spares (router : ComponentId) (name : String) :
    (routerInput router name).Spares d := by
  refine .get (.check fun table _ => ?_)
  cases d.findPort? router name with
  | none => exact .throw _
  | some id =>
    show Spares (ite _ _ _) d
    split
    · exact .pure _
    · exact .throw _

/-- Port and table are asked before either is changed. -/
theorem addRouterOutput_spares (router : ComponentId) (name : String) :
    (addRouterOutput router name).Spares d := by
  refine .get (.refuse fun hfree =>
    .check fun table _ => .check fun made _ => ?_)
  refine Succeeds.spares (.bind ⟨_, rfl⟩ fun _ d' hon => ?_)
  have hfree' : d'.findPort? router name = none := by
    cases hon
    exact Option.not_isSome_iff_eq_none.1 hfree
  exact (declare_succeeds hfree' .output .io).bind fun _ _ _ => ⟨_, rfl⟩

/-- The table refuses a mapping as a whole. -/
theorem addMapping_spares {g : Graph} (router : ComponentId) (m : Mapping) :
    (Build.addMapping router m).Spares g :=
  .get (.check fun _ _ => .check fun _ _ => Succeeds.spares ⟨_, rfl⟩)

/-- Directions and signatures are compared before the ports are bound. -/
theorem bindPorts_spares {g : Graph} (source target : PortId) :
    (Build.bindPorts source target).Spares g :=
  .get (.refuse fun _ => .refuse fun _ => .refuse fun _ =>
    Succeeds.spares ⟨_, rfl⟩)

/-- The window was found to be free, so that its mapping is not refused once
its output is there. -/
theorem mapWindow_spares (hd : d.Consistent) {direction : Direction}
    (router : ComponentId) (name : String) (target : Handle direction .io)
    (window : Window) (rebase : Bool) (attrs : MappingAttrs) :
    (mapWindow router name target window rebase attrs).Spares d := by
  refine .get (.check fun table htable =>
    .check fun _ hwindow => .refuse fun _ => ?_)
  refine (addRouterOutput_spares router name).bind fun made d' hon => ?_
  obtain ⟨-, hplain⟩ := addRouterOutput_follows router name d hd
  rw [hon] at hplain
  obtain ⟨table', exits, hkind, hfree, hname⟩ :=
    Build.free_of_addRouterOutput (congrArg Prod.fst hplain)
  obtain rfl : table' = table :=
    Except.ok.inj
      ((d.graph.router_eq_ok_iff.2 ⟨exits, hkind⟩).symm.trans htable)
  rw [Build.on_addRouterOutput_of_free hkind hfree hname] at hplain
  obtain ⟨rfl, hgraph⟩ : (_ = made) ∧ _ = d'.graph := by simpa using hplain
  refine Succeeds.bind ⟨(), ?_⟩ fun _ _ _ => ⟨_, rfl⟩
  show ((Build.addMapping router _).on d'.graph).1 = .ok ()
  rw [← hgraph, Build.on_addMapping_withOutput hkind hwindow]

/-- Names are searched for before anything is bound. -/
theorem bindByName_spares (source : ComponentId) (sourcePort : String)
    (target : ComponentId) (targetPort : String) :
    (bindByName source sourcePort target targetPort).Spares d :=
  .get (.check fun s _ => .check fun t _ => lift_spares (bindPorts_spares s t))

/-- An operation does to a session what it does to a graph alongside. -/
theorem Alongside.edit_eq {t : Session} (h : d.Alongside t) {op : Operation} :
    op.edit.on t.graph = ((op.indexedEdit.on d).1, (d.after op).graph) := by
  obtain ⟨hconsistent, hgraph⟩ := h.consistent
  rw [← hgraph, (edit_follows op d hconsistent).2, after]

end Graph.Indexed

-- ========================================================== operations

/-- The operation declares an input of a router. -/
def Operation.DeclaresInput : Operation → Prop
  | .addRouterInput _ _ => True
  | _ => False

open Graph.Indexed in
/-- Every other operation spares every graph with directories, if a router that
it adds has no name twice among its inputs. -/
theorem Operation.indexedEdit_spares {op : Operation}
    (hop : ¬ op.DeclaresInput)
    (hmade : ∀ table, op.admits table → table.inputs.Nodup) {d : Graph.Indexed}
    (hd : d.Consistent) (hclosed : d.graph.Closed) :
    op.indexedEdit.Spares d := by
  cases op with
  | addGroup parent name =>
    exact (addComponent_spares parent name .group).bind_pure _
  | addDevice parent name device =>
    exact (addComponent_spares parent name (.device device)).bind_pure _
  | addTerminal parent name device =>
    exact (addTerminal_spares hd hclosed parent name device).bind_pure _
  | addRouter parent router =>
    exact (addRouter_spares hd hclosed parent (hmade router rfl)).bind_pure _
  | declarePort owner name direction signature =>
    exact (declarePort_spares owner name direction signature).bind_pure _
  | declare owner name direction signal =>
    exact (declare_spares owner name direction signal).bind_pure _
  | routerInput router name =>
    exact (routerInput_spares router name).bind_pure _
  | addRouterInput router name => exact absurd trivial hop
  | addRouterOutput router name =>
    exact (addRouterOutput_spares router name).bind_pure _
  | addMapping router mapping =>
    exact (lift_spares (addMapping_spares router mapping)).bind_pure _
  | mapWindow router name target window rebase attrs =>
    exact (mapWindow_spares hd router name target window rebase
      attrs).bind_pure _
  | bind source target => exact Succeeds.spares ⟨_, rfl⟩
  | bindPorts source target =>
    exact (lift_spares (bindPorts_spares source target)).bind_pure _
  | bindByName source sourcePort target targetPort =>
    exact (bindByName_spares source sourcePort target targetPort).bind_pure _

-- ========================================================== statement

namespace Session

/-- An operation that fails, other than the declaration of a router's input,
leaves every reachable graph as it was, and a graph with directories as well:
its components and ports, its bindings, its tables and its directories. -/
theorem unchanged_of_error {t : Session} (ht : t.Reachable) {op : Operation}
    (hop : ¬ op.DeclaresInput) (hmade : ∀ table, op.admits table → table.Made)
    {fault : Fault} (hfault : (op.edit.on t.graph).1 = .error fault) :
    t.after op = t ∧ ∀ d : Graph.Indexed, d.Alongside t →
      (op.indexedEdit.on d).1 = .error fault ∧ d.after op = d := by
  have hspares : ∀ d : Graph.Indexed, d.Alongside t →
      (op.indexedEdit.on d).1 = .error fault ∧ d.after op = d := by
    intro d hd
    have herror : (op.indexedEdit.on d).1 = .error fault := by
      rw [← hfault, hd.edit_eq]
    obtain ⟨hconsistent, hgraph⟩ := hd.consistent
    have hclosed : d.graph.Closed := hgraph ▸ ht.graph.closed
    have hinputs : ∀ table, op.admits table → table.inputs.Nodup :=
      fun table htable => (hmade table htable).sound.inputs_nodup
    exact ⟨herror,
      op.indexedEdit_spares hop hinputs hconsistent hclosed fault herror⟩
  obtain ⟨d, hd⟩ := Graph.Indexed.exists_alongside ht
  obtain ⟨herror, hsame⟩ := hspares d hd
  refine ⟨?_, hspares⟩
  rw [after, hd.edit_eq, herror, hsame, hd.consistent.2]

end Session

/-- A router that was added with an output `a`, which has no port, and a
memory. -/
def takenSession : Session :=
  ((Session.new "top").after (.addRouter Graph.root presetRouter)).after
    (.addTerminal Graph.root "mem" (.memory 0x140 false))

/-- A window to the memory under the name of that output. -/
def takenWindow : Operation :=
  .mapWindow ⟨1⟩ "a" (⟨⟨1⟩⟩ : InputPort .io)
    ⟨0x2000, 0x140, by decide, by decide⟩ true {}

/-- The window is free and no port has the name, so that only the table refuses
it; nothing is left behind. -/
theorem takenWindow_unchanged :
    takenSession.Reachable ∧ ¬ takenWindow.DeclaresInput
      ∧ takenSession.graph.findPort? ⟨1⟩ "a" = none
      ∧ (takenWindow.edit.on takenSession.graph).1 = .error
        (.duplicatePort "r" "a")
      ∧ takenSession.after takenWindow = takenSession
      ∧ ∃ d : Graph.Indexed, d.Alongside takenSession
        ∧ d.after takenWindow = d := by
  have hrun : (Session.new "top").Run takenSession :=
    .step _ (.step _ .none ⟨show 0 < _ by decide, presetRouter_made⟩)
      (show 0 < _ by decide +kernel)
  have hreach : takenSession.Reachable := ⟨"top", hrun⟩
  have hfault : (takenWindow.edit.on takenSession.graph).1 = .error
      (.duplicatePort "r" "a") := by
    decide +kernel
  obtain ⟨hafter, hindexed⟩ := Session.unchanged_of_error hreach id
    (fun _ => False.elim) hfault
  obtain ⟨d, hd⟩ := Graph.Indexed.exists_alongside hreach
  exact ⟨hreach, id, by decide +kernel, hfault, hafter, d, hd,
    (hindexed d hd).2⟩

end ChipFabric
