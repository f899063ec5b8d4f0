/-
Names of siblings. A component may be added under a parent that has no child of
its name: that is the rule, but a graph does not look at the children. It looks
for the path that the new component would get, and a path does not say which of
its slashes stand between names and which stand in one. So there are two ways
to be refused, and only the first is the rule: the parent has a child of that
name (`HasChild`), or a component elsewhere has that path (`Shadows`).

# Where the two agree

A name without a slash is what follows the last slash of the path, so that
components without slashes in their names do not shadow one another
(`Tree.slash_of_shadows`).

# The statement

`siblings_iff`: the four operations that add a component are refused in these
two cases and in no other, and hence keep to the rule exactly if nothing
shadows the new component.
-/
import ChipFabric.Proofs.Fabric.Tree

namespace ChipFabric

open Edit

-- ============================================================== paths

/-- What follows the last slash of a path. -/
def lastName (path : String) : List Char :=
  (path.toList.reverse.takeWhile (· ≠ '/')).reverse

theorem lastName_append_slash {front name : String} (h : '/' ∉ name.toList) :
    lastName (front ++ "/" ++ name) = name.toList := by
  have hplain : ∀ c ∈ name.toList.reverse, decide (c ≠ '/') = true := by
    intro c hc
    rw [decide_eq_true_eq]
    intro hslash
    rw [hslash, List.mem_reverse] at hc
    exact h hc
  rw [lastName, String.toList_append, String.toList_append,
    List.reverse_append, List.reverse_append,
    List.takeWhile_append_of_pos hplain]
  simp

/-- Names without a slash can be told from what stands before them. -/
theorem eq_of_append_slash {front front' name name' : String}
    (h : '/' ∉ name.toList) (h' : '/' ∉ name'.toList)
    (heq : front ++ "/" ++ name = front' ++ "/" ++ name') :
    front = front' ∧ name = name' := by
  have hlast := congrArg lastName heq
  rw [lastName_append_slash h, lastName_append_slash h',
    String.toList_inj] at hlast
  rw [hlast, String.append_left_inj, String.append_left_inj] at heq
  exact ⟨heq, hlast⟩

namespace Graph

variable {g : Graph} {parent : ComponentId} {name : String}

/-- The parent has a child of that name. -/
def HasChild (g : Graph) (parent : ComponentId) (name : String) : Prop :=
  ∃ id ∈ (g.component parent).children, (g.component id).name = name

instance (g : Graph) (parent : ComponentId) (name : String) :
    Decidable (g.HasChild parent name) :=
  inferInstanceAs (Decidable (∃ id ∈ _, _))

/-- The component is not under the parent, but has the path that a child of
that name would have. -/
structure Shadows (g : Graph) (other parent : ComponentId) (name : String) :
    Prop where
  lt_size : other.index < g.components.size
  elsewhere : (g.component other).parent ≠ some parent
  path_eq : g.path other = g.path parent ++ "/" ++ name

-- =========================================================== the tree

theorem Tree.mem_children_iff (h : g.Tree) {id : ComponentId} :
    id ∈ (g.component parent).children ↔
      (g.component id).parent = some parent := by
  rw [← List.count_pos_iff, h.count_children]
  split <;> simp_all

/-- What has the path of a child is the child, or shadows it. -/
theorem Tree.isSome_lookup?_iff (h : g.Tree) :
    (g.lookup? (g.path parent ++ "/" ++ name)).isSome ↔
      g.HasChild parent name ∨ ∃ other, g.Shadows other parent name := by
  rw [Option.isSome_iff_exists]
  simp only [h.lookup?_eq_some_iff]
  constructor
  · intro hfound
    obtain ⟨id, hlt, hpath⟩ := hfound
    by_cases hparent : (g.component id).parent = some parent
    · left
      refine ⟨id, h.mem_children_iff.2 hparent, ?_⟩
      rw [h.path_eq id parent hparent] at hpath
      exact (String.append_right_inj _).1 hpath
    · right
      exact ⟨id, hlt, hparent, hpath⟩
  · intro htaken
    rcases htaken with ⟨id, hid, rfl⟩ | ⟨other, hshadows⟩
    · have hparent := h.mem_children_iff.1 hid
      exact ⟨id, lt_of_parent_eq_some hparent, h.path_eq id parent hparent⟩
    · exact ⟨other, hshadows.lt_size, hshadows.path_eq⟩

/-- A child is not shadowed, since paths are distinct. -/
theorem Tree.not_hasChild_of_shadows (h : g.Tree) {other : ComponentId}
    (hshadows : g.Shadows other parent name) : ¬ g.HasChild parent name := by
  intro hchild
  obtain ⟨id, hid, rfl⟩ := hchild
  have hparent := h.mem_children_iff.1 hid
  have hsame : id = other := by
    apply h.path_injective id other (lt_of_parent_eq_some hparent)
      hshadows.lt_size
    rw [h.path_eq id parent hparent, hshadows.path_eq]
  exact hshadows.elsewhere (hsame ▸ hparent)

/-- No path is shorter than that of the root. -/
theorem Tree.length_root_le (h : g.Tree) (id : ComponentId)
    (hlt : id.index < g.components.size) :
    (g.path root).length ≤ (g.path id).length := by
  -- parents have smaller numbers, so the way up ends, and at the root
  induction hn : id.index using Nat.strongRecOn generalizing id with
  | ind n ih =>
    cases hparent : (g.component id).parent with
    | none =>
      obtain rfl := (h.parent_eq_none_iff id hlt).1 hparent
      exact Nat.le_refl _
    | some above =>
      have habove := h.parent_lt id above hparent
      have hle :=
        ih above.index (hn ▸ habove) above (Nat.lt_trans habove hlt) rfl
      rw [h.path_eq id above hparent, String.length_append,
        String.length_append]
      omega

/-- What shadows a component is not the root, which no path goes on to. -/
theorem Tree.exists_parent_of_shadows (h : g.Tree)
    (hparent : parent.index < g.components.size) {other : ComponentId}
    (hshadows : g.Shadows other parent name) :
    ∃ above, (g.component other).parent = some above := by
  cases habove : (g.component other).parent with
  | some above => exact ⟨above, rfl⟩
  | none =>
    rw [h.parent_eq_none_iff other hshadows.lt_size] at habove
    have hle := h.length_root_le parent hparent
    have hpath := hshadows.path_eq
    rw [habove] at hpath
    rw [hpath, String.length_append, String.length_append] at hle
    have hslash : "/".length = 1 := by decide
    omega

/-- It takes a name with a slash to shadow a component, its own or the
other. -/
theorem Tree.slash_of_shadows (h : g.Tree)
    (hparent : parent.index < g.components.size) {other : ComponentId}
    (hshadows : g.Shadows other parent name) :
    '/' ∈ name.toList ∨ '/' ∈ (g.component other).name.toList := by
  by_contra hplain
  rw [not_or] at hplain
  obtain ⟨above, habove⟩ := h.exists_parent_of_shadows hparent hshadows
  have hpath := hshadows.path_eq
  rw [h.path_eq other above habove] at hpath
  -- both paths end in their names, so what is before them is one parent's path
  obtain ⟨hfront, -⟩ := eq_of_append_slash hplain.2 hplain.1 hpath
  have hlt := Nat.lt_trans (h.parent_lt other above habove) hshadows.lt_size
  have hsame := h.path_injective above parent hlt hparent hfront
  exact hshadows.elsewhere (hsame ▸ habove)

/-- A child that was added is there, however many ports are added after it. -/
theorem SameTree.hasChild_pushChild {g' : Graph} {path : String}
    {kind : ComponentKind} (hparent : parent.index < g.components.size)
    (h : (g.pushChild parent name path kind).SameTree g') :
    g'.HasChild parent name := by
  refine ⟨⟨g.components.size⟩, ?_, ?_⟩
  · rw [h.children_eq, children_pushChild hparent, if_pos rfl]
    exact List.mem_append_right _ (List.mem_singleton_self _)
  · rw [h.name_eq, name_pushChild hparent, if_pos rfl]

end Graph

-- ============================================================== steps

namespace Build

variable {α β : Type} {step : Build α} {g : Graph} {parent : ComponentId}
  {name : String}

theorem sameTree_withInputs (id : ComponentId) (names : List String)
    (g : Graph) : g.SameTree (withInputs id names g) := by
  induction names generalizing g with
  | nil => exact ⟨rfl, fun _ => rfl⟩
  | cons name names ih => exact (Graph.sameTree_pushPort _).trans (ih _)

/-- The step ends as the search for the path does: where that finds something,
with the fault and no change, and where it does not, with the new component. -/
def Adds (step : Build α) (g : Graph) (parent : ComponentId) (name : String) :
    Prop :=
  if (g.lookup? (g.path parent ++ "/" ++ name)).isSome then
    step.on g = (.error (.duplicateComponent (g.path parent ++ "/" ++ name)),
      g)
  else ∃ a kind g', step.on g = (.ok a, g')
    ∧ (g.pushChild parent name (g.path parent ++ "/" ++ name) kind).SameTree g'

theorem Adds.bind_pure (h : step.Adds g parent name) (f : α → β) :
    (step >>= fun a => pure (f a)).Adds g parent name := by
  unfold Adds at h ⊢
  split at h
  · rename_i hlook
    rw [if_pos hlook, on_bind, h]
  · rename_i hlook
    obtain ⟨a, kind, g', hon, hsame⟩ := h
    rw [if_neg hlook, on_bind, hon]
    exact ⟨f a, kind, g', rfl, hsame⟩

theorem addComponent_adds (parent : ComponentId) (name : String)
    (kind : ComponentKind) :
    (addComponent parent name kind).Adds g parent name := by
  unfold Adds
  rw [on_addComponent]
  split
  · rfl
  · exact ⟨_, kind, _, rfl, rfl, fun _ => rfl⟩

theorem addTerminal_adds (h : g.Closed) (parent : ComponentId) (name : String)
    (device : Device) :
    (addTerminal parent name device).Adds g parent name := by
  unfold Adds
  rw [on_addTerminal h]
  split
  · rfl
  · exact ⟨_, .device device, _, rfl, Graph.sameTree_pushPort _⟩

theorem addRouter_adds (h : g.Closed) (parent : ComponentId) {router : Router}
    (hinputs : router.inputs.Nodup) :
    (addRouter parent router).Adds g parent router.name := by
  unfold Adds
  rw [on_addRouter h hinputs]
  split
  · rfl
  · exact ⟨_, .router router [], _, rfl, sameTree_withInputs _ _ _⟩

end Build

-- ========================================================= operations

namespace Operation

/-- The parent and the name of the component that the operation adds. -/
def child? : Operation → Option (ComponentId × String)
  | addGroup parent name => some (parent, name)
  | addDevice parent name _ => some (parent, name)
  | addTerminal parent name _ => some (parent, name)
  | addRouter parent router => some (parent, router.name)
  | _ => none

/-- Nothing is in the way of the ports that are declared for a new component,
so that only its path can be refused. -/
theorem edit_adds {op : Operation} {g : Graph} {parent : ComponentId}
    {name : String} (hchild : op.child? = some (parent, name))
    (hclosed : g.Closed) (hmade : ∀ table, op.admits table → table.Made) :
    op.edit.Adds g parent name := by
  cases op with
  | addGroup above child =>
    cases hchild
    exact (Build.addComponent_adds parent name .group).bind_pure _
  | addDevice above child device =>
    cases hchild
    exact (Build.addComponent_adds parent name (.device device)).bind_pure _
  | addTerminal above child device =>
    cases hchild
    exact (Build.addTerminal_adds hclosed parent name device).bind_pure _
  | addRouter above router =>
    cases hchild
    have hinputs := (hmade router rfl).sound.inputs_nodup
    exact (Build.addRouter_adds hclosed parent hinputs).bind_pure _
  | _ => cases hchild

end Operation

-- ========================================================== statement

namespace Session

variable {t : Session} {op : Operation} {parent : ComponentId} {name : String}

/-- The rule of siblings: the operation is refused as a duplicate exactly if
the parent has a child of that name, and succeeds if it has none. -/
structure KeepsRule (t : Session) (op : Operation) (parent : ComponentId)
    (name : String) : Prop where
  refused_iff :
    (∃ path, (op.edit.on t.graph).1 = .error (.duplicateComponent path)) ↔
      t.graph.HasChild parent name
  succeeds : ¬ t.graph.HasChild parent name →
    ∃ handles, (op.edit.on t.graph).1 = .ok handles

/-- What an operation comes to that adds a component: a fault and nothing else
if its name is taken or it is shadowed, and otherwise the new child. -/
structure SettlesChild (t : Session) (op : Operation) (parent : ComponentId)
    (name : String) : Prop where
  taken : t.graph.HasChild parent name
    ∨ (∃ other, t.graph.Shadows other parent name) →
    (op.edit.on t.graph).1 = .error
      (.duplicateComponent (t.graph.path parent ++ "/" ++ name))
      ∧ t.after op = t
  free : ¬ t.graph.HasChild parent name →
    (∀ other, ¬ t.graph.Shadows other parent name) →
    (∃ handles, (op.edit.on t.graph).1 = .ok handles)
      ∧ (t.after op).graph.HasChild parent name

theorem hasComponent_of_child? (hchild : op.child? = some (parent, name))
    (hallows : t.Allows op) : t.HasComponent parent := by
  cases op with
  | addGroup above child =>
    cases hchild
    exact hallows
  | addDevice above child device =>
    cases hchild
    exact hallows
  | addTerminal above child device =>
    cases hchild
    exact hallows
  | addRouter above router =>
    cases hchild
    exact hallows.1
  | _ => cases hchild

theorem Reachable.settlesChild (ht : t.Reachable)
    (hchild : op.child? = some (parent, name)) (hallows : t.Allows op) :
    t.SettlesChild op parent name := by
  have htree := ht.graph.tree
  have hadds := Operation.edit_adds hchild ht.graph.closed fun _ =>
    made_of_admits hallows
  unfold Build.Adds at hadds
  constructor
  case taken =>
    intro htaken
    rw [if_pos (htree.isSome_lookup?_iff.2 htaken)] at hadds
    rw [after, hadds]
    exact ⟨rfl, rfl⟩
  case free =>
    intro hchild' hshadows
    have hnot :
        ¬ (t.graph.lookup? (t.graph.path parent ++ "/" ++ name)).isSome := by
      rw [htree.isSome_lookup?_iff, not_or, not_exists]
      exact ⟨hchild', hshadows⟩
    rw [if_neg hnot] at hadds
    obtain ⟨handles, kind, g', hon, hsame⟩ := hadds
    rw [after, hon]
    exact ⟨⟨handles, rfl⟩,
      hsame.hasChild_pushChild (hasComponent_of_child? hchild hallows)⟩

/-- An operation that adds a component is refused if its parent has a child of
its name or if it is shadowed. So it keeps to the rule exactly if nothing
shadows it, which without a slash in any name nothing can. -/
theorem siblings_iff (ht : t.Reachable)
    (hchild : op.child? = some (parent, name)) (hallows : t.Allows op) :
    (t.KeepsRule op parent name ↔ ∀ other, ¬ t.graph.Shadows other parent name)
      ∧ t.SettlesChild op parent name
      ∧ ∀ other, t.graph.Shadows other parent name →
        '/' ∈ name.toList ∨ '/' ∈ (t.graph.component other).name.toList := by
  have htree := ht.graph.tree
  have hsettles := ht.settlesChild hchild hallows
  refine ⟨?_, hsettles, ?_⟩
  · constructor
    · intro hrule other hshadows
      have hrefused := (hsettles.taken (.inr ⟨other, hshadows⟩)).1
      have hhas := hrule.refused_iff.1 ⟨_, hrefused⟩
      exact htree.not_hasChild_of_shadows hshadows hhas
    · intro hnone
      constructor
      case refused_iff =>
        constructor
        · intro hrefused
          obtain ⟨path, hpath⟩ := hrefused
          by_contra hfree
          obtain ⟨⟨handles, hok⟩, -⟩ := hsettles.free hfree hnone
          cases hok.symm.trans hpath
        · intro hhas
          exact ⟨_, (hsettles.taken (.inl hhas)).1⟩
      case succeeds => exact fun hfree => (hsettles.free hfree hnone).1
  · intro other
    exact htree.slash_of_shadows (hasComponent_of_child? hchild hallows)

end Session

/-- Two groups, of which the first has a child. -/
def apartSession : Session :=
  (((Session.new "top").after
    (.addGroup Graph.root "a")).after
    (.addGroup Graph.root "b")).after
    (.addGroup ⟨1⟩ "x")

/-- The name that the first group has used is new in the second. -/
theorem apartSession_keepsRule :
    apartSession.Reachable
      ∧ apartSession.Allows (.addTerminal ⟨2⟩ "x" (.memory 0x80 true))
      ∧ apartSession.graph.HasChild ⟨1⟩ "x"
      ∧ apartSession.KeepsRule (.addTerminal ⟨2⟩ "x" (.memory 0x80 true))
        ⟨2⟩ "x"
      ∧ (apartSession.after
        (.addTerminal ⟨2⟩ "x" (.memory 0x80 true))).graph.HasChild
        ⟨2⟩ "x" := by
  have hrun : (Session.new "top").Run apartSession :=
    .step _ (.step _ (.step _ .none
      (show 0 < _ by decide +kernel)) (show 0 < _ by decide +kernel))
      (show 1 < _ by decide +kernel)
  have hreach : apartSession.Reachable := ⟨"top", hrun⟩
  have hallows : apartSession.Allows
      (.addTerminal ⟨2⟩ "x" (.memory 0x80 true)) :=
    show 2 < _ by decide +kernel
  obtain ⟨hiff, hsettles, hslash⟩ := Session.siblings_iff hreach rfl hallows
  have hfour : apartSession.graph.components.size = 4 := by decide +kernel
  have hplain : ∀ i < 4,
    '/' ∉ (apartSession.graph.component ⟨i⟩).name.toList := by decide +kernel
  have hfree : ¬ apartSession.graph.HasChild ⟨2⟩ "x" := by decide +kernel
  have hnone : ∀ other, ¬ apartSession.graph.Shadows other ⟨2⟩ "x" := by
    intro other hshadows
    rcases hslash other hshadows with hname | hother
    · revert hname
      decide
    · exact hplain other.index (hfour ▸ hshadows.lt_size) hother
  exact ⟨hreach, hallows, by decide +kernel, hiff.2 hnone,
    (hsettles.free hfree hnone).2⟩

/-- A group whose name holds a slash, and one whose name is the first part of
that. -/
def slashSession : Session :=
  ((Session.new "top").after (.addGroup Graph.root "a/b")).after
    (.addGroup Graph.root "a")

/-- The second group is empty, and yet it refuses a child of the name that is
the other part. -/
theorem slashSession_not_keepsRule :
    slashSession.Reachable ∧ slashSession.Allows (.addGroup ⟨2⟩ "b")
      ∧ (slashSession.graph.component ⟨2⟩).children = []
      ∧ ((Operation.addGroup ⟨2⟩ "b").edit.on slashSession.graph).1 =
        .error (.duplicateComponent "top/a/b")
      ∧ ¬ slashSession.KeepsRule (.addGroup ⟨2⟩ "b") ⟨2⟩ "b" := by
  have hrun : (Session.new "top").Run slashSession :=
    .step _ (.step _ .none (show 0 < _ by decide +kernel))
      (show 0 < _ by decide +kernel)
  have hfault : ((Operation.addGroup ⟨2⟩ "b").edit.on slashSession.graph).1 =
      .error (.duplicateComponent "top/a/b") := by
    have hpath : slashSession.graph.path ⟨2⟩ ++ "/" ++ "b" = "top/a/b" := by
      decide +kernel
    have htaken : (slashSession.graph.lookup? "top/a/b").isSome := by
      decide +kernel
    simp [Operation.edit, Build.addGroup, Build.on_addComponent, hpath, htaken]
  refine ⟨⟨"top", hrun⟩, show 2 < _ by decide +kernel, by decide +kernel,
    hfault, ?_⟩
  intro hrule
  have hfree : ¬ slashSession.graph.HasChild ⟨2⟩ "b" := by decide +kernel
  exact hfree (hrule.refused_iff.1 ⟨_, hfault⟩)

end ChipFabric
