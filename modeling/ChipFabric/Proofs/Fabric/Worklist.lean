/-
The search for inputs as a loop. A `Search` is a search under way: the ports
that are set aside, each with the number of forward ports on the way to it,
and the inputs found so far. One turn takes the port that was set aside last,
notes the inputs bound to it and sets aside the forward ports. Nothing records
which ports were looked at before; all that stops a search in a circle is the
number of forward ports on the way.

# What the loop computes

What was set aside last is done, with all that comes of it, before anything
that was set aside earlier is looked at again. So a port is to the loop what it
is to `inputsWithin`, with the depth that is left on the way to it: what the
one lists the other finds and goes on (`Ends.of_inputsWithin`), and where the
one lists nothing the other stops (`Ends.of_inputsWithin_eq_none`). Every
search comes to an end, whatever the graph is like, with what `reachableInputs`
says (`ends_start_iff`).
-/
import ChipFabric.Proofs.Fabric.Reaches

namespace ChipFabric.Graph

/-- A search for inputs that is under way. -/
structure Search where
  /-- The ports that are set aside, the next one first, with the number of
  forward ports on the way to each. -/
  pending : List (PortId × Nat)
  found : List PortId

namespace Search

variable {g : Graph}

/-- The search that starts at a port. -/
def start (source : PortId) : Search := ⟨[(source, 0)], []⟩

/-- What a binding from a port of that depth adds to the search. -/
def note (g : Graph) (depth : Nat) (s : Search) (target : PortId) : Search :=
  if g.isForward target then
    { s with pending := (target, depth + 1) :: s.pending }
  else { s with found := s.found ++ [target] }

/-- The loop comes to an end with that outcome. -/
inductive Ends (g : Graph) : Search → Except Fault (List PortId) → Prop
  | done (found : List PortId) : Ends g ⟨[], found⟩ (.ok found)
  | deep {source : PortId} {depth : Nat} {pending : List (PortId × Nat)}
      {found : List PortId} (hdeep : g.ports.size < depth) :
      Ends g ⟨(source, depth) :: pending, found⟩
        (.error (.routingLoop 0 depth))
  | turn {source : PortId} {depth : Nat} {pending : List (PortId × Nat)}
      {found : List PortId} {outcome : Except Fault (List PortId)}
      (hdepth : depth ≤ g.ports.size)
      (hrest : Ends g
        ((g.targets source).foldl (note g depth) ⟨pending, found⟩) outcome) :
      Ends g ⟨(source, depth) :: pending, found⟩ outcome

-- ========================================================== one turn

/-- The bindings of a port add its inputs at the end of what was found, and its
forward ports before what was set aside, the last one first. -/
theorem foldl_note (depth : Nat) (targets : List PortId) (s : Search) :
    targets.foldl (note g depth) s =
      { pending := (targets.filter g.isForward).reverse.map (·, depth + 1)
          ++ s.pending
        found := s.found
          ++ targets.filter fun target => !g.isForward target } := by
  induction targets generalizing s with
  | nil => simp
  | cons target targets ih =>
    rw [List.foldl_cons, ih, note]
    by_cases hforward : g.isForward target
    · simp [hforward]
    · simp [hforward]

/-- A search has one outcome. -/
theorem Ends.unique {s : Search} {outcome other : Except Fault (List PortId)}
    (h : s.Ends g outcome) (h' : s.Ends g other) : outcome = other := by
  induction h with
  | done found =>
    cases h'
    rfl
  | deep hdeep =>
    cases h' with
    | deep _ => rfl
    | turn hdepth _ => exact absurd hdeep (Nat.not_lt.2 hdepth)
  | turn hdepth _ ih =>
    cases h' with
    | deep hdeep => exact absurd hdeep (Nat.not_lt.2 hdepth)
    | turn _ hrest => exact ih hrest

-- ========================================================= whole runs

variable {depth left : Nat} {pending : List (PortId × Nat)}
  {found : List PortId} {outcome : Except Fault (List PortId)}

/-- Of ports set aside one after the other, each of which is done before the
next one, all are done. -/
theorem Ends.of_map_eq (hone : ∀ {source : PortId} {found part : List PortId}
      {pending : List (PortId × Nat)}, g.inputsWithin left source = some part →
      Ends g ⟨pending, found ++ part⟩ outcome →
        Ends g ⟨(source, depth) :: pending, found⟩ outcome)
    {sources : List PortId} {parts : List (List PortId)}
    (hparts : sources.map (g.inputsWithin left) = parts.map some)
    (hrest : Ends g ⟨pending, found ++ parts.flatten⟩ outcome) :
    Ends g ⟨sources.map (·, depth) ++ pending, found⟩ outcome := by
  induction sources generalizing parts found with
  | nil =>
    obtain rfl : parts = [] := List.map_eq_nil_iff.1 hparts.symm
    simpa using hrest
  | cons source sources ih =>
    cases parts with
    | nil => cases hparts
    | cons part parts =>
      obtain ⟨hpart, hparts⟩ := List.cons.inj hparts
      refine hone hpart (ih hparts ?_)
      rwa [List.append_assoc, ← List.flatten_cons]

/-- What `inputsWithin` lists for a port with the depth that is left, the loop
finds before it goes on with what was set aside earlier. -/
theorem Ends.of_inputsWithin (hleft : depth + left = g.ports.size + 1)
    {source : PortId} {part : List PortId}
    (hpart : g.inputsWithin left source = some part)
    (hrest : Ends g ⟨pending, found ++ part⟩ outcome) :
    Ends g ⟨(source, depth) :: pending, found⟩ outcome := by
  induction left generalizing depth source part pending found with
  | zero => cases hpart
  | succ left ih =>
    obtain ⟨further, hfurther, rfl⟩ := inputsWithin_succ_eq_some_iff.1 hpart
    have hnext : depth + 1 + left = g.ports.size + 1 := by omega
    refine .turn (by omega) ?_
    rw [foldl_note]
    refine .of_map_eq (fun hpart hrest => ih hnext hpart hrest) hfurther ?_
    rwa [List.append_assoc]

/-- Of ports set aside one after the other, the loop stops at the first for
which it does. -/
theorem Ends.of_exists_eq_none {fault : Fault}
    (hleft : depth + left = g.ports.size + 1)
    (hone : ∀ {source : PortId} {found : List PortId}
      {pending : List (PortId × Nat)}, g.inputsWithin left source = none →
      Ends g ⟨(source, depth) :: pending, found⟩ (.error fault))
    {sources : List PortId}
    (hnone : ∃ source ∈ sources, g.inputsWithin left source = none) :
    Ends g ⟨sources.map (·, depth) ++ pending, found⟩ (.error fault) := by
  induction sources generalizing found with
  | nil => simp at hnone
  | cons source sources ih =>
    cases hsource : g.inputsWithin left source with
    | none => exact hone hsource
    | some part =>
      refine .of_inputsWithin hleft hsource (ih ?_)
      simpa [hsource] using hnone

/-- Where `inputsWithin` lists nothing for a port with the depth that is left,
the loop stops. -/
theorem Ends.of_inputsWithin_eq_none (hleft : depth + left = g.ports.size + 1)
    {source : PortId} (hnone : g.inputsWithin left source = none) :
    Ends g ⟨(source, depth) :: pending, found⟩
      (.error (.routingLoop 0 (g.ports.size + 1))) := by
  induction left generalizing depth source pending found with
  | zero =>
    obtain rfl : depth = g.ports.size + 1 := hleft
    exact .deep (Nat.lt_succ_self _)
  | succ left ih =>
    obtain ⟨target, htarget, hforward, hdeeper⟩ :=
      exists_onward_of_inputsWithin_eq_none hnone
    have hnext : depth + 1 + left = g.ports.size + 1 := by omega
    refine .turn (by omega) ?_
    rw [foldl_note]
    refine .of_exists_eq_none hnext (fun hnone => ih hnext hnone)
      ⟨target, ?_, hdeeper⟩
    exact List.mem_reverse.2 (List.mem_filter.2 ⟨htarget, hforward⟩)

/-- The loop comes to an end from every port, with the one outcome that
`reachableInputs` gives. -/
theorem ends_start_iff (source : PortId) :
    (start source).Ends g outcome ↔ outcome = g.reachableInputs source := by
  have hleft : 0 + (g.ports.size + 1) = g.ports.size + 1 := Nat.zero_add _
  have hends : (start source).Ends g (g.reachableInputs source) := by
    rw [reachableInputs]
    cases hfound : g.inputsWithin (g.ports.size + 1) source with
    | none => exact .of_inputsWithin_eq_none hleft hfound
    | some found => exact .of_inputsWithin hleft hfound (.done found)
  constructor
  · exact fun h => h.unique hends
  · rintro rfl
    exact hends

end Search

end ChipFabric.Graph
