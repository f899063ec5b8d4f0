/-
What following a port says, and what it counts. A way is a chain of bindings
that ends at an input, and several ways may end at one input. Whoever follows a
port asks for its inputs, but what is counted are the ways: an input that two
bindings lead to is not found to be the only one.

# The statement

`Tells count` says that all answers of `follow` are right if there are that
many of what is counted. `tells_ways`: they always are for the ways, and they
are for the inputs if and only if no two ways end at the same input.
-/
import ChipFabric.Proofs.Fabric.Chains

namespace ChipFabric

namespace Graph

variable {g : Graph} {source : PortId} {found : List PortId} {count : ℕ∞}

/-- The ways from a port: chains of bindings, each with the input at its
end. -/
def ways (g : Graph) (source : PortId) : Set (List Nat × PortId) :=
  {way | g.Chain source way.1 way.2 ∧ (g.port way.2).direction = .input}

/-- The inputs that a port leads to. -/
def inputs (g : Graph) (source : PortId) : Set PortId :=
  Prod.snd '' g.ways source

/-- The answers of `follow` are right by that count: for one it gives the
input, for none and for several the fault that says so. -/
structure Tells (g : Graph) (source : PortId) (count : ℕ∞) : Prop where
  one : ∀ input, g.follow source = .ok input ↔ count = 1
    ∧ input ∈ g.inputs source
  none : ∀ component port, g.follow source = .error
    (.unboundPort component port) ↔
    count = 0 ∧ component = g.path (g.port source).owner
      ∧ port = (g.port source).name
  several : ∀ component port n, g.follow source = .error
    (.ambiguousBinding component port n) ↔
    (2 ≤ n ∧ count = n) ∧ component = g.path (g.port source).owner
      ∧ port = (g.port source).name

-- ========================================================== the search

/-- The ways are the chains that the search goes along. -/
theorem Reachable.mem_ways_iff (hg : g.Reachable) {depth : Nat}
    (hfound : g.inputsWithin depth source = some found)
    {way : List Nat × PortId} :
    way ∈ g.ways source ↔ way ∈ g.chainsWithin depth source := by
  refine Iff.trans ?_ (mem_chainsWithin_iff_chain hfound).symm
  refine and_congr_right fun hchain => ⟨fun hinput => ?_, fun hend => ?_⟩
  · rw [isForward, hinput]
    rfl
  · have hmem : way ∈ g.chainsWithin depth source :=
      (mem_chainsWithin_iff_chain hfound).2 ⟨hchain, hend⟩
    refine (hg.isInput_of_mem hfound ?_).2
    rw [← map_snd_chainsWithin hfound]
    exact List.mem_map_of_mem hmem

/-- The search lists the inputs. -/
theorem Reachable.mem_inputs_iff (hg : g.Reachable)
    (hfound : g.reachableInputs source = .ok found) {input : PortId} :
    input ∈ g.inputs source ↔ input ∈ found := by
  rw [reachableInputs_eq_ok_iff] at hfound
  rw [inputs, Set.mem_image, ← map_snd_chainsWithin hfound, List.mem_map]
  simp only [hg.mem_ways_iff hfound]

/-- It lists one for each way. -/
theorem Reachable.encard_ways (hg : g.Reachable)
    (hfound : g.reachableInputs source = .ok found) :
    (g.ways source).encard = found.length := by
  rw [reachableInputs_eq_ok_iff] at hfound
  have hset : g.ways source =
      (g.chainsWithin (g.ports.size + 1) source).toFinset := by
    ext way
    rw [hg.mem_ways_iff hfound, List.coe_toFinset, Set.mem_ofPred]
  rw [hset, Set.encard_coe_eq_coe_finsetCard, List.toFinset_card_of_nodup
    (g.nodup_chainsWithin _ _), ← map_snd_chainsWithin hfound, List.length_map]

-- ========================================================== the answer

/-- What `follow` makes of what is listed. -/
theorem follow_of_reachableInputs :
    g.reachableInputs source = .ok found → g.follow source = match found with
      | [] => .error (.unboundPort (g.path (g.port source).owner)
          (g.port source).name)
      | [only] => .ok only
      | _ => .error (.ambiguousBinding (g.path (g.port source).owner)
          (g.port source).name found.length) := by
  intro hfound
  rw [follow, hfound]
  rcases found with _ | ⟨_, _ | _⟩ <;> rfl

/-- The answers are right by the length of what is listed. -/
theorem Reachable.tells_length (hg : g.Reachable)
    (hfound : g.reachableInputs source = .ok found) :
    g.Tells source found.length := by
  have hfollow := follow_of_reachableInputs hfound
  have hmem : ∀ input, input ∈ g.inputs source ↔ input ∈ found :=
    fun _ => hg.mem_inputs_iff hfound
  constructor
  case one =>
    intro input
    rw [hfollow, hmem, Nat.cast_eq_one]
    rcases found with _ | ⟨only, _ | _⟩ <;> simp [eq_comm]
  case none =>
    intro component port
    rw [hfollow, Nat.cast_eq_zero]
    rcases found with _ | ⟨only, _ | _⟩ <;> simp [eq_comm]
  case several =>
    intro component port n
    rw [hfollow, Nat.cast_inj]
    rcases found with _ | ⟨first, _ | ⟨second, rest⟩⟩ <;> grind

/-- The answers are right by no other count. -/
theorem Tells.eq_length (h : g.Tells source count)
    (hfound : g.reachableInputs source = .ok found) :
    count = found.length := by
  have hfollow := follow_of_reachableInputs hfound
  rcases found with _ | ⟨only, _ | ⟨second, rest⟩⟩
  · exact ((h.none _ _).1 hfollow).1
  · exact ((h.one _).1 hfollow).1
  · exact ((h.several _ _ _).1 hfollow).1.2

-- ========================================================== statement

/-- In a reachable graph, from a port that leads to no circle, the answers of
`follow` are right by the number of ways. They are right by the number of
inputs if and only if no two ways end at the same input. -/
theorem tells_ways (hg : g.Reachable) (hcircle : ¬ g.LeadsToCircle source) :
    g.Tells source (g.ways source).encard
      ∧ (g.Tells source (g.inputs source).encard ↔
        ∀ input chain other, (chain, input) ∈ g.ways source →
          (other, input) ∈ g.ways source →
          chain = other) := by
  obtain ⟨found, hfound⟩ := hg.exists_reachableInputs_iff.2 hcircle
  have hways := hg.encard_ways hfound
  refine ⟨hways ▸ hg.tells_length hfound, ?_⟩
  have hfinite : (g.ways source).Finite := Set.finite_of_encard_eq_coe hways
  have hcount : g.Tells source (g.inputs source).encard ↔
      (g.inputs source).encard = (g.ways source).encard := by
    rw [hways]
    exact ⟨fun h => h.eq_length hfound, fun h => h ▸ hg.tells_length hfound⟩
  rw [hcount]
  constructor
  · intro hsame input chain other hchain hother
    have hinj := hfinite.injOn_of_encard_image_eq hsame
    exact (Prod.mk.inj (hinj hchain hother rfl)).1
  · intro hone
    refine Set.InjOn.encard_image fun way hway other hother hsame => ?_
    refine Prod.ext (hone way.2 way.1 other.1 hway ?_) hsame
    rwa [hsame]

end Graph

/-- An output that is bound to an input and, by a forward port, to another
one. -/
def forkSession : Session :=
  (((((((Session.new "top").after
    (.declarePort Graph.root "out" .output Signal.io.signature)).after
    (.declarePort Graph.root "near" .input Signal.io.signature)).after
    (.declarePort Graph.root "door" .forward Signal.io.signature)).after
    (.declarePort Graph.root "far" .input Signal.io.signature)).after
    (.bindPorts ⟨0⟩ ⟨1⟩)).after
    (.bindPorts ⟨0⟩ ⟨2⟩)).after
    (.bindPorts ⟨2⟩ ⟨3⟩)

/-- There are two inputs and one way to each of them. -/
theorem forkSession_tells :
    forkSession.graph.Reachable ∧ ¬ forkSession.graph.LeadsToCircle ⟨0⟩
      ∧ forkSession.graph.inputs ⟨0⟩ = {⟨1⟩, ⟨3⟩}
      ∧ (forkSession.graph.ways ⟨0⟩).encard = 2
      ∧ forkSession.graph.follow ⟨0⟩ = .error (.ambiguousBinding "top" "out" 2)
      ∧ forkSession.graph.Tells ⟨0⟩ (forkSession.graph.inputs ⟨0⟩).encard
      ∧ ∀ chain other, (chain, ⟨1⟩) ∈ forkSession.graph.ways ⟨0⟩ →
        (other, ⟨1⟩) ∈ forkSession.graph.ways ⟨0⟩ → chain = other := by
  have hrun : (Session.new "top").Run forkSession :=
    .step _ (.step _ (.step _ (.step _ (.step _ (.step _ (.step _ .none
      (show 0 < _ by decide +kernel)) (show 0 < _ by decide +kernel))
      (show 0 < _ by decide +kernel)) (show 0 < _ by decide +kernel))
      ⟨show 0 < _ by decide +kernel, show 1 < _ by decide +kernel⟩)
      ⟨show 0 < _ by decide +kernel, show 2 < _ by decide +kernel⟩)
      ⟨show 2 < _ by decide +kernel, show 3 < _ by decide +kernel⟩
  have hreach : forkSession.graph.Reachable := ⟨_, ⟨"top", hrun⟩, rfl⟩
  have hfound : forkSession.graph.reachableInputs ⟨0⟩ = .ok [⟨1⟩, ⟨3⟩] := by
    decide +kernel
  have hfollow : forkSession.graph.follow ⟨0⟩ = .error
      (.ambiguousBinding "top" "out" 2) := by
    decide +kernel
  have hcircle := hreach.exists_reachableInputs_iff.1 ⟨_, hfound⟩
  have hinputs : forkSession.graph.inputs ⟨0⟩ = {⟨1⟩, ⟨3⟩} := by
    ext input
    rw [hreach.mem_inputs_iff hfound]
    simp
  obtain ⟨hways, hiff⟩ := Graph.tells_ways hreach hcircle
  have htwo : (forkSession.graph.ways ⟨0⟩).encard = 2 :=
    ((hways.several _ _ _).1 hfollow).1.2
  have htells : forkSession.graph.Tells ⟨0⟩
      (forkSession.graph.inputs ⟨0⟩).encard := by
    rw [hinputs, Set.encard_pair (by decide), ← htwo]
    exact hways
  exact ⟨hreach, hcircle, hinputs, htwo, hfollow, htells, hiff.1 htells ⟨1⟩⟩

/-- An output that is bound to the input of a memory, twice. -/
def doubledSession : Session :=
  ((((Session.new "top").after
    (.declare Graph.root "out" .output .io)).after
    (.addTerminal Graph.root "mem" (.memory 0x100 false))).after
    (.bindPorts ⟨0⟩ ⟨1⟩)).after
    (.bindPorts ⟨0⟩ ⟨1⟩)

/-- There is one input, which two ways lead to, and so it is not found. -/
theorem doubledSession_not_tells :
    doubledSession.graph.Reachable ∧ ¬ doubledSession.graph.LeadsToCircle ⟨0⟩
      ∧ doubledSession.graph.inputs ⟨0⟩ = {⟨1⟩}
      ∧ doubledSession.graph.follow ⟨0⟩ = .error
        (.ambiguousBinding "top" "out" 2)
      ∧ ¬ doubledSession.graph.Tells ⟨0⟩
        (doubledSession.graph.inputs ⟨0⟩).encard := by
  have hrun : (Session.new "top").Run doubledSession :=
    .step _ (.step _ (.step _ (.step _ .none
      (show 0 < _ by decide +kernel)) (show 0 < _ by decide +kernel))
      ⟨show 0 < _ by decide +kernel, show 1 < _ by decide +kernel⟩)
      ⟨show 0 < _ by decide +kernel, show 1 < _ by decide +kernel⟩
  have hreach : doubledSession.graph.Reachable := ⟨_, ⟨"top", hrun⟩, rfl⟩
  have hfound : doubledSession.graph.reachableInputs ⟨0⟩ = .ok [⟨1⟩, ⟨1⟩] := by
    decide +kernel
  have hfollow : doubledSession.graph.follow ⟨0⟩ = .error
      (.ambiguousBinding "top" "out" 2) := by
    decide +kernel
  have hinputs : doubledSession.graph.inputs ⟨0⟩ = {⟨1⟩} := by
    ext input
    rw [hreach.mem_inputs_iff hfound]
    simp
  have hcircle := hreach.exists_reachableInputs_iff.1 ⟨_, hfound⟩
  refine ⟨hreach, hcircle, hinputs, hfollow, fun htells => ?_⟩
  have hone : (doubledSession.graph.inputs ⟨0⟩).encard = 2 :=
    ((htells.several _ _ _).1 hfollow).1.2
  rw [hinputs, Set.encard_singleton] at hone
  exact absurd hone (by decide)

end ChipFabric
