/-
Single hops and rows of hops. A hop fails because the component is no router,
because its table has no window for the address, or because what leaves by
the mapping's output arrives nowhere that could go on with it; which of
these, `hop_eq` says in one equation. `Leads` is a row of hops from router
to router, and `routeWithin_succ` peels one hop off a route.
-/
import ChipFabric.Edit
import ChipFabric.Fabric.Graph.Lemmas
import ChipFabric.Fabric.Route

namespace ChipFabric.Graph

variable {g : Graph}

/-- What is beyond an output is the owner of the input that its exit is
followed to, if that goes on with the access or answers it. -/
theorem beyond_eq_ok_iff {router : Component} {port : RouterPort}
    {next : ComponentId} :
    g.beyond router port = .ok next ↔
      ∃ exit input, router.exit? port = some exit
      ∧ g.follow exit = .ok input ∧ (g.port input).owner = next
      ∧ ((g.component next).isRouter ∨ (g.component next).isTerminal) := by
  rw [beyond]
  cases hexit : router.exit? port with
  | none => simp
  | some exit =>
    cases hfollow : g.follow exit with
    | error fault => simp [hfollow]
    | ok input =>
      simp only [hfollow, ok_bind, Option.some.injEq, exists_and_left,
        exists_eq_left', Except.ok.injEq]
      constructor
      · intro h
        split at h
        · rename_i hgoes
          obtain rfl := Except.ok.inj h
          exact ⟨rfl, hgoes⟩
        · cases h
      · rintro ⟨rfl, hgoes⟩
        rw [if_pos hgoes]
        rfl

/-- A hop from a router, as far as its table and the bindings take it. -/
theorem hop_eq {r : ComponentId} {table : Router}
    (htable : (g.component r).table? = some table) (addr : Nat) :
    g.hop r addr =
      match table.mappingAt? addr with
      | none => .error (.unmappedAddress table.name addr)
      | some m => (g.beyond (g.component r) m.port).map fun next =>
          ({ router := g.path r
             mapping := m
             addrIn := addr
             addrOut := m.forward addr }, next) := by
  have hrouter : g.router r = .ok table := by rw [router, htable]
  cases hat : table.mappingAt? addr with
  | none => simp [hop, hrouter, Router.resolve, hat]
  | some m =>
    cases hbeyond : g.beyond (g.component r) m.port with
    | error fault => simp [hop, hrouter, Router.resolve, hat, hbeyond]
    | ok next =>
      simp [hop, hrouter, Router.resolve, hat, hbeyond, pure, Except.pure]

/-- The hop of an address that a window holds. -/
def hopOf (g : Graph) (r : ComponentId) (m : Mapping) (addr : Nat) : Hop where
  router := g.path r
  mapping := m
  addrIn := addr
  addrOut := m.forward addr

/-- A hop succeeds if a window holds the address and there is something beyond
its output. -/
theorem hop_eq_ok_iff {r next : ComponentId} {addr : Nat} {step : Hop} :
    g.hop r addr = .ok (step, next) ↔
      ∃ table m, (g.component r).table? = some table
      ∧ table.mappingAt? addr = some m
      ∧ g.beyond (g.component r) m.port = .ok next
      ∧ g.hopOf r m addr = step := by
  cases htable : (g.component r).table? with
  | none => simp [hop, router, htable]
  | some table =>
    rw [hop_eq htable]
    cases hat : table.mappingAt? addr with
    | none => simp [hat]
    | some m =>
      cases hbeyond : g.beyond (g.component r) m.port
        <;> simp [hat, hbeyond, hopOf, and_comm]

/-- One hop of a route; then the route ends, or another router goes on. -/
theorem routeWithin_succ (issued hops : Nat) (r : ComponentId) (addr : Nat) :
    g.routeWithin issued (hops + 1) r addr =
      match g.hop r addr with
      | .error fault => .error fault
      | .ok (step, next) =>
        if (g.component next).isRouter then
          (g.routeWithin issued hops next step.addrOut).map fun onward =>
            { onward with hops := step :: onward.hops }
        else .ok {
          target := next
          targetPath := g.path next
          localAddr := step.addrOut
          hops := [step]
          attrs := step.mapping.attrs } := by
  rw [routeWithin]
  cases g.hop r addr with
  | error fault => rfl
  | ok taken =>
    obtain ⟨step, next⟩ := taken
    by_cases hrouter : (g.component next).isRouter
    · cases hon : g.routeWithin issued hops next step.addrOut <;>
        simp [hrouter, hon, pure, Except.pure]
    · simp [hrouter, pure, Except.pure]

/-- A row of hops takes an address at one router to an address at another;
the hops are those of the routers in between, in their order. -/
inductive Leads (g : Graph) : ComponentId → Nat → List Hop → ComponentId →
    Nat → Prop
  | here (r : ComponentId) (addr : Nat) : Leads g r addr [] r addr
  | hop {r next r' : ComponentId} {addr addr' : Nat} {step : Hop}
      {hops : List Hop} (hhop : g.hop r addr = .ok (step, next))
      (hnext : (g.component next).isRouter)
      (h : Leads g next step.addrOut hops r' addr') :
      Leads g r addr (step :: hops) r' addr'

end ChipFabric.Graph
