/-
Routes as rows of single hops. `Graph.Passes` is one hop, said by what there
is and not by how it is looked for: a mapping of the router whose window holds
the address, an exit for the mapping's output, and the input that the exit is
followed to. A `Graph.Trail` is a row of such hops from router to router, each
entered at the address that the one before forwarded.

# Along a trail

Hops are taken off a route at its front (`Trail.routeWithin`), so all there is
to say about a route is what the hop after a trail does: it ends at a device,
it finds no window, or the hops have run out. The other way, a route that
ends at a device was a trail and one more hop (`exists_trail_of_routeWithin`).

# What the hops forward

Each hop forwards the address it was entered at less the base of its window,
or as it is, and the window holds the address, so nothing is taken off that
is not there. Along a trail the bases of the rebasing hops add up
(`Trail.addr_eq`).
-/
import ChipFabric.Proofs.Fabric.Follow
import ChipFabric.Proofs.Fabric.Tree
import ChipFabric.Proofs.Fabric.Validation
import Mathlib.Algebra.Ring.Nat

namespace ChipFabric

-- ============================================================== hops

/-- What the hop takes off the address. -/
def Hop.shift (step : Hop) : Nat :=
  if step.mapping.rebase then step.mapping.window.base else 0

/-- What the hops take off the address together: the bases of the windows of
those that rebase. -/
def Hop.shifts (hops : List Hop) : Nat := (hops.map Hop.shift).sum

namespace Graph

variable {g : Graph} {r next : ComponentId} {addr : Nat} {step : Hop}

/-- One hop: a mapping of the router holds the address, and the input that is
followed from the exit of its output belongs to the component that comes
next. -/
def Passes (g : Graph) (r : ComponentId) (addr : Nat) (step : Hop)
    (next : ComponentId) : Prop :=
  ∃ table exit input, (g.component r).table? = some table
    ∧ step.mapping ∈ table.mappings ∧ addr ∈ step.mapping.window
    ∧ (g.component r).exit? step.mapping.port = some exit
    ∧ g.follow exit = .ok input ∧ (g.port input).owner = next
    ∧ step.router = g.path r ∧ step.addrIn = addr
    ∧ step.addrOut = if step.mapping.rebase
      then addr - step.mapping.window.base else addr

/-- Routing takes a hop exactly if there is one, and what comes next goes on
with the access or answers it. -/
theorem Reachable.hop_eq_ok_iff_passes (hg : g.Reachable) :
    g.hop r addr = .ok (step, next) ↔
      g.Passes r addr step next
        ∧ ((g.component next).isRouter ∨ (g.component next).isTerminal) := by
  rw [hop_eq_ok_iff]
  constructor
  · intro h
    obtain ⟨table, m, htable, hat, hbeyond, rfl⟩ := h
    obtain ⟨exit, input, hexit, hfollow, howner, hgoes⟩ :=
      beyond_eq_ok_iff.1 hbeyond
    obtain ⟨hm, hin⟩ := Router.mem_of_mappingAt? hat
    exact ⟨⟨table, exit, input, htable, hm, hin, hexit, hfollow, howner, rfl,
      rfl, rfl⟩, hgoes⟩
  · intro h
    obtain ⟨⟨table, exit, input, htable, hm, hin, hexit, hfollow, howner,
      hpath, haddr, hout⟩, hgoes⟩ := h
    have hat := (hg.sound htable).mappingAt?_eq_some_iff.2 ⟨hm, hin⟩
    have hbeyond :=
      beyond_eq_ok_iff.2 ⟨exit, input, hexit, hfollow, howner, hgoes⟩
    refine ⟨table, step.mapping, htable, hat, hbeyond, ?_⟩
    obtain ⟨path, m, addrIn, addrOut⟩ := step
    simp only at hpath haddr hout
    rw [hpath, haddr, hout]
    rfl

theorem Passes.isRouter (h : g.Passes r addr step next) :
    (g.component r).isRouter := by
  obtain ⟨table, -, -, htable, -⟩ := h
  rw [Component.isRouter, htable]
  rfl

/-- What a hop records of the router, and of the addresses at either end. -/
theorem Passes.record (h : g.Passes r addr step next) :
    step.router = g.path r ∧ step.addrIn = addr ∧ addr ∈ step.mapping.window
      ∧ step.addrOut = if step.mapping.rebase
        then addr - step.mapping.window.base else addr := by
  obtain ⟨-, -, -, -, -, hin, -, -, -, hpath, haddr, hout⟩ := h
  exact ⟨hpath, haddr, hin, hout⟩

/-- A hop takes nothing off that is not there. -/
theorem Passes.addr_eq (h : g.Passes r addr step next) :
    addr = step.addrOut + step.shift := by
  obtain ⟨-, -, hin, hout⟩ := h.record
  have hbase := (Window.mem_def.1 hin).1
  rw [hout, Hop.shift]
  cases step.mapping.rebase with
  | false => rfl
  | true => exact (Nat.sub_add_cancel hbase).symm

-- ============================================================ trails

/-- A row of hops from an address at one router to an address at another. -/
inductive Trail (g : Graph) : ComponentId → Nat → List Hop → ComponentId →
    Nat → Prop
  | here (r : ComponentId) (addr : Nat) : Trail g r addr [] r addr
  | hop {r next r' : ComponentId} {addr addr' : Nat} {step : Hop}
      {hops : List Hop} (hpass : g.Passes r addr step next)
      (hnext : (g.component next).isRouter)
      (h : Trail g next step.addrOut hops r' addr') :
      Trail g r addr (step :: hops) r' addr'

variable {r' target : ComponentId} {addr' issued : Nat} {hops : List Hop}
  {last : Hop}

theorem Trail.addr_eq (h : g.Trail r addr hops r' addr') :
    addr = addr' + Hop.shifts hops := by
  induction h with
  | here r addr => rfl
  | @hop r next r' addr addr' step hops hpass _ _ ih =>
    have hstep := hpass.addr_eq
    show addr = addr' + (step.shift + Hop.shifts hops)
    omega

/-- A route goes along a trail, as long as there are hops left. -/
theorem Trail.routeWithin (hg : g.Reachable) (h : g.Trail r addr hops r' addr')
    (issued budget : Nat) :
    g.routeWithin issued (hops.length + budget) r addr =
      (g.routeWithin issued budget r' addr').map fun onward =>
        { onward with hops := hops ++ onward.hops } := by
  induction h with
  | here r addr =>
    rw [List.length_nil, Nat.zero_add]
    cases g.routeWithin issued budget r addr <;> rfl
  | @hop r next r' addr addr' step hops hpass hnext _ ih =>
    have hhop := hg.hop_eq_ok_iff_passes.2 ⟨hpass, .inl hnext⟩
    rw [List.length_cons, Nat.add_right_comm, routeWithin_succ, hhop]
    show (if (g.component next).isRouter then _ else _) = _
    rw [if_pos hnext, ih]
    cases g.routeWithin issued budget r' addr' <;> rfl

/-- The route that takes those hops, the last of them to the device. -/
def routeOf (g : Graph) (hops : List Hop) (last : Hop) (target : ComponentId) :
    Route where
  target := target
  targetPath := g.path target
  localAddr := last.addrOut
  hops := hops ++ [last]
  attrs := last.mapping.attrs

/-- A trail and one more hop to a device is a route. -/
theorem Trail.routeWithin_device (hg : g.Reachable)
    (h : g.Trail r addr hops r' addr') (hlast : g.Passes r' addr' last target)
    (hdevice : (g.component target).isTerminal) (issued budget : Nat) :
    g.routeWithin issued (hops.length + (budget + 1)) r addr =
      .ok (g.routeOf hops last target) := by
  have hhop := hg.hop_eq_ok_iff_passes.2 ⟨hlast, .inr hdevice⟩
  have hnot := Component.not_isRouter_of_isTerminal hdevice
  rw [h.routeWithin hg, routeWithin_succ, hhop]
  simp only [hnot, Bool.false_eq_true, ↓reduceIte, map_ok]
  rfl

/-- Where the hop after a trail fails, so does the route. -/
theorem Trail.routeWithin_error (hg : g.Reachable)
    (h : g.Trail r addr hops r' addr') {fault : Fault}
    (hfault : g.hop r' addr' = .error fault) (issued budget : Nat) :
    g.routeWithin issued (hops.length + (budget + 1)) r addr =
      .error fault := by
  rw [h.routeWithin hg, routeWithin_succ, hfault]
  rfl

/-- A route to a device was a trail and one more hop. -/
theorem exists_trail_of_routeWithin (hg : g.Reachable) {budget : Nat}
    {route : Route} (h : g.routeWithin issued budget r addr = .ok route) :
    ∃ hops r' addr' last, g.Trail r addr hops r' addr'
      ∧ g.Passes r' addr' last route.target
      ∧ (g.component route.target).isTerminal
      ∧ hops.length + 1 ≤ budget
      ∧ route = g.routeOf hops last route.target := by
  induction budget generalizing r addr route with
  | zero => cases h
  | succ budget ih =>
    rw [routeWithin_succ] at h
    cases hhop : g.hop r addr with
    | error fault => simp [hhop] at h
    | ok taken =>
      obtain ⟨step, next⟩ := taken
      obtain ⟨hpass, hgoes⟩ := hg.hop_eq_ok_iff_passes.1 hhop
      simp only [hhop] at h
      by_cases hrouter : (g.component next).isRouter
      · rw [if_pos hrouter] at h
        cases honward : g.routeWithin issued budget next step.addrOut with
        | error fault => simp [honward] at h
        | ok onward =>
          obtain ⟨hops, r', addr', last, htrail, hlast, hdevice, hlength,
            honward'⟩ := ih honward
          rw [honward] at h
          cases h
          refine ⟨step :: hops, r', addr', last, .hop hpass hrouter htrail,
            hlast, hdevice, Nat.succ_le_succ hlength, ?_⟩
          rw [honward']
          rfl
      · rw [if_neg hrouter] at h
        cases h
        exact ⟨[], r, addr, step, .here r addr, hpass,
          hgoes.resolve_left hrouter, Nat.succ_le_succ (Nat.zero_le _), rfl⟩

/-- From any hop on, a trail is a trail from that hop's router and the address
it was entered at. -/
theorem Trail.drop (h : g.Trail r addr hops r' addr')
    (hlast : g.Passes r' addr' last target) {i : Nat} {step : Hop}
    (hi : (hops ++ [last])[i]? = some step) :
    ∃ ri, g.path ri = step.router ∧ (g.component ri).isRouter
      ∧ g.Trail ri step.addrIn (hops.drop i) r' addr' ∧ i ≤ hops.length := by
  induction h generalizing i with
  | here r addr =>
    cases i with
    | zero =>
      obtain rfl : last = step := Option.some.inj hi
      obtain ⟨hpath, haddr, -, -⟩ := hlast.record
      rw [haddr]
      exact ⟨r, hpath.symm, hlast.isRouter, .here r addr, Nat.le_refl 0⟩
    | succ i => cases hi
  | @hop r next r' addr addr' first hops hpass hnext htrail ih =>
    cases i with
    | zero =>
      obtain rfl : first = step := Option.some.inj hi
      obtain ⟨hpath, haddr, -, -⟩ := hpass.record
      rw [haddr]
      exact ⟨r, hpath.symm, hpass.isRouter, .hop hpass hnext htrail,
        Nat.zero_le _⟩
    | succ i =>
      obtain ⟨ri, hpath, hrouter, hrest, hle⟩ := ih hlast hi
      exact ⟨ri, hpath, hrouter, hrest, Nat.succ_le_succ hle⟩

-- ======================================================= what is seen

/-- The first hop of a trail and one more is entered at the address. -/
theorem Trail.head (h : g.Trail r addr hops r' addr')
    (hlast : g.Passes r' addr' last target) :
    ∃ first rest, hops ++ [last] = first :: rest ∧ first.addrIn = addr := by
  cases h with
  | here => exact ⟨last, [], rfl, hlast.record.2.1⟩
  | @hop _ next _ _ _ first hops hpass _ _ =>
    exact ⟨first, hops ++ [last], rfl, hpass.record.2.1⟩

/-- Every hop was entered at an address in its window, and forwards it from
the window's base or as it is. -/
theorem Trail.forall_record (h : g.Trail r addr hops r' addr')
    (hlast : g.Passes r' addr' last target) :
    ∀ step ∈ hops ++ [last], step.addrIn ∈ step.mapping.window
      ∧ step.addrOut =
        if step.mapping.rebase then step.addrIn - step.mapping.window.base
          else step.addrIn := by
  have hrecord : ∀ {r next : ComponentId} {addr : Nat} {step : Hop},
    g.Passes r addr step next →
      step.addrIn ∈ step.mapping.window ∧ step.addrOut =
        if step.mapping.rebase then step.addrIn - step.mapping.window.base
          else step.addrIn := by
    intro r next addr step hpass
    obtain ⟨-, haddr, hin, hout⟩ := hpass.record
    rw [haddr]
    exact ⟨hin, hout⟩
  induction h with
  | here r addr =>
    intro step hstep
    obtain rfl := List.mem_singleton.1 hstep
    exact hrecord hlast
  | @hop r next r' addr addr' first hops hpass _ _ ih =>
    intro step hstep
    cases hstep with
    | head => exact hrecord hpass
    | tail _ hstep => exact ih hlast step hstep

/-- Each hop is entered at the address that the one before forwarded. -/
theorem Trail.isChain (h : g.Trail r addr hops r' addr')
    (hlast : g.Passes r' addr' last target) :
    (hops ++ [last]).IsChain fun step next => next.addrIn = step.addrOut := by
  induction h with
  | here r addr => exact .singleton last
  | @hop r next r' addr addr' first hops hpass _ htrail ih =>
    obtain ⟨second, rest, heq, haddr⟩ := htrail.head hlast
    have hrest := ih hlast
    show (first :: (hops ++ [last])).IsChain _
    rw [heq] at hrest ⊢
    exact List.isChain_cons_cons.2 ⟨haddr, hrest⟩

end Graph

-- ======================================================== statements

/-- What a route shows of the address that it is the route of. -/
structure Route.Shows (route : Route) (addr : Nat) : Prop where
  /-- There are hops, and no more than the limit. -/
  count : 1 ≤ route.hops.length ∧ route.hops.length ≤ hopLimit
  first : route.hops.head?.map (·.addrIn) = some addr
  inside : ∀ step ∈ route.hops, step.addrIn ∈ step.mapping.window
  forwarded : ∀ step ∈ route.hops, step.addrOut =
    if step.mapping.rebase then step.addrIn - step.mapping.window.base
      else step.addrIn
  linked : route.hops.IsChain fun step next => next.addrIn = step.addrOut
  last : ∃ step, route.hops.getLast? = some step
    ∧ route.localAddr = step.addrOut
    ∧ route.attrs = step.mapping.attrs
  /-- The device sees the address less the bases of all hops that rebase. -/
  bases : Hop.shifts route.hops ≤ addr
    ∧ route.localAddr = addr - Hop.shifts route.hops

namespace Graph

/-- The route is that of a trail which, with one more hop, comes to a device
within the limit. -/
def Delivers (g : Graph) (r : ComponentId) (addr : Nat) (route : Route) :
    Prop :=
  ∃ hops r' addr' last, g.Trail r addr hops r' addr'
    ∧ g.Passes r' addr' last route.target
    ∧ (g.component route.target).isTerminal
    ∧ hops.length + 1 ≤ hopLimit ∧ route = g.routeOf hops last route.target

/-- Routing of an address against the single hops it may take. -/
structure FollowsHops (g : Graph) (r : ComponentId) (addr : Nat) : Prop where
  delivered : ∀ route, g.route r addr = .ok route ↔ g.Delivers r addr route
  shows : ∀ route, g.route r addr = .ok route → route.Shows addr
  /-- From the router of any hop, the rest of the hops is the route of the
  address that the hop was entered at. -/
  onward : ∀ route, g.route r addr = .ok route → ∀ i step,
    route.hops[i]? = some step →
    ∃ ri, g.lookup? step.router = some ri ∧ (g.component ri).isRouter
      ∧ g.route ri step.addrIn = .ok { route with hops := route.hops.drop i }
  endless : ∀ hops r' addr', g.Trail r addr hops r' addr' →
    hops.length = hopLimit →
    g.route r addr = .error (.routingLoop addr hopLimit)
  unmapped : ∀ hops r' addr' table, g.Trail r addr hops r' addr' →
    hops.length < hopLimit →
    (g.component r').table? = some table →
      (∀ m ∈ table.mappings, addr' ∉ m.window) →
    g.route r addr = .error (.unmappedAddress table.name addr')
  /-- A hop that fails in another way passes its fault on as well. -/
  broken : ∀ hops r' addr' fault, g.Trail r addr hops r' addr' →
    hops.length < hopLimit →
    g.hop r' addr' = .error fault → g.route r addr = .error fault

section

variable {g : Graph} {r r' : ComponentId} {addr addr' : Nat} {hops : List Hop}

theorem Reachable.route_eq_ok_iff (hg : g.Reachable) {route : Route} :
    g.route r addr = .ok route ↔ g.Delivers r addr route := by
  constructor
  · exact exists_trail_of_routeWithin hg
  · intro h
    obtain ⟨hops, r', addr', last, htrail, hlast, hdevice, hlength, hroute⟩ :=
      h
    obtain ⟨budget, hbudget⟩ := Nat.exists_eq_add_of_le hlength
    have hlimit : hopLimit = hops.length + (budget + 1) := by omega
    rw [Graph.route, hlimit, htrail.routeWithin_device hg hlast hdevice,
      ← hroute]

/-- The fault of the hop after a trail is that of the route. -/
theorem Trail.route_eq_error (hg : g.Reachable)
    (h : g.Trail r addr hops r' addr') (hlength : hops.length < hopLimit)
    {fault : Fault} (hfault : g.hop r' addr' = .error fault) :
    g.route r addr = .error fault := by
  obtain ⟨budget, hbudget⟩ := Nat.exists_eq_add_of_lt hlength
  rw [Graph.route, hbudget, Nat.add_assoc]
  exact h.routeWithin_error hg hfault addr budget

theorem Delivers.shows {route : Route} (h : g.Delivers r addr route) :
    route.Shows addr := by
  obtain ⟨hops, r', addr', last, htrail, hlast, -, hlength, hroute⟩ := h
  have hhops : route.hops = hops ++ [last] := congrArg Route.hops hroute
  have hlocal : route.localAddr = last.addrOut :=
    congrArg Route.localAddr hroute
  have hattrs : route.attrs = last.mapping.attrs := congrArg Route.attrs hroute
  have hrecord := htrail.forall_record hlast
  have htotal : addr = last.addrOut + Hop.shifts (hops ++ [last]) := by
    have hall := htrail.addr_eq
    have hone := hlast.addr_eq
    simp only [Hop.shifts, List.map_append, List.map_cons, List.map_nil,
      List.sum_append, List.sum_cons, List.sum_nil] at hall ⊢
    omega
  constructor
  case count =>
    rw [hhops, List.length_append, List.length_singleton]
    exact ⟨Nat.le_add_left _ _, hlength⟩
  case first =>
    obtain ⟨first, rest, heq, haddr⟩ := htrail.head hlast
    rw [hhops, heq, List.head?_cons, Option.map_some, haddr]
  case inside => exact fun step hstep => (hrecord step (hhops ▸ hstep)).1
  case forwarded => exact fun step hstep => (hrecord step (hhops ▸ hstep)).2
  case linked =>
    rw [hhops]
    exact htrail.isChain hlast
  case last =>
    exact ⟨last, by rw [hhops, List.getLast?_concat], hlocal, hattrs⟩
  case bases =>
    rw [hhops, hlocal]
    omega

/-- What is left of a route from one of its hops on is a route from there. -/
theorem Delivers.onward (hg : g.Reachable) {route : Route}
    (h : g.Delivers r addr route) {i : Nat} {step : Hop}
    (hi : route.hops[i]? = some step) :
    ∃ ri, g.lookup? step.router = some ri ∧ (g.component ri).isRouter
      ∧ g.Delivers ri step.addrIn
        { route with hops := route.hops.drop i } := by
  obtain ⟨hops, r', addr', last, htrail, hlast, hdevice, hlength, hroute⟩ := h
  have hhops : route.hops = hops ++ [last] := congrArg Route.hops hroute
  rw [hhops] at hi
  obtain ⟨ri, hpath, hrouter, hrest, hle⟩ := htrail.drop hlast hi
  obtain ⟨table, exits, hkind⟩ := Component.exists_kind_of_isRouter hrouter
  have hlookup :=
    hg.tree.lookup?_eq_some_iff.2 ⟨g.lt_of_kind_eq_router hkind, hpath⟩
  refine ⟨ri, hlookup, hrouter, hops.drop i, r', addr', last, hrest, hlast,
    hdevice, ?_, ?_⟩
  · rw [List.length_drop]
    omega
  · have hdrop : route.hops.drop i = hops.drop i ++ [last] := by
      rw [hhops, List.drop_append_of_le_length hle]
    rw [hdrop]
    exact congrArg
      (fun onto : Route => { onto with hops := hops.drop i ++ [last] }) hroute

end

/-- In a reachable graph routing follows the single hops: it answers with the
row of hops that comes to a device within the limit, if there is one; the rest
of such a row is a route again; and it fails where the row does, or when the
hops run out. -/
theorem route_follows_hops {g : Graph} (hg : g.Reachable) (r : ComponentId)
    (addr : Nat) : g.FollowsHops r addr := by
  constructor
  case delivered => exact fun route => hg.route_eq_ok_iff
  case shows => exact fun route hroute => (hg.route_eq_ok_iff.1 hroute).shows
  case onward =>
    intro route hroute i step hi
    obtain ⟨ri, hlookup, hrouter, hrest⟩ :=
      (hg.route_eq_ok_iff.1 hroute).onward hg hi
    exact ⟨ri, hlookup, hrouter, hg.route_eq_ok_iff.2 hrest⟩
  case endless =>
    intro hops r' addr' htrail hlength
    have hroute := htrail.routeWithin hg addr 0
    rw [Nat.add_zero, hlength] at hroute
    exact hroute
  case unmapped =>
    intro hops r' addr' table htrail hlength htable hout
    have hnone := (hg.sound htable).mappingAt?_eq_none_iff.2 hout
    apply htrail.route_eq_error hg hlength
    rw [hop_eq htable, hnone]
  case broken =>
    intro hops r' addr' fault htrail hlength hfault
    exact htrail.route_eq_error hg hlength hfault

end Graph

/-- A router with a window to a memory, one that leads back to the router with
addresses as they are, and one that leads back with addresses from its base. -/
def coilSession : Session :=
  (((((((((Session.new "top").after (.addRouter Graph.root (.new "r" 8))).after
    (.addTerminal Graph.root "mem" (.memory 0x300 false))).after
    (.addRouterOutput ⟨1⟩ "out")).after
    (.addRouterOutput ⟨1⟩ "back")).after
    (.addMapping ⟨1⟩ ⟨⟨0x4000, 0x300, by decide, by decide⟩, ⟨0⟩, true,
      {}⟩)).after
    (.addMapping ⟨1⟩ ⟨⟨0x8000, 0x180, by decide, by decide⟩, ⟨1⟩, false,
      {}⟩)).after
    (.addMapping ⟨1⟩ ⟨⟨0xc000, 0x8000, by decide, by decide⟩, ⟨1⟩, true,
      {}⟩)).after
    (.bindPorts ⟨2⟩ ⟨1⟩)).after
    (.bindPorts ⟨3⟩ ⟨0⟩)

theorem coilSession_reachable : coilSession.graph.Reachable := by
  have hrun : (Session.new "top").Run coilSession :=
    .step _ (.step _ (.step _ (.step _ (.step _ (.step _
      (.step _ (.step _ (.step _ .none
      ⟨show 0 < _ by decide, .new "r" 8⟩)
      (show 0 < _ by decide +kernel)) (show 1 < _ by decide +kernel))
      (show 1 < _ by decide +kernel)) (show 1 < _ by decide +kernel))
      (show 1 < _ by decide +kernel)) (show 1 < _ by decide +kernel))
      ⟨show 2 < _ by decide +kernel, show 1 < _ by decide +kernel⟩)
      ⟨show 3 < _ by decide +kernel, show 0 < _ by decide +kernel⟩
  exact ⟨_, ⟨"top", hrun⟩, rfl⟩

/-- An address comes to the memory on its second turn; of two others one never
leaves the router, and one is refused as what it is on its second turn. -/
theorem coilSession_follows_hops :
    coilSession.graph.Reachable
      ∧ (∃ route, coilSession.graph.Delivers ⟨1⟩ 0x10010 route
        ∧ route.Shows 0x10010
        ∧ route.targetPath = "top/mem" ∧ route.localAddr = 0x10
        ∧ route.hops.length = 2)
      ∧ coilSession.graph.route ⟨1⟩ 0x8000 = .error (.routingLoop 0x8000 16)
      ∧ coilSession.graph.route ⟨1⟩ 0xc010 = .error
        (.unmappedAddress "r" 0x10) := by
  have hfollows := Graph.route_follows_hops coilSession_reachable ⟨1⟩ 0x10010
  obtain ⟨route, hroute, hpath, hlocal, hhops⟩ : ∃ route,
      coilSession.graph.route ⟨1⟩ 0x10010 = .ok route
        ∧ route.targetPath = "top/mem"
        ∧ route.localAddr = 0x10 ∧ route.hops.length = 2 :=
    ⟨{ target := ⟨2⟩
       targetPath := "top/mem"
       localAddr := 0x10
       hops := [
         ⟨"top/r", ⟨⟨0xc000, 0x8000, by decide, by decide⟩, ⟨1⟩, true, {}⟩,
           0x10010, 0x4010⟩,
         ⟨"top/r", ⟨⟨0x4000, 0x300, by decide, by decide⟩, ⟨0⟩, true, {}⟩,
           0x4010, 0x10⟩]
       attrs := {} }, by decide +kernel, rfl, rfl, rfl⟩
  refine ⟨coilSession_reachable, ⟨route, (hfollows.delivered route).1 hroute,
    hfollows.shows route hroute, hpath, hlocal, hhops⟩, ?_, ?_⟩
  · decide +kernel
  · decide +kernel

end ChipFabric
