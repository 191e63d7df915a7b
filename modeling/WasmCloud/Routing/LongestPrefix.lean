import WasmCloud.Routing.HostRouter

/-!
# Longest-Prefix Routing Over a History

What the router is for is a table with a row for each host and a target for each path prefix
in it. The router keeps a sorted list for each host instead. `Lists` says that the lists hold
the table, and every operation keeps it so, hence the first match is the longest prefix.

Only `remove_route` takes a condition. Adding and loading store an empty prefix under `/`, but
removing compares the prefix as it is given. The table is a parameter in this: `tableStep`
takes what a removal names, itself or what it is normalised to.
-/

namespace WasmCloud

def HostRouter.removeHost (router : HostRouter) (host : String) : HostRouter :=
  OrdTable.remove router host

theorem HostRouter.entriesAt_removeHost (router : HostRouter) (host other : String) :
    entriesAt (removeHost router host) other =
      if other = host then [] else entriesAt router other := by
  unfold removeHost entriesAt
  rw [OrdTable.get?_remove]
  split <;> rfl

/-- Listing the stored routes can fail, and then nothing is loaded. -/
inductive RouterOp where
  | addRoute (host pathPrefix : String) (appId : AppId) (stripPrefix : Bool)
  | removeRoute (host pathPrefix : String)
  | removeHost (host : String)
  | loadRoutesFromStore (store : Store) (listed : Bool)

def routerStep (router : HostRouter) : RouterOp → HostRouter
  | .addRoute host pathPrefix appId stripPrefix =>
    router.addRoute host pathPrefix appId stripPrefix
  | .removeRoute host pathPrefix => router.removeRoute host pathPrefix
  | .removeHost host => router.removeHost host
  | .loadRoutesFromStore store listed =>
    if listed then HostRouter.loadRoutesFromStore store else router

structure RouteTarget where
  appId : AppId
  stripPrefix : Bool
  deriving DecidableEq, Repr

/-- The target of each prefix of each host. -/
abbrev RouteTable := String → String → Option RouteTarget

/-- The table of one route for each host of a store. -/
def storedTable (store : Store) : RouteTable := fun host pathPrefix =>
  (store.loadRoute host).bind (fun route =>
    if normalPrefix route.pathPrefix = pathPrefix then some ⟨route.appId, route.stripPrefix⟩
    else none)

/-- A route is under its normalised prefix; `named` is the prefix a removal is about. -/
def tableStep (named : String → String) (table : RouteTable) : RouterOp → RouteTable
  | .addRoute host pathPrefix appId stripPrefix => fun x q =>
    if x = host ∧ q = normalPrefix pathPrefix then some ⟨appId, stripPrefix⟩ else table x q
  | .removeRoute host pathPrefix => fun x q =>
    if x = host ∧ q = named pathPrefix then none else table x q
  | .removeHost host => fun x q => if x = host then none else table x q
  | .loadRoutesFromStore store listed => if listed then storedTable store else table

/-- The longest prefix in the row of the host, or, if that has none, in the row of the host
    without leading `www.`. -/
def TableResolves (table : RouteTable) (host path : String) (r : ResolvedRoute) : Prop :=
  ∃ x, (x = host ∨ x = Text.trimStartMatches host "www." ∧
      ∀ q target, table host q = some target → Text.startsWith path q = false) ∧
    table x r.matchedPrefix = some ⟨r.appId, r.stripPrefix⟩ ∧
    Text.startsWith path r.matchedPrefix = true ∧
    ∀ q target, table x q = some target → Text.startsWith path q = true →
      (Text.utf8 q).length ≤ (Text.utf8 r.matchedPrefix).length

/-- The router is in order, and its entries are those of the table. -/
structure Lists (router : HostRouter) (table : RouteTable) : Prop where
  ok : RouterOk router
  entry : ∀ host q target, table host q = some target ↔
    ⟨target.appId, q, target.stripPrefix⟩ ∈ router.entriesAt host

theorem lists_empty : Lists (OrdTable.empty : HostRouter) (fun _ _ => none) where
  ok := routerOk_empty
  entry := fun _ _ _ => ⟨fun h => (nomatch h.symm), nofun⟩

variable {table : RouteTable} {router : HostRouter}

theorem Lists.forall_entry (h : Lists router table) (host : String) (p : String → Prop) :
    (∀ e ∈ router.entriesAt host, p e.pathPrefix) ↔
      ∀ q target, table host q = some target → p q := by
  constructor
  · intro hall q target hq
    exact hall _ ((h.entry host q target).mp hq)
  · intro hall e he
    exact hall e.pathPrefix ⟨e.appId, e.stripPrefix⟩ ((h.entry host _ _).mpr he)

theorem Lists.resolve_iff (h : Lists router table) (host path : String) (r : ResolvedRoute) :
    router.resolve host path = some r ↔ TableResolves table host path r := by
  rw [h.ok.resolve_iff]
  constructor
  · intro hlongest
    obtain ⟨e, ⟨x, hx, hmem, hstart, hlen⟩, rfl⟩ := hlongest
    refine ⟨x, ?_, (h.entry x _ _).mpr hmem, hstart, ?_⟩
    · rcases hx with hx | ⟨hx, hnone⟩
      · exact .inl hx
      · exact .inr ⟨hx, (h.forall_entry host _).mp hnone⟩
    · exact (h.forall_entry x (fun q => Text.startsWith path q = true →
        (Text.utf8 q).length ≤ (Text.utf8 e.pathPrefix).length)).mp hlen
  · intro hresolves
    obtain ⟨x, hx, hentry, hstart, hlen⟩ := hresolves
    refine ⟨⟨r.appId, r.matchedPrefix, r.stripPrefix⟩, ⟨x, ?_, (h.entry x _ _).mp hentry, hstart,
      ?_⟩, rfl⟩
    · rcases hx with hx | ⟨hx, hnone⟩
      · exact .inl hx
      · exact .inr ⟨hx, (h.forall_entry host _).mpr hnone⟩
    · exact (h.forall_entry x (fun q => Text.startsWith path q = true →
        (Text.utf8 q).length ≤ (Text.utf8 r.matchedPrefix).length)).mpr hlen

theorem lists_addRoute (h : Lists router table) (named : String → String)
    (host pathPrefix : String) (appId : AppId) (stripPrefix : Bool) :
    Lists (router.addRoute host pathPrefix appId stripPrefix)
      (tableStep named table (.addRoute host pathPrefix appId stripPrefix)) := by
  refine ⟨h.ok.addRoute host pathPrefix appId stripPrefix, ?_⟩
  intro x q target
  rw [HostRouter.entriesAt_addRoute]
  simp only [tableStep]
  by_cases hx : x = host
  · rw [if_pos hx, mem_sortEntries, List.mem_append, List.mem_singleton, List.mem_filter]
    by_cases hq : q = normalPrefix pathPrefix
    · -- The new entry is the only one of its prefix.
      rw [if_pos ⟨hx, hq⟩]
      simp only [hq, ne_eq, not_true_eq_false, decide_false, Bool.false_eq_true, and_false,
        false_or, RouteEntry.mk.injEq, true_and, Option.some.injEq]
      constructor
      · intro heq
        rw [← heq]
        exact ⟨rfl, rfl⟩
      · intro heq
        rw [← heq.1, ← heq.2]
    · rw [if_neg (fun hc => hq hc.2), h.entry, hx]
      simp [hq]
  · rw [if_neg hx, if_neg (fun hc => hx hc.1)]
    exact h.entry x q target

/-- Both prefixes have to pick the same entry of the host. -/
theorem lists_removeRoute (h : Lists router table) {named : String → String}
    {host pathPrefix : String} (hnamed : ∀ e ∈ router.entriesAt host, e.pathPrefix = pathPrefix ↔
      e.pathPrefix = named pathPrefix) :
    Lists (router.removeRoute host pathPrefix)
      (tableStep named table (.removeRoute host pathPrefix)) := by
  have hentries := HostRouter.entriesAt_removeRoute router host pathPrefix
  constructor
  · have hkept : ∀ x, (router.removeRoute host pathPrefix).entriesAt x = (router.entriesAt x).filter
          (fun e => decide (x = host → e.pathPrefix ≠ pathPrefix)) := by
      intro x
      rw [hentries]
      by_cases hx : x = host
      · simp [hx]
      · simp [hx]
    exact h.ok.of_filter hkept
  · grind [tableStep, h.entry]

theorem lists_removeHost (h : Lists router table) (named : String → String) (host : String) :
    Lists (router.removeHost host) (tableStep named table (.removeHost host)) := by
  have hentries := HostRouter.entriesAt_removeHost router host
  constructor
  · have hkept : ∀ x, (router.removeHost host).entriesAt x =
        (router.entriesAt x).filter (fun _ => decide (x ≠ host)) := by
      intro x
      rw [hentries]
      by_cases hx : x = host
      · simp [hx]
      · simp [hx]
    exact h.ok.of_filter hkept
  · grind [tableStep, h.entry]

theorem lists_load (store : Store) :
    Lists (HostRouter.loadRoutesFromStore store) (storedTable store) := by
  have hentries := HostRouter.entriesAt_load store
  constructor
  · constructor
    · grind
    · grind
    · intro host e he
      rw [hentries, Option.mem_toList, Option.map_eq_some_iff] at he
      obtain ⟨route, -, rfl⟩ := he
      exact normalPrefix_ne_empty route.pathPrefix
  · intro host q target
    rw [hentries, Option.mem_toList, Option.map_eq_some_iff, storedTable, Option.bind_eq_some_iff]
    refine exists_congr fun route => and_congr_right fun _ => ?_
    rw [Route.entry, RouteEntry.mk.injEq]
    by_cases hq : normalPrefix route.pathPrefix = q
    · rw [if_pos hq]
      constructor
      · intro heq
        rw [← Option.some.inj heq]
        exact ⟨rfl, hq, rfl⟩
      · intro heq
        rw [heq.1, heq.2.2]
    · rw [if_neg hq]
      exact ⟨fun hsome => (nomatch hsome.symm), fun heq => absurd heq.2.1 hq⟩

/-- A removal picks the same entries by the given prefix and by the named one. -/
def PicksNamed (named : String → String) (router : HostRouter) : RouterOp → Prop
  | .removeRoute host pathPrefix => ∀ e ∈ router.entriesAt host,
      e.pathPrefix = pathPrefix ↔ e.pathPrefix = named pathPrefix
  | _ => True

theorem lists_step (named : String → String) (router : HostRouter) (table : RouteTable)
    (op : RouterOp) (hpicks : PicksNamed named router op) (h : Lists router table) :
    Lists (routerStep router op) (tableStep named table op) := by
  cases op with
  | addRoute host pathPrefix appId stripPrefix =>
    exact lists_addRoute h named host pathPrefix appId stripPrefix
  | removeRoute host pathPrefix => exact lists_removeRoute h hpicks
  | removeHost host => exact lists_removeHost h named host
  | loadRoutesFromStore store listed =>
    cases listed with
    | true => exact lists_load store
    | false => exact h

theorem lists_run (ops : List RouterOp) : Lists (runAll routerStep OrdTable.empty ops)
      (runAll (tableStep id) (fun _ _ => none) ops) := by
  have hpicks : ∀ op ∈ ops, ∀ router, PicksNamed id router op := by
    intro op _ router
    cases op with
    | removeRoute x q => exact fun _ _ => Iff.rfl
    | addRoute x q appId stripPrefix | removeHost x | loadRoutesFromStore store listed => trivial
  exact simulation_along (lists_step id) (along_of_forall hpicks _) lists_empty

/-- Where a removal names the prefix it is given, a router finds the longest
    prefix after every history. -/
theorem resolve_longest_as_given (ops : List RouterOp) (host path : String) (r : ResolvedRoute) :
    (runAll routerStep OrdTable.empty ops).resolve host path = some r ↔
      TableResolves (runAll (tableStep id) (fun _ _ => none) ops) host path r :=
  (lists_run ops).resolve_iff host path r

/-- The empty prefix is not removed from a host with a route at `/`. -/
def RemovesAsAdded (router : HostRouter) : RouterOp → Prop
  | .removeRoute host pathPrefix => pathPrefix = "" →
      ∀ e ∈ router.entriesAt host, e.pathPrefix ≠ "/"
  | _ => True

instance (router : HostRouter) : ∀ op, Decidable (RemovesAsAdded router op)
  | .removeRoute host _ => inferInstanceAs (Decidable (_ → ∀ e ∈ router.entriesAt host, _))
  | .addRoute _ _ _ _ => instDecidableTrue
  | .removeHost _ => instDecidableTrue
  | .loadRoutesFromStore _ _ => instDecidableTrue

theorem RemovesAsAdded.picksNamed {op : RouterOp} (hok : RouterOk router)
    (h : RemovesAsAdded router op) : PicksNamed normalPrefix router op := by
  cases op with
  | removeRoute host pathPrefix =>
    intro e he
    unfold normalPrefix
    by_cases hempty : pathPrefix = ""
    · -- No entry has the empty prefix, and by the condition none has `/`.
      rw [if_pos hempty, hempty]
      exact ⟨fun heq => absurd heq (hok.nonempty host e he), fun heq => absurd heq (h hempty e he)⟩
    · rw [if_neg hempty]
  | addRoute host pathPrefix appId stripPrefix | removeHost host
  | loadRoutesFromStore store listed => trivial

/-- A router finds the longest prefix of the table after every history in which
    the empty prefix is not removed from a host with a route at `/`. -/
theorem resolve_longest_prefix (ops : List RouterOp)
    (hops : Along routerStep RemovesAsAdded OrdTable.empty ops) (host path : String)
    (r : ResolvedRoute) :
    (runAll routerStep OrdTable.empty ops).resolve host path = some r ↔
      TableResolves (runAll (tableStep normalPrefix) (fun _ _ => none) ops) host path r := by
  have hstep : ∀ router table op, RemovesAsAdded router op → Lists router table →
      Lists (routerStep router op) (tableStep normalPrefix table op) := by
    intro router table op hop h
    exact lists_step normalPrefix router table op (hop.picksNamed h.ok) h
  exact (simulation_along hstep hops lists_empty).resolve_iff host path r

def nestedRoutes : List RouterOp :=
  [.addRoute "api.example.com" "" ⟨"default/site:v1"⟩ false,
    .addRoute "api.example.com" "/v1" ⟨"default/api:v1"⟩ true,
    .addRoute "api.example.com" "/v2" ⟨"default/api:v2"⟩ true,
    .removeRoute "api.example.com" "/v2"]

theorem resolve_longest_prefix_nestedRoutes :
    TableResolves (runAll (tableStep normalPrefix) (fun _ _ => none) nestedRoutes)
      "www.api.example.com" "/v1/users" ⟨⟨"default/api:v1"⟩, true, "/v1"⟩ :=
  ( resolve_longest_prefix nestedRoutes (by decide) "www.api.example.com" "/v1/users"
    ⟨⟨"default/api:v1"⟩, true, "/v1"⟩).mp (by decide)

/-- A route is added and removed under the empty prefix, and the router keeps it. -/
theorem removed_route_resolves :
    let actions := [.addRoute "api.example.com" "" ⟨"default/api:v1"⟩ false,
      .removeRoute "api.example.com" ""]
    (runAll routerStep OrdTable.empty actions).resolve "api.example.com" "/users" =
        some ⟨⟨"default/api:v1"⟩, false, "/"⟩ ∧
      ¬ ∃ r, TableResolves (runAll (tableStep normalPrefix) (fun _ _ => none) actions)
        "api.example.com" "/users" r := by
  refine ⟨by decide, ?_⟩
  intro h
  obtain ⟨r, x, -, hentry, -⟩ := h
  simp only [runAll_cons, runAll_nil, tableStep] at hentry
  split_ifs at hentry

end WasmCloud
