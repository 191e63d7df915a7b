import Mathlib.Data.List.Sort
import WasmCloud.Lib.Run
import WasmCloud.Storage.Store

/-!
# The Host Router and the Stored Routes

A node resolves requests with a router in memory and keeps its routes in a table for the
next start. The table holds one route a host; the router holds one for each path prefix, and
an empty prefix counts as `/` in it. So adding a route for another prefix replaces the stored
one but not the one in the router, and removing a route stored with an empty prefix does not
find it in the router. `SyncedStep` excludes the two.
-/

namespace WasmCloud

open List

structure RouteEntry where
  appId : AppId
  pathPrefix : String
  stripPrefix : Bool
  deriving DecidableEq, Repr

structure ResolvedRoute where
  appId : AppId
  stripPrefix : Bool
  matchedPrefix : String
  deriving DecidableEq, Repr

abbrev HostRouter := KeyedTable (List RouteEntry)

/-- An empty prefix counts as `/`. -/
def normalPrefix (pathPrefix : String) : String := if pathPrefix = "" then "/" else pathPrefix

/-- The longest prefix first; a stable sort by length in bytes. -/
def sortEntries (entries : List RouteEntry) : List RouteEntry :=
  entries.insertionSort
    (fun a b => (Text.utf8 b.pathPrefix).length ≤ (Text.utf8 a.pathPrefix).length)

/-- A stored route as the router keeps it. -/
def Route.entry (route : Route) : RouteEntry :=
  ⟨route.appId, normalPrefix route.pathPrefix, route.stripPrefix⟩

namespace HostRouter

/-- The routes of a host, none if it is not there. -/
def entriesAt (router : HostRouter) (host : String) : List RouteEntry :=
  ((OrdTable.get? router host).map Prod.snd).getD []

def addRoute (router : HostRouter) (host pathPrefix : String) (appId : AppId)
    (stripPrefix : Bool) : HostRouter :=
  let normal := normalPrefix pathPrefix
  let others := (entriesAt router host).filter (fun e => e.pathPrefix ≠ normal)
  OrdTable.insert router (host, sortEntries (others ++ [⟨appId, normal, stripPrefix⟩]))

/-- `remove_route`: the prefix is compared as it is given. -/
def removeRoute (router : HostRouter) (host pathPrefix : String) : HostRouter :=
  match OrdTable.get? router host with
  | none => router
  | some (_, entries) =>
    let kept := entries.filter (fun e => e.pathPrefix ≠ pathPrefix)
    if kept.isEmpty then OrdTable.remove router host else OrdTable.insert router (host, kept)

/-- The first route of a host whose prefix the path has. -/
def matchAt (router : HostRouter) (path host : String) : Option RouteEntry :=
  match OrdTable.get? router host with
  | none => none
  | some (_, entries) => entries.find? (fun e => Text.startsWith path e.pathPrefix)

/-- `resolve`: the host as it is, then without leading `www.`. -/
def resolve (router : HostRouter) (host path : String) : Option ResolvedRoute :=
  ([host, Text.trimStartMatches host "www."].findSome? (matchAt router path)).map
    (fun e => ⟨e.appId, e.stripPrefix, e.pathPrefix⟩)

/-- One round of the loop of `load_routes_from_store`. -/
def pushRoute (router : HostRouter) (route : Route) : HostRouter :=
  OrdTable.insert router (route.host, entriesAt router route.host ++ [route.entry])

/-- `load_routes_from_store` into a fresh router. -/
def loadRoutesFromStore (store : Store) : HostRouter :=
  (store.listRoutes.foldl pushRoute OrdTable.empty).mapEntries
    (fun e => (e.1, sortEntries e.2)) (fun _ => rfl)

end HostRouter

/-- A node's routes, in the table and in memory. -/
structure RoutingState where
  store : Store
  router : HostRouter

/-- A route is added or removed, with what the database answers. -/
inductive RouteEvent where
  | add (route : Route) (saved : Bool)
  | remove (host : String) (loaded deleted : Bool)
  deriving DecidableEq

variable (s : RoutingState)

def handleRouteAdd (route : Route) (saved : Bool) : RoutingState :=
  if saved then
    ⟨s.store.saveRoute route,
      s.router.addRoute route.host route.pathPrefix route.appId route.stripPrefix⟩
  else s

/-- `handle_route_remove`: the prefix is that of the stored route. -/
def handleRouteRemove (host : String) (loaded deleted : Bool) : RoutingState :=
  let existing := if loaded then s.store.loadRoute host else none
  let pathPrefix := (existing.map Route.pathPrefix).getD ""
  if deleted then ⟨s.store.deleteRoute host, s.router.removeRoute host pathPrefix⟩ else s

def routeStep : RouteEvent → RoutingState
  | .add route saved => handleRouteAdd s route saved
  | .remove host loaded deleted => handleRouteRemove s host loaded deleted

/-- A route is replaced by one for the same prefix, and removed if it has a prefix and is found. -/
def SyncedStep : RouteEvent → Prop
  | .add route saved => saved = true → ∀ old ∈ s.store.loadRoute route.host,
      normalPrefix old.pathPrefix = normalPrefix route.pathPrefix
  | .remove host loaded deleted => deleted = true → ∀ old ∈ s.store.loadRoute host,
      loaded = true ∧ old.pathPrefix ≠ ""

instance (s : RoutingState) : ∀ event, Decidable (SyncedStep s event)
  | .add route _ => inferInstanceAs (Decidable (_ → ∀ old ∈ s.store.loadRoute route.host, _))
  | .remove host _ _ => inferInstanceAs (Decidable (_ → ∀ old ∈ s.store.loadRoute host, _))

/-- Every host has its stored route, and no other. -/
def InSync : Prop :=
  ∀ host, s.router.entriesAt host = ((s.store.loadRoute host).map Route.entry).toList

namespace HostRouter

theorem entriesAt_insert (router : HostRouter) (host other : String) (entries : List RouteEntry) :
    entriesAt (OrdTable.insert router (host, entries)) other =
      if other = host then entries else entriesAt router other := by
  unfold entriesAt
  rw [OrdTable.get?_insert]
  split <;> rfl

theorem entriesAt_addRoute (router : HostRouter) (host pathPrefix : String) (appId : AppId)
    (stripPrefix : Bool) (other : String) :
    entriesAt (addRoute router host pathPrefix appId stripPrefix) other =
      if other = host then
        sortEntries ((entriesAt router host).filter
          (fun e => e.pathPrefix ≠ normalPrefix pathPrefix) ++
            [⟨appId, normalPrefix pathPrefix, stripPrefix⟩])
      else entriesAt router other :=
  entriesAt_insert router host other _

theorem entriesAt_removeRoute (router : HostRouter) (host pathPrefix other : String) :
    entriesAt (removeRoute router host pathPrefix) other =
      if other = host then
        (entriesAt router host).filter (fun e => e.pathPrefix ≠ pathPrefix)
      else entriesAt router other := by
  rcases hget : OrdTable.get? router host with _ | ⟨key, entries⟩
  · have hnone : entriesAt router host = [] := by rw [entriesAt, hget]; rfl
    rw [removeRoute, hget, hnone]
    split_ifs with h
    · rw [h, hnone, filter_nil]
    · rfl
  · have hsome : entriesAt router host = entries := by rw [entriesAt, hget]; rfl
    rw [removeRoute, hget, hsome]
    dsimp only
    by_cases hempty : (entries.filter (fun e => e.pathPrefix ≠ pathPrefix)).isEmpty = true
    · -- The host goes with its last route.
      grind [entriesAt]
    · rw [if_neg hempty]
      exact entriesAt_insert router host other _

theorem entriesAt_foldl_pushRoute (routes : List Route) (router : HostRouter) (host : String) :
    entriesAt (routes.foldl pushRoute router) host =
      entriesAt router host ++ (routes.filter (fun r => r.host = host)).map Route.entry := by
  induction routes generalizing router with
  | nil => rw [foldl_nil, filter_nil, map_nil, append_nil]
  | cons route routes ih =>
    rw [foldl_cons, ih, pushRoute, entriesAt_insert, filter_cons]
    by_cases h : host = route.host
    · rw [if_pos h, if_pos (decide_eq_true h.symm), map_cons, append_assoc, h]
      rfl
    · have hne : ¬ decide (route.host = host) = true := fun hc => h (of_decide_eq_true hc).symm
      rw [if_neg h, if_neg hne]

theorem entriesAt_load (store : Store) (host : String) :
    entriesAt (loadRoutesFromStore store) host =
      ((store.loadRoute host).map Route.entry).toList := by
  have hsorted : entriesAt (loadRoutesFromStore store) host =
      sortEntries (entriesAt (store.listRoutes.foldl pushRoute OrdTable.empty) host) := by
    rw [loadRoutesFromStore, entriesAt, OrdTable.get?_mapEntries, entriesAt]
    rcases OrdTable.get? (store.listRoutes.foldl pushRoute OrdTable.empty) host with _ | entry
    · rfl
    · rfl
  -- The table has at most one route of a host, so there is nothing to sort.
  have hone : store.listRoutes.filter (fun r => r.host = host) = (store.loadRoute host).toList :=
    store.routes.filter_key_eq host
  rw [hsorted, entriesAt_foldl_pushRoute, hone]
  rcases store.loadRoute host with _ | route
  · rfl
  · rfl

theorem matchAt_eq (router : HostRouter) (path host : String) : matchAt router path host =
      (entriesAt router host).find? (fun e => Text.startsWith path e.pathPrefix) := by
  unfold matchAt entriesAt
  cases OrdTable.get? router host <;> rfl

variable {router : HostRouter}

theorem mem_of_resolve {host path : String} {r : ResolvedRoute}
    (h : resolve router host path = some r) : ∃ x, ∃ e ∈ entriesAt router x, e.appId = r.appId := by
  rcases Option.map_eq_some_iff.mp h with ⟨e, he, rfl⟩
  rcases exists_of_findSome?_eq_some he with ⟨x, -, hx⟩
  rw [matchAt_eq] at hx
  exact ⟨x, e, mem_of_find?_eq_some hx, rfl⟩

theorem resolve_congr {router' : HostRouter}
    (h : ∀ host, entriesAt router host = entriesAt router' host) (host path : String) :
    resolve router host path = resolve router' host path := by
  have hmatch : matchAt router path = matchAt router' path := by
    funext other
    rw [matchAt_eq, matchAt_eq, h]
  rw [resolve, resolve, hmatch]

end HostRouter

open HostRouter

theorem normalPrefix_ne_empty (pathPrefix : String) : normalPrefix pathPrefix ≠ "" := by
  unfold normalPrefix
  split_ifs with h
  · decide
  · exact h

variable {e : RouteEntry} {s} {entries : List RouteEntry} {path : String}

theorem mem_sortEntries : e ∈ sortEntries entries ↔ e ∈ entries :=
  (perm_insertionSort _ entries).mem_iff

theorem sortEntries_sorted (entries : List RouteEntry) : (sortEntries entries).Pairwise
      (fun a b => (Text.utf8 b.pathPrefix).length ≤ (Text.utf8 a.pathPrefix).length) := by
  have htotal : Std.Total (fun a b : RouteEntry =>
      (Text.utf8 b.pathPrefix).length ≤ (Text.utf8 a.pathPrefix).length) :=
    ⟨fun a b => Nat.le_total _ _⟩
  have htrans : IsTrans RouteEntry (fun a b =>
      (Text.utf8 b.pathPrefix).length ≤ (Text.utf8 a.pathPrefix).length) :=
    ⟨fun a b c hab hbc => Nat.le_trans hbc hab⟩
  exact pairwise_insertionSort _ entries

theorem sortEntries_distinct (new : RouteEntry)
    (h : entries.Pairwise (fun a b => a.pathPrefix ≠ b.pathPrefix)) :
    (sortEntries (entries.filter (fun e => e.pathPrefix ≠ new.pathPrefix) ++ [new])).Pairwise
      (fun a b => a.pathPrefix ≠ b.pathPrefix) := by
  refine ((perm_insertionSort _ _).pairwise_iff (fun hab => hab.symm)).mpr ?_
  grind

/-- The routes of a host are sorted, with distinct prefixes, none of them empty. -/
structure RouterOk (router : HostRouter) : Prop where
  sorted : ∀ host, (router.entriesAt host).Pairwise
    (fun a b => (Text.utf8 b.pathPrefix).length ≤ (Text.utf8 a.pathPrefix).length)
  distinct : ∀ host, (router.entriesAt host).Pairwise (fun a b => a.pathPrefix ≠ b.pathPrefix)
  nonempty : ∀ host, ∀ e ∈ router.entriesAt host, e.pathPrefix ≠ ""

theorem routerOk_empty : RouterOk (OrdTable.empty : HostRouter) where
  sorted := fun _ => List.Pairwise.nil
  distinct := fun _ => List.Pairwise.nil
  nonempty := fun _ _ he => absurd he not_mem_nil

variable {router : HostRouter} {host : String}

theorem RouterOk.addRoute (h : RouterOk router) (host pathPrefix : String) (appId : AppId)
    (stripPrefix : Bool) : RouterOk (router.addRoute host pathPrefix appId stripPrefix) := by
  constructor
  · intro x
    rw [entriesAt_addRoute]
    split_ifs with hx
    · exact sortEntries_sorted _
    · exact h.sorted x
  · grind [entriesAt_addRoute, sortEntries_distinct, h.distinct]
  · intro x e he
    rw [entriesAt_addRoute] at he
    split_ifs at he with hx
    · rw [mem_sortEntries, mem_append, mem_singleton] at he
      rcases he with he | rfl
      · exact h.nonempty host e (mem_filter.mp he).1
      · exact normalPrefix_ne_empty pathPrefix
    · exact h.nonempty x e he

theorem RouterOk.of_filter {router' : HostRouter} (h : RouterOk router)
    {keep : String → RouteEntry → Bool}
    (hkeep : ∀ host, router'.entriesAt host = (router.entriesAt host).filter (keep host)) :
    RouterOk router' := by
  constructor
  · intro host
    rw [hkeep]
    exact (h.sorted host).filter _
  · intro host
    rw [hkeep]
    exact (h.distinct host).filter _
  · intro host e he
    rw [hkeep] at he
    exact h.nonempty host e (mem_filter.mp he).1

/-- A longest route of the host for the path, or else of the host without `www.`. -/
def LongestRoute (router : HostRouter) (host path : String) (e : RouteEntry) : Prop :=
  ∃ x, (x = host ∨ x = Text.trimStartMatches host "www." ∧
      ∀ other ∈ router.entriesAt host, Text.startsWith path other.pathPrefix = false) ∧
    e ∈ router.entriesAt x ∧ Text.startsWith path e.pathPrefix = true ∧
    ∀ other ∈ router.entriesAt x, Text.startsWith path other.pathPrefix = true →
      (Text.utf8 other.pathPrefix).length ≤ (Text.utf8 e.pathPrefix).length

theorem RouterOk.matchAt_iff (h : RouterOk router) : router.matchAt path host = some e ↔
      e ∈ router.entriesAt host ∧ Text.startsWith path e.pathPrefix = true ∧
        ∀ other ∈ router.entriesAt host, Text.startsWith path other.pathPrefix = true →
          (Text.utf8 other.pathPrefix).length ≤ (Text.utf8 e.pathPrefix).length := by
  have hlongest : ∀ e, router.matchAt path host = some e →
      e ∈ router.entriesAt host ∧ Text.startsWith path e.pathPrefix = true ∧
        ∀ other ∈ router.entriesAt host, Text.startsWith path other.pathPrefix = true →
          (Text.utf8 other.pathPrefix).length ≤ (Text.utf8 e.pathPrefix).length := by
    intro e he
    rw [matchAt_eq, List.find?_eq_some_iff_append] at he
    rcases he with ⟨hmatch, before, after, hsplit, hbefore⟩
    have hsorted := h.sorted host
    rw [hsplit] at hsorted ⊢
    refine ⟨mem_append_right _ (.head _), hmatch, fun other hother hstart => ?_⟩
    rcases mem_append.mp hother with hin | hin
    · have hno := hbefore other hin
      rw [hstart] at hno
      nomatch hno
    · rcases mem_cons.mp hin with rfl | hin
      · exact le_rfl
      · exact (pairwise_cons.mp (pairwise_append.mp hsorted).2.1).1 other hin
  constructor
  · exact hlongest e
  · rintro ⟨hmem, hstart, hlen⟩
    cases hfound : router.matchAt path host with
    | none =>
      rw [matchAt_eq, List.find?_eq_none] at hfound
      exact absurd hstart (hfound e hmem)
    | some e' =>
      rcases hlongest e' hfound with ⟨hmem', hstart', hlen'⟩
      -- Both are prefixes of the path, and neither is longer.
      have hsame : e'.pathPrefix = e.pathPrefix :=
        Text.eq_of_startsWith hstart' hstart
          (Nat.le_antisymm (hlen e' hmem' hstart') (hlen' e hmem hstart))
      rw [inj_on_of_nodup_map (pairwise_map.mpr (h.distinct host)) hmem' hmem hsame]

theorem RouterOk.resolve_iff (h : RouterOk router) {r : ResolvedRoute} :
    router.resolve host path = some r ↔
      ∃ e, LongestRoute router host path e ∧ r = ⟨e.appId, e.stripPrefix, e.pathPrefix⟩ := by
  have hfirst : (∀ other ∈ router.entriesAt host, Text.startsWith path other.pathPrefix = false) ↔
      router.matchAt path host = none := by
    rw [matchAt_eq, List.find?_eq_none]
    exact forall₂_congr fun _ _ => by rw [Bool.not_eq_true]
  have hcandidates : ∀ e, ([host, Text.trimStartMatches host "www."].findSome?
      (router.matchAt path) = some e ↔ LongestRoute router host path e) := by
    intro e
    rw [List.findSome?_cons, LongestRoute]
    cases hmatch : router.matchAt path host with
    | some e' =>
      constructor
      · intro he
        rw [Option.some.inj he] at hmatch
        exact ⟨host, .inl rfl, h.matchAt_iff.mp hmatch⟩
      · rintro ⟨x, hx | ⟨-, hnone⟩, hlongest⟩
        · rw [hx] at hlongest
          exact hmatch.symm.trans (h.matchAt_iff.mpr hlongest)
        · rw [hfirst.mp hnone] at hmatch
          exact absurd hmatch.symm (Option.some_ne_none e')
    | none =>
      simp only [List.findSome?_cons, List.findSome?_nil]
      constructor
      · intro he
        refine ⟨Text.trimStartMatches host "www.", .inr ⟨rfl, hfirst.mpr hmatch⟩, ?_⟩
        refine h.matchAt_iff.mp ?_
        cases hsecond : router.matchAt path (Text.trimStartMatches host "www.") with
        | none =>
          rw [hsecond] at he
          nomatch he.symm
        | some e' =>
          rw [hsecond] at he
          exact he
      · rintro ⟨x, hx | ⟨hx, -⟩, hlongest⟩
        · rw [hx, ← h.matchAt_iff, hmatch] at hlongest
          nomatch hlongest.symm
        · rw [hx, ← h.matchAt_iff] at hlongest
          rw [hlongest]
  grind [resolve]

theorem RouterOk.resolve_own_prefix (h : RouterOk router) (he : e ∈ router.entriesAt host) :
    router.resolve host e.pathPrefix = some ⟨e.appId, e.stripPrefix, e.pathPrefix⟩ :=
  h.resolve_iff.mpr ⟨e, ⟨host, .inl rfl, he, Text.startsWith_self _,
    fun _ _ hstart => Text.utf8_length_le_of_startsWith hstart⟩, rfl⟩

theorem loadRoute_saveRoute (store : Store) (route : Route) (host : String) :
    (store.saveRoute route).loadRoute host =
      if host = route.host then some route else store.loadRoute host :=
  OrdTable.get?_insert store.routes route host

theorem loadRoute_deleteRoute (store : Store) (host other : String) :
    (store.deleteRoute host).loadRoute other =
      if other = host then none else store.loadRoute other :=
  OrdTable.get?_remove store.routes other host

theorem InSync.filter_entriesAt (hsync : InSync s) {pathPrefix : String}
    (h : ∀ old ∈ s.store.loadRoute host, normalPrefix old.pathPrefix = pathPrefix) :
    (s.router.entriesAt host).filter (fun e => e.pathPrefix ≠ pathPrefix) = [] := by
  refine filter_eq_nil_iff.mpr fun e he => ?_
  rw [hsync host, Option.mem_toList, Option.map_eq_some_iff] at he
  rcases he with ⟨old, hold, rfl⟩
  rw [decide_eq_true_eq, not_not]
  exact h old hold

theorem inSync_add {route : Route} {saved : Bool} (hgood : SyncedStep s (.add route saved))
    (hsync : InSync s) : InSync (handleRouteAdd s route saved) := by
  cases saved with
  | false => exact hsync
  | true =>
    intro host
    change entriesAt (s.router.addRoute route.host route.pathPrefix route.appId
      route.stripPrefix) host = (((s.store.saveRoute route).loadRoute host).map Route.entry).toList
    rw [entriesAt_addRoute, loadRoute_saveRoute]
    by_cases hhost : host = route.host
    · rw [if_pos hhost, if_pos hhost, hsync.filter_entriesAt (hgood rfl)]
      rfl
    · rw [if_neg hhost, if_neg hhost]
      exact hsync host

theorem inSync_remove {loaded deleted : Bool} (hgood : SyncedStep s (.remove host loaded deleted))
    (hsync : InSync s) : InSync (handleRouteRemove s host loaded deleted) := by
  cases deleted with
  | false => exact hsync
  | true =>
    intro other
    change entriesAt (s.router.removeRoute host
      (((if loaded then s.store.loadRoute host else none).map Route.pathPrefix).getD "")) other =
        (((s.store.deleteRoute host).loadRoute other).map Route.entry).toList
    rw [entriesAt_removeRoute, loadRoute_deleteRoute]
    by_cases hother : other = host
    · rw [if_pos hother, if_pos hother]
      -- The prefix looked for is the stored one, which is not empty.
      refine hsync.filter_entriesAt fun old hold => ?_
      rcases hgood rfl old hold with ⟨hloaded, hne⟩
      rw [if_pos hloaded, Option.mem_def.mp hold, normalPrefix, if_neg hne]
      rfl
    · rw [if_neg hother, if_neg hother]
      exact hsync other

theorem inSync_step (s : RoutingState) (event : RouteEvent) (hgood : SyncedStep s event)
    (hsync : InSync s) : InSync (routeStep s event) := by
  cases event with
  | add route saved => exact inSync_add hgood hsync
  | remove host loaded deleted => exact inSync_remove hgood hsync

theorem inSync_empty {store : Store} (h : store.routes = OrdTable.empty) :
    InSync ⟨store, OrdTable.empty⟩ := by
  intro host
  change [] = ((store.routes.get? host).map Route.entry).toList
  rw [h]
  rfl

/-- After a run of such steps a fresh router filled from the table resolves every
    request as the one in memory. -/
theorem router_agrees_with_store {store : Store} (hempty : store.routes = OrdTable.empty)
    {events : List RouteEvent} {s : RoutingState}
    (hrun : Along routeStep SyncedStep ⟨store, OrdTable.empty⟩ events)
    (hs : s = runAll routeStep ⟨store, OrdTable.empty⟩ events) (host path : String) :
    (loadRoutesFromStore s.store).resolve host path = s.router.resolve host path := by
  have hsync : InSync s := by
    rw [hs]
    exact invariant_along inSync_step hrun (inSync_empty hempty)
  refine resolve_congr (fun h => ?_) host path
  rw [entriesAt_load]
  exact (hsync h).symm

def routeTo (appName pathPrefix : String) : Route where
  host := "api.example.com"
  appId := ⟨appName⟩
  pathPrefix := pathPrefix
  stripPrefix := false
  createdAt := 0
  updatedAt := 0

def syncedRun : List RouteEvent :=
  [.add (routeTo "default/api:v1" "/") true, .add (routeTo "default/api:v2" "/") true,
    .remove "api.example.com" true true, .add (routeTo "default/api:v3" "/v3") true]

theorem router_agrees_with_store_syncedRun :
    let s := runAll routeStep ⟨emptyStore, OrdTable.empty⟩ syncedRun
    (loadRoutesFromStore s.store).resolve "www.api.example.com" "/v3/users" =
      s.router.resolve "www.api.example.com" "/v3/users" := by
  have hsynced : Along routeStep SyncedStep ⟨emptyStore, OrdTable.empty⟩ syncedRun := by decide
  exact router_agrees_with_store rfl hsynced rfl "www.api.example.com" "/v3/users"

/-- Of two prefixes the table keeps the second, and a route stored with an empty prefix stays in
    the router. -/
theorem router_disagrees_with_store :
    let added := runAll routeStep ⟨emptyStore, OrdTable.empty⟩
      [.add (routeTo "default/api:v1" "/v1") true, .add (routeTo "default/api:v2" "/v2") true]
    let removed := runAll routeStep ⟨emptyStore, OrdTable.empty⟩
      [.add (routeTo "default/api:v1" "") true, .remove "api.example.com" true true]
    added.router.resolve "api.example.com" "/v1/users" =
        some ⟨⟨"default/api:v1"⟩, false, "/v1"⟩ ∧
      (loadRoutesFromStore added.store).resolve "api.example.com" "/v1/users" = none ∧
      removed.router.resolve "api.example.com" "/users" =
        some ⟨⟨"default/api:v1"⟩, false, "/"⟩ ∧
      (loadRoutesFromStore removed.store).resolve "api.example.com" "/users" = none := by
  decide

end WasmCloud
