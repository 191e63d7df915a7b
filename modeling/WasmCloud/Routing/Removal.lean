import WasmCloud.Routing.HostRouter

/-!
# Removing an Application's Routes

An application is removed in steps. Its routes go first: the table is asked for the hosts that
lead to it, and the route of each is removed from the table and from the router.

The table has one route a host and the router one for each prefix. A route that another prefix
displaced from the table is not found there, one stored with an empty prefix is in the router
under `/`, and one that cannot be read back counts as having an empty prefix. Such a route
stays in the router. Routes of other applications stay in any case.
-/

namespace WasmCloud

open List

/-- Which routes can be listed, read and deleted, whether the marker can be set, and whether the
    supervisor forgets the application. -/
structure RemoveEnv where
  listed : Bool
  loaded : String → Bool
  deleted : String → Bool
  now : Nat
  marked : Bool
  forgotten : Bool

/-- Remove the routes of hosts in turn, until one cannot be deleted. -/
def removeRoutes (env : RemoveEnv) : RoutingState → List String → RoutingState × Bool
  | s, [] => (s, true)
  | s, host :: hosts =>
    let s' := handleRouteRemove s host (env.loaded host) (env.deleted host)
    if env.deleted host then removeRoutes env s' hosts else (s', false)

/-- `handle_remove` for routes and the marker, and whether it reports success. -/
def handleRemove (env : RemoveEnv) (s : RoutingState) (appId : AppId) : RoutingState × Bool :=
  if env.listed then
    -- The table is ordered by host, so the hosts come in the order of a set.
    match removeRoutes env s ((s.store.listRoutesForApp appId.text).map Route.host) with
    | (s', false) => (s', false)
    | (s', true) =>
      if env.marked then
        ({ s' with store := s'.store.markUndeployed appId.text env.now }, env.forgotten)
      else (s', false)
  else (s, false)

/-- Routes are added, each with what the database answers. -/
def addRoutes (s : RoutingState) (adds : List (Route × Bool)) : RoutingState :=
  runAll routeStep s (adds.map fun add => .add add.1 add.2)

/-- The prefix that is looked for in the router when the route of a host is removed. -/
def removedPrefix (env : RemoveEnv) (store : Store) (host : String) : String :=
  ((if env.loaded host then store.loadRoute host else none).map Route.pathPrefix).getD ""

/-- Every route to the application is the stored one of its host and can be read back. -/
def RoutesStored (env : RemoveEnv) (s : RoutingState) (appId : AppId) : Prop :=
  ∀ host, ∀ e ∈ s.router.entriesAt host, e.appId = appId →
    env.loaded host = true ∧
      ∃ route ∈ s.store.loadRoute host, route.appId = appId ∧ route.pathPrefix = e.pathPrefix

/-- The router is in order, and the stored route of a host is among its routes. -/
structure Routed (s : RoutingState) : Prop extends RouterOk s.router where
  stored : ∀ host, ∀ route ∈ s.store.loadRoute host, route.entry ∈ s.router.entriesAt host

variable {store : Store} {s' : RoutingState} {e : RouteEntry}

theorem routed_empty (h : store.routes = OrdTable.empty) : Routed ⟨store, OrdTable.empty⟩ where
  toRouterOk := routerOk_empty
  stored := by
    intro host route hroute
    rw [Store.loadRoute, h] at hroute
    exact absurd (Option.mem_def.mp hroute) (Option.some_ne_none _).symm

variable {host : String} {appId : AppId} {env : RemoveEnv} {s : RoutingState}

theorem routed_handleRouteAdd (h : Routed s) (route : Route) (saved : Bool) :
    Routed (handleRouteAdd s route saved) := by
  cases saved with
  | false => exact h
  | true =>
    refine ⟨h.toRouterOk.addRoute _ _ _ _, fun host r hr => ?_⟩
    change (s.store.saveRoute route).loadRoute host = some r at hr
    change r.entry ∈ HostRouter.entriesAt (s.router.addRoute route.host route.pathPrefix
      route.appId route.stripPrefix) host
    rw [loadRoute_saveRoute] at hr
    rw [HostRouter.entriesAt_addRoute]
    split_ifs at hr ⊢ with hhost
    · rw [mem_sortEntries, ← Option.some.inj hr]
      exact mem_append_right _ mem_cons_self
    · exact h.stored host r hr

theorem routed_addRoutes (h : Routed s) (adds : List (Route × Bool)) :
    Routed (addRoutes s adds) := by
  induction adds generalizing s with
  | nil => exact h
  | cons add adds ih => exact ih (routed_handleRouteAdd h add.1 add.2)

theorem mem_hosts : host ∈ (store.listRoutesForApp appId.text).map Route.host ↔
      ∃ route ∈ store.loadRoute host, route.appId = appId := by
  constructor
  · intro h
    rcases mem_map.mp h with ⟨route, hroute, hhost⟩
    rw [Store.listRoutesForApp, mem_filter, decide_eq_true_eq] at hroute
    refine ⟨route, OrdTable.get?_eq_some_iff.mpr ⟨hroute.1, hhost⟩, ?_⟩
    exact congrArg AppId.mk hroute.2
  · rintro ⟨route, hroute, happ⟩
    rcases OrdTable.get?_eq_some_iff.mp hroute with ⟨hmem, hhost⟩
    refine mem_map.mpr ⟨route, ?_, hhost⟩
    rw [Store.listRoutesForApp, mem_filter, decide_eq_true_eq, happ]
    exact ⟨hmem, rfl⟩

theorem hosts_nodup (store : Store) (appName : String) :
    ((store.listRoutesForApp appName).map Route.host).Nodup :=
  (filter_sublist.map Route.host).nodup store.routes.keys_nodup

/-- Each host has lost the entry with the prefix of its stored route. -/
theorem entriesAt_removeRoutes {hosts : List String} (hnodup : hosts.Nodup)
    (hok : (removeRoutes env s hosts).2 = true) (host : String) :
    (removeRoutes env s hosts).1.router.entriesAt host = (s.router.entriesAt host).filter (fun e =>
          !(decide (host ∈ hosts) && decide (e.pathPrefix = removedPrefix env s.store host))) := by
  induction hosts generalizing s with
  | nil =>
    simp [removeRoutes]
  | cons h hosts ih =>
    rw [nodup_cons] at hnodup
    by_cases hdel : env.deleted h = true
    · rw [removeRoutes, if_pos hdel] at hok ⊢
      rw [ih hnodup.2 hok]
      have hstate : handleRouteRemove s h (env.loaded h) (env.deleted h) =
          ⟨s.store.deleteRoute h, s.router.removeRoute h (removedPrefix env s.store h)⟩ :=
        if_pos hdel
      rw [hstate, HostRouter.entriesAt_removeRoute]
      by_cases hhost : host = h
      · -- This host is done with, it does not come again.
        rw [if_pos hhost, hhost]
        simp only [hnodup.1, mem_cons_self, decide_false, decide_true, Bool.false_and,
          Bool.true_and, Bool.not_false, filter_true, decide_not]
      · have hpath : removedPrefix env (s.store.deleteRoute h) host =
            removedPrefix env s.store host := by
          rw [removedPrefix, removedPrefix, loadRoute_deleteRoute, if_neg hhost]
        rw [if_neg hhost, hpath]
        simp [hhost]
    · rw [removeRoutes, if_neg hdel] at hok
      nomatch hok

/-- A removal ends before it begins, at a route or the marker, or with the marker set. -/
theorem handleRemove_cases (env : RemoveEnv) (s : RoutingState) (appId : AppId) :
    handleRemove env s appId = (s, false) ∨ ∃ t done,
        removeRoutes env s ((s.store.listRoutesForApp appId.text).map Route.host) = (t, done) ∧
        (handleRemove env s appId = (t, false) ∨ done = true ∧ handleRemove env s appId =
            ({ t with store := t.store.markUndeployed appId.text env.now }, env.forgotten)) := by
  rw [handleRemove]
  grind

/-- The route of a host that a removal takes out of the router, if any. -/
def TakenOut (env : RemoveEnv) (s : RoutingState) (appId : AppId) (host : String)
    (e : RouteEntry) : Prop :=
  (∃ route ∈ s.store.loadRoute host, route.appId = appId) ∧
    e.pathPrefix = removedPrefix env s.store host

theorem entriesAt_handleRemove (hok : handleRemove env s appId = (s', true)) :
    ∃ keep : String → RouteEntry → Bool,
      (∀ host e, keep host e = true ↔ ¬ TakenOut env s appId host e) ∧
      ∀ host, s'.router.entriesAt host = (s.router.entriesAt host).filter (keep host) := by
  refine ⟨fun host e => !(decide (host ∈ (s.store.listRoutesForApp appId.text).map Route.host) &&
    decide (e.pathPrefix = removedPrefix env s.store host)), fun host e => ?_, fun host => ?_⟩
  · rw [Bool.not_eq_true', Bool.and_eq_false_iff, decide_eq_false_iff_not, decide_eq_false_iff_not,
      mem_hosts, TakenOut, not_and_or]
  · have hreply := congrArg Prod.snd hok
    rcases handleRemove_cases env s appId with hend | ⟨t, done, hremoved, hend | ⟨rfl, hend⟩⟩
    · rw [hend] at hreply
      nomatch hreply
    · rw [hend] at hreply
      nomatch hreply
    · -- The marker is set in the table and does not touch the router.
      have hentries := entriesAt_removeRoutes (hosts_nodup s.store appId.text)
        (congrArg Prod.snd hremoved) host
      rw [hremoved] at hentries
      have hrouter : s'.router = t.router := congrArg (fun x => x.1.router) (hok.symm.trans hend)
      rw [hrouter]
      exact hentries

theorem TakenOut.stored (h : TakenOut env s appId host e) (hne : e.pathPrefix ≠ "") :
    env.loaded host = true ∧
      ∃ route ∈ s.store.loadRoute host, route.appId = appId ∧ route.pathPrefix = e.pathPrefix := by
  rcases h with ⟨⟨route, hroute, happ⟩, hpath⟩
  grind [removedPrefix, Option.mem_def]

theorem Routed.appId_of_takenOut (hrouted : Routed s) (he : e ∈ s.router.entriesAt host)
    (h : TakenOut env s appId host e) : e.appId = appId := by
  have hne := hrouted.nonempty host e he
  rcases (h.stored hne).2 with ⟨route, hroute, happ, hpath⟩
  have hentry := hrouted.stored host route hroute
  have hsame : route.entry.pathPrefix = e.pathPrefix := by
    rw [Route.entry, normalPrefix, hpath, if_neg hne]
  -- Two routes of a host with one prefix are one route.
  have heq : route.entry = e :=
    inj_on_of_nodup_map (pairwise_map.mpr (hrouted.distinct host)) hentry he hsame
  rw [← heq]
  exact happ

theorem handleRemove_keeps_others (hrouted : Routed s)
    (hok : handleRemove env s appId = (s', true)) {path : String} {r : ResolvedRoute}
    (hr : s.router.resolve host path = some r) (happ : r.appId ≠ appId) :
    s'.router.resolve host path = some r := by
  rcases entriesAt_handleRemove hok with ⟨keep, hkeep, hentries⟩
  have hsub : ∀ x, ∀ e ∈ s'.router.entriesAt x, e ∈ s.router.entriesAt x := by
    intro x e he
    rw [hentries] at he
    exact (mem_filter.mp he).1
  rcases hrouted.resolve_iff.mp hr with ⟨e, ⟨x, hx, hmem, hstart, hlongest⟩, rfl⟩
  -- The route is still there, and among fewer routes it is still the longest.
  have hkept : e ∈ s'.router.entriesAt x := by
    rw [hentries]
    exact mem_filter.mpr ⟨hmem, (hkeep x e).mpr fun htaken =>
      happ (hrouted.appId_of_takenOut hmem htaken)⟩
  have hok' : RouterOk s'.router := hrouted.toRouterOk.of_filter hentries
  refine hok'.resolve_iff.mpr ⟨e, ⟨x, ?_, hkept, hstart, fun other hother =>
    hlongest other (hsub x other hother)⟩, rfl⟩
  rcases hx with hx | ⟨hx, hnone⟩
  · exact .inl hx
  · exact .inr ⟨hx, fun other hother => hnone other (hsub host other hother)⟩

/-- After any additions of routes, a removal that reports success leaves no request
    that is resolved to the application exactly if the application's routes were the
    stored ones. Requests for other applications are resolved as before. -/
theorem handleRemove_clears_routes_iff {store : Store} (hempty : store.routes = OrdTable.empty)
    (adds : List (Route × Bool)) (env : RemoveEnv) (appId : AppId) {s s' : RoutingState}
    (hs : s = addRoutes ⟨store, OrdTable.empty⟩ adds)
    (hok : handleRemove env s appId = (s', true)) :
    ((∀ host path r, s'.router.resolve host path = some r → r.appId ≠ appId) ∧
      ∀ host path r, s.router.resolve host path = some r → r.appId ≠ appId →
        ∃ r', s'.router.resolve host path = some r' ∧ r'.appId = r.appId) ↔
      RoutesStored env s appId := by
  have hrouted : Routed s := hs ▸ routed_addRoutes (routed_empty hempty) adds
  rcases entriesAt_handleRemove hok with ⟨keep, hkeep, hentries⟩
  constructor
  · rintro ⟨hgone, -⟩ host e he happ
    refine TakenOut.stored ?_ (hrouted.nonempty host e he)
    -- A route that is still there is what its own prefix is resolved to.
    by_contra hstays
    have hmem : e ∈ s'.router.entriesAt host := by
      rw [hentries]
      exact mem_filter.mpr ⟨he, (hkeep host e).mpr hstays⟩
    have hok' : RouterOk s'.router := hrouted.toRouterOk.of_filter hentries
    exact hgone host e.pathPrefix _ (hok'.resolve_own_prefix hmem) happ
  · intro hstored
    refine ⟨fun host path r hr happ => ?_, fun host path r hr happ =>
      ⟨r, handleRemove_keeps_others hrouted hok hr happ, rfl⟩⟩
    rcases HostRouter.mem_of_resolve hr with ⟨x, e, he, heq⟩
    rw [hentries, mem_filter, hkeep] at he
    rcases hstored x e he.1 (heq.trans happ) with ⟨hloaded, route, hroute, hrapp, hpath⟩
    refine he.2 ⟨⟨route, hroute, hrapp⟩, ?_⟩
    rw [removedPrefix, if_pos hloaded, Option.mem_def.mp hroute]
    exact hpath.symm

/-- In step with the table, routes need a prefix and can be read back. -/
theorem InSync.routesStored (hsync : InSync s) (hloaded : ∀ host, env.loaded host = true)
    (hpath : ∀ route ∈ s.store.listRoutes, route.pathPrefix ≠ "") : RoutesStored env s appId := by
  intro host e he happ
  rw [hsync host, Option.mem_toList, Option.map_eq_some_iff] at he
  rcases he with ⟨route, hroute, rfl⟩
  have hne := hpath route (OrdTable.get?_eq_some_iff.mp hroute).1
  refine ⟨hloaded host, route, hroute, happ, ?_⟩
  rw [Route.entry, normalPrefix, if_neg hne]

def steadyRemove : RemoveEnv := ⟨true, fun _ => true, fun _ => true, 0, true, true⟩

def twoHosts : List (Route × Bool) :=
  [(routeTo "default/api:v1" "/v1", true),
    ({ routeTo "default/web:v1" "/" with host := "example.com" }, true)]

theorem handleRemove_clears_routes_twoHosts :
    let s := addRoutes ⟨emptyStore, OrdTable.empty⟩ twoHosts
    let t := handleRemove steadyRemove s ⟨"default/api:v1"⟩
    t.2 = true ∧ ∀ host path r, t.1.router.resolve host path = some r →
      r.appId ≠ ⟨"default/api:v1"⟩ := by
  intro s t
  have hremoved : t.2 = true := by decide
  have hok : t = (t.1, true) := Prod.ext rfl hremoved
  have hsynced : Along routeStep SyncedStep ⟨emptyStore, OrdTable.empty⟩
      (twoHosts.map fun add => .add add.1 add.2) := by decide
  have hsync : InSync s := invariant_along inSync_step hsynced (inSync_empty rfl)
  exact ⟨hremoved, ((handleRemove_clears_routes_iff rfl twoHosts steadyRemove ⟨"default/api:v1"⟩ rfl
    hok).mpr (hsync.routesStored (fun _ => rfl) (by decide))).1⟩

/-- Two prefixes on a host, an empty prefix, a route that cannot be read back: a request is still
    resolved. -/
theorem handleRemove_leaves_route :
    let after := fun env adds =>
      handleRemove env (addRoutes ⟨emptyStore, OrdTable.empty⟩ adds) ⟨"default/api:v1"⟩
    (let t := after steadyRemove
        [(routeTo "default/api:v1" "/v1", true), (routeTo "default/api:v1" "/v2", true)];
      t.2 = true ∧ t.1.router.resolve "api.example.com" "/v1/users" =
        some ⟨⟨"default/api:v1"⟩, false, "/v1"⟩) ∧
    (let t := after steadyRemove [(routeTo "default/api:v1" "", true)];
      t.2 = true ∧ t.1.router.resolve "api.example.com" "/users" =
        some ⟨⟨"default/api:v1"⟩, false, "/"⟩) ∧
    (let t := after { steadyRemove with loaded := fun _ => false }
        [(routeTo "default/api:v1" "/v1", true)];
      t.2 = true ∧ t.1.router.resolve "api.example.com" "/v1/users" =
        some ⟨⟨"default/api:v1"⟩, false, "/v1"⟩) := by
  decide

end WasmCloud
