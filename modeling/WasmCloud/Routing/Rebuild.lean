import Mathlib.Data.List.Induction
import WasmCloud.Routing.Removal
import WasmCloud.Storage.Lifecycle

/-!
# Rebuilding the Routes

A route table that cannot be read any more is cleared and filled again from the stream of
route events. The handlers do more than the stream tells: removing an application deletes the
routes that lead to it and publishes nothing about routes, so a replay puts them back. What it
puts back for a host is the last route event about it: `table_run`.

Events are JSON in an envelope with the version of the protocol. A payload is the value that
was parsed, or `none`.
-/

namespace WasmCloud

open List

structure MessageEnvelope where
  protocolVersion : Nat
  sender : String
  timestampMs : Nat
  payload : Json

/-- `is_compatible`: from version 1 to one above the version 2 of the platform. -/
def MessageEnvelope.isCompatible (envelope : MessageEnvelope) : Bool :=
  decide (1 ≤ envelope.protocolVersion) && decide (envelope.protocolVersion ≤ 2 + 1)

/-- Why a replay stops: a message of its own, or an error from below. -/
inductive ReplayError where
  | messaging (text : String)
  | source
  deriving DecidableEq, Repr

def Json.asU64 : Json → Option Nat
  | .number text => Text.parseU64 text
  | _ => none

def Json.asBool : Json → Option Bool
  | .bool b => some b
  | _ => none

/-- A `MessageEnvelope` from a parsed value. -/
def decodeEnvelope (value : Json) : Option MessageEnvelope := do
  let version ← (← value.get "protocol_version").asU64
  let sender ← (← value.get "sender").asStr
  let timestampMs ← (← value.get "timestamp_ms").asU64
  let payload ← value.get "payload"
  if version < 2 ^ 32 then some ⟨version, sender, timestampMs, payload⟩ else none

/-- A `Route` from a parsed value. -/
def decodeRoute (value : Json) : Option Route := do
  let host ← (← value.get "host").asStr
  let appId ← (← value.get "app_id").asStr
  let pathPrefix ← (← value.get "path_prefix").asStr
  let stripPrefix ← (← value.get "strip_prefix").asBool
  let createdAt ← (← value.get "created_at").asU64
  let updatedAt ← (← value.get "updated_at").asU64
  some ⟨host, ⟨appId⟩, pathPrefix, stripPrefix, createdAt, updatedAt⟩

inductive ReplayRouteEvent where
  | add (route : Route)
  | remove (host : String)
  deriving DecidableEq, Repr

/-- The event in a value that is not in an envelope any more. -/
def decodeRouteEvent (event : Json) : Except ReplayError ReplayRouteEvent :=
  match (event.get "type").bind Json.asStr with
  | none => .error (.messaging "route replay payload missing event type")
  | some eventType =>
    if eventType = "route_add" then
      match event.get "route" with
      | none => .error (.messaging "route_add replay payload missing route")
      | some value =>
        match decodeRoute value with
        | none => .error .source
        | some route => .ok (.add route)
    else if eventType = "route_remove" then
      match (event.get "host").bind Json.asStr with
      | none => .error (.messaging "route_remove replay payload missing host")
      | some host => .ok (.remove host)
    else .error (.messaging ("unexpected event type during routes replay: " ++ eventType))

/-- `decode_replay_route_event`: an event in an envelope, or an event alone. -/
def decodeReplayRouteEvent (payload : Option Json) : Except ReplayError ReplayRouteEvent :=
  match payload with
  | none => .error .source
  | some value =>
    match decodeEnvelope value with
    | some envelope =>
      if envelope.isCompatible then decodeRouteEvent envelope.payload
      else .error (.messaging ("incompatible protocol version " ++
        toString envelope.protocolVersion ++ " during routes replay"))
    | none => decodeRouteEvent value

/-- A `Route` as it is serialized. -/
def routeJson (route : Route) : Json :=
  .object [("host", .string route.host), ("app_id", .string route.appId.text),
    ("path_prefix", .string route.pathPrefix), ("strip_prefix", .bool route.stripPrefix),
    ("created_at", .number (toString route.createdAt)),
    ("updated_at", .number (toString route.updatedAt))]

/-- A route event as it is serialized, with its type as a field. -/
def ReplayRouteEvent.json : ReplayRouteEvent → Json
  | .add route => .object [("type", .string "route_add"), ("route", routeJson route)]
  | .remove host => .object [("type", .string "route_remove"), ("host", .string host)]

def publishRoute (sender : String) (timestampMs : Nat) (event : ReplayRouteEvent) : Json :=
  .object [("protocol_version", .number (toString 2)), ("sender", .string sender),
    ("timestamp_ms", .number (toString timestampMs)), ("payload", event.json)]

/-- The times in an event are numbers of 64 bits. -/
def ReplayRouteEvent.InRange (timestampMs : Nat) : ReplayRouteEvent → Prop
  | .add route => timestampMs < 2 ^ 64 ∧ route.createdAt < 2 ^ 64 ∧ route.updatedAt < 2 ^ 64
  | .remove _ => timestampMs < 2 ^ 64

variable {env : ReplayEnv} {route : Route}

theorem decodeRoute_routeJson (hcreated : route.createdAt < 2 ^ 64)
    (hupdated : route.updatedAt < 2 ^ 64) : decodeRoute (routeJson route) = some route := by
  have hcreated : Text.parseU64 route.createdAt.repr = some route.createdAt :=
    Text.parseU64_toString _ hcreated
  have hupdated : Text.parseU64 route.updatedAt.repr = some route.updatedAt :=
    Text.parseU64_toString _ hupdated
  simp [decodeRoute, routeJson, Json.get, Json.asStr, Json.asBool, Json.asU64, lookup_cons,
    hcreated, hupdated]

theorem decode_publish (sender : String) {timestampMs : Nat} {event : ReplayRouteEvent}
    (h : event.InRange timestampMs) :
    decodeReplayRouteEvent (some (publishRoute sender timestampMs event)) = .ok event := by
  have htime : timestampMs < 2 ^ 64 := by
    cases event with
    | add route => exact h.1
    | remove host => exact h
  have hversion : Text.parseU64 (Nat.repr 2) = some 2 := Text.parseU64_toString 2 (by decide)
  have hstamp : Text.parseU64 timestampMs.repr = some timestampMs :=
    Text.parseU64_toString _ htime
  have henvelope : decodeEnvelope (publishRoute sender timestampMs event) =
      some ⟨2, sender, timestampMs, event.json⟩ := by
    simp [decodeEnvelope, publishRoute, Json.get, Json.asStr, Json.asU64, lookup_cons,
      hversion, hstamp]
  have hevent : decodeRouteEvent event.json = .ok event := by
    cases event with
    | add route =>
      simp [decodeRouteEvent, ReplayRouteEvent.json, Json.get, Json.asStr, lookup_cons,
        decodeRoute_routeJson h.2.1 h.2.2]
    | remove host =>
      simp [decodeRouteEvent, ReplayRouteEvent.json, Json.get, Json.asStr, lookup_cons]
  simp only [decodeReplayRouteEvent, henvelope, MessageEnvelope.isCompatible]
  exact hevent

/-- An event that is handled without an error. A deployment may get through in part. -/
inductive HistoryEvent where
  | routeAdd (route : Route) (sender : String) (timestampMs : Nat)
  | routeRemove (host sender : String) (timestampMs : Nat) (loaded : Bool)
  | deployApp (d : DeployRequest) (committed : Nat)
  | removeApp (appId : AppId) (loaded : String → Bool) (now : Nat) (marked forgotten : Bool)

def handleHistory (nodeId : String) (s : RoutingState) : HistoryEvent → RoutingState
  | .routeAdd route _ _ => handleRouteAdd s route true
  | .routeRemove host _ _ loaded => handleRouteRemove s host loaded true
  | .deployApp d committed =>
    { s with store := commitAll ((deployPlan nodeId s.store d).writes.take committed) s.store }
  | .removeApp appId loaded now marked forgotten =>
    (handleRemove ⟨true, loaded, fun _ => true, now, marked, forgotten⟩ s appId).1

/-- The route event in an event, with its sender and its time. -/
def HistoryEvent.routeEvent : HistoryEvent → Option (ReplayRouteEvent × String × Nat)
  | .routeAdd route sender timestampMs => some (.add route, sender, timestampMs)
  | .routeRemove host sender timestampMs _ => some (.remove host, sender, timestampMs)
  | _ => none

def ReplayRouteEvent.host : ReplayRouteEvent → String
  | .add route => route.host
  | .remove host => host

/-- An event is not a route event about a host. -/
def HistoryEvent.Leaves (host : String) (e : HistoryEvent) : Prop :=
  ∀ event ∈ e.routeEvent, event.1.host ≠ host

/-- The times in an event are numbers of 64 bits. -/
def HistoryEvent.InRange (e : HistoryEvent) : Prop :=
  ∀ event ∈ e.routeEvent, event.1.InRange event.2.2

/-- What the stream keeps of a history: the route events, in order. -/
def routeEvents (history : List HistoryEvent) : List (ReplayRouteEvent × String × Nat) :=
  history.filterMap HistoryEvent.routeEvent

/-- The stream of published route events. -/
def routeStream (history : List HistoryEvent) : List Json :=
  (routeEvents history).map (fun event => publishRoute event.2.1 event.2.2 event.1)

/-- Whether there is a stream and a consumer, what each fetch gives (`none` is an error), and for
    each message whether it can be stored and acknowledged. -/
structure ReplayEnv where
  streamFound : Bool
  consumerCreated : Bool
  batches : List (Option Nat)
  stored : Nat → Bool
  acked : Nat → Bool

def ReplayRouteEvent.apply (s : Store) : ReplayRouteEvent → Store
  | .add route => s.saveRoute route
  | .remove host => s.deleteRoute host

/-- What events do to the table, one after the other. -/
def applyAll (events : List (ReplayRouteEvent × String × Nat)) (s : Store) : Store :=
  events.foldl (fun t event => event.1.apply t) s

def replayMessage (env : ReplayEnv) (n : Nat) (s : Store) (payload : Json) :
    Store × Except ReplayError Unit :=
  match decodeReplayRouteEvent (some payload) with
  | .error e => (s, .error e)
  | .ok event =>
    if env.stored n then
      (event.apply s, if env.acked n then .ok ()
        else .error (.messaging "failed to ack replayed route message"))
    else (s, .error .source)

/-- The messages of a batch. The result is the number of the next one. -/
def replayBatch (env : ReplayEnv) : Nat → Store → List Json → Store × Except ReplayError Nat
  | n, s, [] => (s, .ok n)
  | n, s, payload :: payloads =>
    match replayMessage env n s payload with
    | (s', .ok _) => replayBatch env (n + 1) s' payloads
    | (s', .error e) => (s', .error e)

/-- `replay_routes_from_jetstream`: batches of at most 256 messages, until an empty one. -/
def replayLoop (env : ReplayEnv) :
    List (Option Nat) → Nat → Store → List Json → Store × Except ReplayError Nat
  | [], n, s, _ => (s, .ok n)
  | none :: _, _, s, _ => (s, .error (.messaging "failed to fetch replay batch"))
  | some size :: batches, n, s, payloads =>
    if (payloads.take (min size 256)).isEmpty then (s, .ok n)
    else
      match replayBatch env n s (payloads.take (min size 256)) with
      | (s', .ok n') => replayLoop env batches n' s' (payloads.drop (min size 256))
      | (s', .error e) => (s', .error e)

def replayRoutesFromJetstream (env : ReplayEnv) (s : Store) (stream : List Json) :
    Store × Except ReplayError Nat :=
  if env.streamFound then
    if env.consumerCreated then replayLoop env env.batches 0 s stream
    else (s, .error (.messaging "failed to create replay consumer"))
  else (s, .ok 0)

def partialRebuild (env : ReplayEnv) (stream : List Json) :
    List String → Store → Store × Except ReplayError Unit
  | [], s => (s, .ok ())
  | table :: tables, s =>
    if table = "routes" then
      match replayRoutesFromJetstream env { s with routes := OrdTable.empty } stream with
      | (s', .ok _) => partialRebuild env stream tables s'
      | (s', .error e) => (s', .error e)
    else if table = "metrics" then
      partialRebuild env stream tables { s with metrics := OrdTable.empty }
    else partialRebuild env stream tables s

/-- No fetch fails, and none comes back empty while messages are left. -/
def Delivered : List (Option Nat) → Nat → Prop
  | [], left => left = 0
  | none :: _, _ => False
  | some size :: batches, left =>
    left = 0 ∨ 0 < size ∧ Delivered batches (left - min size 256)

/-- A replay of a number of messages in which nothing fails. -/
structure ReplayEnv.Steady (env : ReplayEnv) (messages : Nat) : Prop where
  streamFound : env.streamFound = true
  consumerCreated : env.consumerCreated = true
  delivered : Delivered env.batches messages
  stored : ∀ n, env.stored n = true
  acked : ∀ n, env.acked n = true

variable {events : List (ReplayRouteEvent × String × Nat)}

theorem replayBatch_eq (hstored : ∀ n, env.stored n = true) (hacked : ∀ n, env.acked n = true)
    (hrange : ∀ event ∈ events, event.1.InRange event.2.2) (n : Nat) (s : Store) :
    replayBatch env n s (events.map fun event => publishRoute event.2.1 event.2.2 event.1) =
      (applyAll events s, .ok (n + events.length)) := by
  induction events generalizing n s with
  | nil => rfl
  | cons event events ih =>
    have hmessage : replayMessage env n s (publishRoute event.2.1 event.2.2 event.1) =
        (event.1.apply s, .ok ()) := by
      simp [replayMessage, decode_publish event.2.1 (hrange event (.head _)), hstored, hacked]
    have hrest := ih (fun e he => hrange e (.tail _ he)) (n + 1) (event.1.apply s)
    simp only [map_cons, replayBatch, hmessage, hrest, applyAll, foldl_cons, length_cons]
    rw [Nat.add_assoc, Nat.add_comm 1]

-- The induction is on the batches. Each takes some messages from the front, and what it
-- applies and what the rest applies come one after the other.
theorem replayLoop_eq (hstored : ∀ n, env.stored n = true) (hacked : ∀ n, env.acked n = true)
    (batches : List (Option Nat)) (hrange : ∀ event ∈ events, event.1.InRange event.2.2)
    (hdelivered : Delivered batches events.length) (n : Nat) (s : Store) :
    ∃ n', replayLoop env batches n s
        (events.map fun event => publishRoute event.2.1 event.2.2 event.1) =
      (applyAll events s, .ok n') := by
  induction batches generalizing events n s with
  | nil =>
    rw [length_eq_zero_iff.mp hdelivered]
    exact ⟨n, rfl⟩
  | cons batch batches ih =>
    cases batch with
    | none => exact absurd hdelivered (fun h => h)
    | some size =>
      by_cases hempty : events = []
      · rw [hempty]
        refine ⟨n, ?_⟩
        rw [map_nil, replayLoop, take_nil]
        rfl
      · have hlength : events.length ≠ 0 := fun h => hempty (length_eq_zero_iff.mp h)
        rcases hdelivered with hzero | ⟨hsize, hrest⟩
        · exact absurd hzero hlength
        have htake : ((events.take (min size 256)).map fun event =>
            publishRoute event.2.1 event.2.2 event.1).isEmpty = false := by
          rw [isEmpty_eq_false_iff, ne_eq, ← length_eq_zero_iff, length_map, length_take]
          omega
        have hfirst : ∀ e ∈ events.take (min size 256), e.1.InRange e.2.2 :=
          fun e he => hrange e (mem_of_mem_take he)
        have hlater : Delivered batches (events.drop (min size 256)).length := by
          rw [length_drop]
          exact hrest
        rcases ih (fun e he => hrange e (mem_of_mem_drop he)) hlater
          (n + (events.take (min size 256)).length)
          (applyAll (events.take (min size 256)) s) with ⟨n', hloop⟩
        refine ⟨n', ?_⟩
        simp only [replayLoop, ← map_take, ← map_drop, htake, Bool.false_eq_true,
          if_false, replayBatch_eq hstored hacked hfirst, hloop]
        rw [applyAll, applyAll, ← foldl_append, take_append_drop, applyAll]

variable {history : List HistoryEvent} {e : HistoryEvent} {host : String}

theorem partialRebuild_eq (hrange : ∀ e ∈ history, e.InRange)
    (henv : env.Steady (routeEvents history).length) (s : Store) :
    partialRebuild env (routeStream history) ["routes"] s =
      (applyAll (routeEvents history) { s with routes := OrdTable.empty }, .ok ()) := by
  have hevents : ∀ event ∈ routeEvents history, event.1.InRange event.2.2 := by
    intro event hevent
    rcases mem_filterMap.mp hevent with ⟨e, he, hroute⟩
    exact hrange e he event hroute
  rcases replayLoop_eq henv.stored henv.acked env.batches hevents henv.delivered 0
    { s with routes := OrdTable.empty } with ⟨n, hloop⟩
  simp only [partialRebuild, if_true, replayRoutesFromJetstream, henv.streamFound,
    henv.consumerCreated, routeStream, hloop]

/-- What a route event says of a host, if it is about it. -/
def ReplayRouteEvent.word (host : String) (current : Option Route) :
    ReplayRouteEvent → Option Route
  | .add route => if host = route.host then some route else current
  | .remove removed => if host = removed then none else current

def replayed (host : String) (history : List HistoryEvent) : Option Route :=
  (routeEvents history).foldl (fun current event => event.1.word host current) none

theorem loadRoute_apply (s : Store) (event : ReplayRouteEvent) (host : String) :
    (event.apply s).loadRoute host = event.word host (s.loadRoute host) := by
  cases event with
  | add route => exact loadRoute_saveRoute s route host
  | remove removed => exact loadRoute_deleteRoute s removed host

theorem loadRoute_replay (events : List (ReplayRouteEvent × String × Nat)) (s : Store)
    (host : String) :
    (applyAll events s).loadRoute host =
      events.foldl (fun current event => event.1.word host current) (s.loadRoute host) := by
  induction events generalizing s with
  | nil => rfl
  | cons event events ih =>
    rw [foldl_cons, ← loadRoute_apply]
    exact ih _

theorem routes_deploy (nodeId : String) (s : Store) (d : DeployRequest) (committed : Nat) :
    (commitAll ((deployPlan nodeId s d).writes.take committed) s).routes = s.routes := by
  have hkeep : ∀ w ∈ (deployPlan nodeId s d).writes, ∀ t : Store, (w t).routes = t.routes := by
    rcases deployPlan_cases nodeId s d with ⟨cached, -, hcached, hplan⟩
    have hcache : ∀ w ∈ cached, ∀ t : Store, (w t).routes = t.routes := by
      intro w hw t
      rcases hcached w hw with ⟨sha256, bytes, rfl⟩
      rfl
    rcases hplan with hplan | ⟨sha256, artifact, hplan⟩
    · rw [hplan]
      exact hcache
    · rw [hplan]
      intro w hw t
      rcases mem_append.mp hw with hw | hw
      · exact hcache w hw t
      · simp only [deployWrites, mem_cons, not_mem_nil, or_false] at hw
        rcases hw with rfl | rfl | rfl | rfl
        · rfl
        · rfl
        · rfl
        · rfl
  exact commitAll_induct (fun t => t.routes = s.routes)
    (fun w hw t ht => (hkeep w (mem_of_mem_take hw) t).trans ht) rfl

theorem loadRoute_removeRoutes {env : RemoveEnv} (hdeleted : ∀ host, env.deleted host = true)
    (hosts : List String) (s : RoutingState) (host : String) :
    (removeRoutes env s hosts).2 = true ∧ (removeRoutes env s hosts).1.store.loadRoute host =
        if host ∈ hosts then none else s.store.loadRoute host := by
  induction hosts generalizing s with
  | nil => exact ⟨rfl, (if_neg not_mem_nil).symm⟩
  | cons h hosts ih =>
    rw [removeRoutes, if_pos (hdeleted h)]
    have hstate : (handleRouteRemove s h (env.loaded h) (env.deleted h)).store =
        s.store.deleteRoute h := by
      rw [handleRouteRemove, if_pos (hdeleted h)]
    grind [loadRoute_deleteRoute]

theorem loadRoute_handleRemove {env : RemoveEnv} (hlisted : env.listed = true)
    (hdeleted : ∀ host, env.deleted host = true) (s : RoutingState) (appId : AppId)
    (host : String) :
    (handleRemove env s appId).1.store.loadRoute host =
      (s.store.loadRoute host).filter (fun route => decide (route.appId ≠ appId)) := by
  rcases hremoved : removeRoutes env s
    ((s.store.listRoutesForApp appId.text).map Route.host) with ⟨t, done⟩
  have hroutes := loadRoute_removeRoutes hdeleted
    ((s.store.listRoutesForApp appId.text).map Route.host) s host
  rw [hremoved] at hroutes
  obtain ⟨rfl : done = true, hroute⟩ := hroutes
  have hload : t.store.loadRoute host =
      (s.store.loadRoute host).filter (fun route => decide (route.appId ≠ appId)) := by
    rw [hroute]
    cases hcurrent : s.store.loadRoute host with
    | none => exact ite_self none
    | some route =>
      by_cases happ : route.appId = appId
      · have hmem := mem_hosts.mpr ⟨route, hcurrent, happ⟩
        rw [if_pos hmem, Option.filter_some, if_neg (by simp [happ])]
      · have hmem : host ∉ (s.store.listRoutesForApp appId.text).map Route.host := by
          intro hmem
          rcases mem_hosts.mp hmem with ⟨found, hfound, hfapp⟩
          rw [Option.mem_def, hcurrent, Option.some.injEq] at hfound
          exact happ (hfound ▸ hfapp)
        rw [if_neg hmem, Option.filter_some, if_pos (decide_eq_true happ)]
  rw [handleRemove, if_pos hlisted, hremoved]
  -- The marker is in another table.
  cases env.marked with
  | true | false => exact hload

/-- The last route event about a host adds a route, and these are the events after it. -/
def LastAdd (history : List HistoryEvent) (host : String) (route : Route)
    (after : List HistoryEvent) : Prop :=
  ∃ before sender timestampMs, history = before ++ .routeAdd route sender timestampMs :: after ∧
    route.host = host ∧ ∀ e ∈ after, e.Leaves host

/-- The last route event about a host adds a route, and its application was removed since. -/
def DroppedRoute (history : List HistoryEvent) (host : String) : Prop :=
  ∃ route after, LastAdd history host route after ∧
    ∃ loaded now marked forgotten, .removeApp route.appId loaded now marked forgotten ∈ after

theorem lastAdd_snoc {after : List HistoryEvent} : LastAdd (history ++ [e]) host route after ↔
      (∃ sender timestampMs, e = .routeAdd route sender timestampMs) ∧ route.host = host ∧
          after = [] ∨
        ∃ earlier, after = earlier ++ [e] ∧ e.Leaves host ∧ LastAdd history host route earlier := by
  constructor
  · rintro ⟨before, sender, timestampMs, hsplit, hhost, hleaves⟩
    rcases eq_nil_or_concat after with rfl | ⟨earlier, last, rfl⟩
    · left
      have hlast := (append_inj' hsplit rfl).2
      exact ⟨⟨sender, timestampMs, singleton_inj.mp hlast⟩, hhost, rfl⟩
    · right
      rw [concat_eq_append, ← cons_append, ← append_assoc] at hsplit
      rcases append_inj' hsplit rfl with ⟨hhistory, hlast⟩
      rw [singleton_inj.mp hlast, concat_eq_append]
      rw [concat_eq_append] at hleaves
      exact ⟨earlier, rfl, hleaves last (mem_append_right _ (.head _)), before, sender,
        timestampMs, hhistory, hhost, fun x hx => hleaves x (mem_append_left _ hx)⟩
  · rintro (⟨⟨sender, timestampMs, rfl⟩, hhost, rfl⟩ |
      ⟨earlier, rfl, hleave, before, sender, timestampMs, rfl, hhost, hleaves⟩)
    · exact ⟨history, sender, timestampMs, rfl, hhost, fun x hx => nomatch hx⟩
    · refine ⟨before, sender, timestampMs, ?_, hhost, fun x hx => ?_⟩
      · rw [append_assoc, cons_append]
      · grind

theorem replayed_snoc (host : String) (history : List HistoryEvent) (e : HistoryEvent) :
    replayed host (history ++ [e]) = match e.routeEvent with
      | some event => event.1.word host (replayed host history)
      | none => replayed host history := by
  grind [replayed, routeEvents]

theorem leaves_cases (host : String) (e : HistoryEvent) :
    e.Leaves host ∨ (∃ route sender timestampMs, e = .routeAdd route sender timestampMs ∧
        route.host = host) ∨
      ∃ sender timestampMs loaded, e = .routeRemove host sender timestampMs loaded := by
  cases e with
  | routeAdd route sender timestampMs =>
    by_cases hhost : route.host = host
    · exact .inr (.inl ⟨route, sender, timestampMs, rfl, hhost⟩)
    · refine .inl fun event hevent => ?_
      rw [← Option.some.inj hevent]
      exact hhost
  | routeRemove removed sender timestampMs loaded =>
    by_cases hhost : removed = host
    · subst hhost
      exact .inr (.inr ⟨sender, timestampMs, loaded, rfl⟩)
    · refine .inl fun event hevent => ?_
      rw [← Option.some.inj hevent]
      exact hhost
  | deployApp d committed => exact .inl (fun event hevent => nomatch hevent)
  | removeApp appId loaded now marked forgotten =>
    exact .inl (fun event hevent => nomatch hevent)

theorem replayed_of_leaves (h : e.Leaves host) (history : List HistoryEvent) :
    replayed host (history ++ [e]) = replayed host history := by
  rw [replayed_snoc]
  cases hevent : e.routeEvent with
  | none => rfl
  | some event =>
    have hne := h event hevent
    rcases event with ⟨event, sent⟩
    cases event with
    | add route | remove removed => exact if_neg (Ne.symm hne)

theorem replayed_eq_some_iff (history : List HistoryEvent) :
    replayed host history = some route ↔ ∃ after, LastAdd history host route after := by
  induction history using List.reverseRecOn with
  | nil =>
    refine ⟨fun h => (nomatch h.symm), ?_⟩
    rintro ⟨after, before, sender, timestampMs, hsplit, -⟩
    exact absurd hsplit.symm (append_ne_nil_of_right_ne_nil _ (cons_ne_nil _ _))
  | append_singleton history e ih =>
    rcases leaves_cases host e with hleaves |
      ⟨added, sender, timestampMs, rfl, hhost⟩ | ⟨sender, timestampMs, loaded, rfl⟩
    · rw [replayed_of_leaves hleaves, ih]
      constructor
      · rintro ⟨after, hlast⟩
        exact ⟨after ++ [e], lastAdd_snoc.mpr (.inr ⟨after, rfl, hleaves, hlast⟩)⟩
      · rintro ⟨after, hlast⟩
        rcases lastAdd_snoc.mp hlast with ⟨⟨sender, timestampMs, rfl⟩, hhost, -⟩ |
          ⟨earlier, -, -, hearlier⟩
        · exact absurd hhost (hleaves _ rfl)
        · exact ⟨earlier, hearlier⟩
    · have hnot : ¬ (HistoryEvent.routeAdd added sender timestampMs).Leaves host :=
        fun h => h _ rfl hhost
      rw [replayed_snoc]
      simp only [HistoryEvent.routeEvent, ReplayRouteEvent.word, hhost, if_true, Option.some.injEq]
      constructor
      · rintro rfl
        exact ⟨[], lastAdd_snoc.mpr (.inl ⟨⟨sender, timestampMs, rfl⟩, hhost, rfl⟩)⟩
      · grind [lastAdd_snoc]
    · have hnot : ¬ (HistoryEvent.routeRemove host sender timestampMs loaded).Leaves host :=
        fun h => h _ rfl rfl
      rw [replayed_snoc]
      simp only [HistoryEvent.routeEvent, ReplayRouteEvent.word, if_true, reduceCtorEq, false_iff]
      grind [lastAdd_snoc]

/-- A route is dropped if it was before, or if its application is removed now. -/
theorem dropped_snoc : DroppedRoute (history ++ [e]) host ↔
      e.Leaves host ∧ (DroppedRoute history host ∨
        ∃ route loaded now marked forgotten, replayed host history = some route ∧
          e = .removeApp route.appId loaded now marked forgotten) := by
  constructor
  · rintro ⟨route, after, hlast, loaded, now, marked, forgotten, hmem⟩
    rcases lastAdd_snoc.mp hlast with ⟨-, -, rfl⟩ | ⟨earlier, rfl, hleaves, hearlier⟩
    · nomatch hmem
    · refine ⟨hleaves, ?_⟩
      rcases mem_append.mp hmem with hmem | hmem
      · exact .inl ⟨route, earlier, hearlier, loaded, now, marked, forgotten, hmem⟩
      · exact .inr ⟨route, loaded, now, marked, forgotten,
          (replayed_eq_some_iff history).mpr ⟨earlier, hearlier⟩, (mem_singleton.mp hmem).symm⟩
  · rintro ⟨hleaves, ⟨route, after, hlast, loaded, now, marked, forgotten, hmem⟩ |
      ⟨route, loaded, now, marked, forgotten, hreplayed, rfl⟩⟩
    · exact ⟨route, after ++ [e], lastAdd_snoc.mpr (.inr ⟨after, rfl, hleaves, hlast⟩), loaded, now,
        marked, forgotten, mem_append_left _ hmem⟩
    · rcases (replayed_eq_some_iff history).mp hreplayed with ⟨after, hlast⟩
      exact ⟨route, _, lastAdd_snoc.mpr (.inr ⟨after, rfl, hleaves, hlast⟩), loaded, now, marked,
        forgotten, mem_append_right _ (.head _)⟩

theorem loadRoute_handle (nodeId : String) (s : RoutingState) (e : HistoryEvent) (host : String) :
    (handleHistory nodeId s e).store.loadRoute host = match e with
      | .routeAdd route _ _ => (ReplayRouteEvent.add route).word host (s.store.loadRoute host)
      | .routeRemove removed _ _ _ =>
        (ReplayRouteEvent.remove removed).word host (s.store.loadRoute host)
      | .deployApp _ _ => s.store.loadRoute host
      | .removeApp appId _ _ _ _ =>
        (s.store.loadRoute host).filter (fun route => decide (route.appId ≠ appId)) := by
  cases e with
  | routeAdd route sender timestampMs => exact loadRoute_saveRoute s.store route host
  | routeRemove removed sender timestampMs loaded =>
    exact loadRoute_deleteRoute s.store removed host
  | deployApp d committed =>
    change OrdTable.get? (commitAll _ s.store).routes host = _
    rw [routes_deploy]
    rfl
  | removeApp appId loaded now marked forgotten =>
    exact loadRoute_handleRemove rfl (fun _ => rfl) s appId host

theorem loadRoute_of_leaves (nodeId : String) (s : RoutingState) (h : e.Leaves host) :
    (handleHistory nodeId s e).store.loadRoute host = s.store.loadRoute host ∧
        (∀ appId loaded now marked forgotten, e ≠ .removeApp appId loaded now marked forgotten) ∨
      ∃ appId loaded now marked forgotten, e = .removeApp appId loaded now marked forgotten ∧
        (handleHistory nodeId s e).store.loadRoute host =
          (s.store.loadRoute host).filter (fun route => decide (route.appId ≠ appId)) := by
  have hhandle := loadRoute_handle nodeId s e host
  cases e with
  | routeAdd route sender timestampMs | routeRemove removed sender timestampMs loaded =>
    exact .inl ⟨hhandle.trans (if_neg (Ne.symm (h _ rfl))), nofun⟩
  | deployApp d committed => exact .inl ⟨hhandle, nofun⟩
  | removeApp appId loaded now marked forgotten =>
    exact .inr ⟨appId, loaded, now, marked, forgotten, rfl, hhandle⟩

theorem dropped_other (hleaves : e.Leaves host) (hother : ∀ appId loaded now marked forgotten,
      e ≠ .removeApp appId loaded now marked forgotten) :
    DroppedRoute (history ++ [e]) host ↔ DroppedRoute history host := by
  grind [dropped_snoc]

theorem dropped_removeApp {appId : AppId} {loaded : String → Bool} {now : Nat}
    {marked forgotten : Bool} :
    DroppedRoute (history ++ [.removeApp appId loaded now marked forgotten]) host ↔
      DroppedRoute history host ∨
        ∃ route, replayed host history = some route ∧ route.appId = appId := by
  rw [dropped_snoc]
  constructor
  · rintro ⟨-, h | ⟨route, _, _, _, _, hroute, heq⟩⟩
    · exact .inl h
    · exact .inr ⟨route, hroute, (HistoryEvent.removeApp.inj heq).1.symm⟩
  · intro h
    refine ⟨nofun, h.imp_right ?_⟩
    rintro ⟨route, hroute, rfl⟩
    exact ⟨route, loaded, now, marked, forgotten, hroute, rfl⟩

/-- The table has what a replay would give, or nothing where the route was dropped. -/
theorem table_run (nodeId : String) {s : RoutingState} (hempty : s.store.routes = OrdTable.empty)
    (history : List HistoryEvent) (host : String) :
    ((runAll (handleHistory nodeId) s history).store.loadRoute host = none ∧
        DroppedRoute history host) ∨
      ((runAll (handleHistory nodeId) s history).store.loadRoute host = replayed host history ∧
        ¬ DroppedRoute history host) := by
  induction history using List.reverseRecOn with
  | nil =>
    right
    refine ⟨?_, ?_⟩
    · rw [runAll_nil, Store.loadRoute, hempty]
      rfl
    · rintro ⟨route, after, ⟨before, sender, timestampMs, hsplit, -⟩, -⟩
      exact absurd hsplit.symm (append_ne_nil_of_right_ne_nil _ (cons_ne_nil _ _))
  | append_singleton history e ih =>
    rw [runAll_append, runAll_cons, runAll_nil]
    rcases leaves_cases host e with hleaves |
      ⟨added, sender, timestampMs, rfl, hhost⟩ | ⟨sender, timestampMs, loaded, rfl⟩
    · rw [replayed_of_leaves hleaves]
      rcases loadRoute_of_leaves nodeId (runAll (handleHistory nodeId) s history) hleaves with
        ⟨hsame, hother⟩ | ⟨appId, loaded, now, marked, forgotten, rfl, hfilter⟩
      · rw [hsame, dropped_other hleaves hother]
        exact ih
      · -- A removal takes the route if it is there and leads to the application.
        rw [hfilter, dropped_removeApp]
        rcases ih with ⟨hnone, hdropped⟩ | ⟨hsame, hkept⟩
        · exact .inl ⟨by rw [hnone, Option.filter_none], .inl hdropped⟩
        · rw [hsame]
          cases hreplayed : replayed host history with
          | none =>
            grind
          | some route =>
            grind
    · right
      refine ⟨?_, fun hdropped => (dropped_snoc.mp hdropped).1 _ rfl hhost⟩
      rw [loadRoute_handle, replayed_snoc]
      simp [ReplayRouteEvent.word, HistoryEvent.routeEvent, hhost]
    · grind [loadRoute_handle, replayed_snoc, ReplayRouteEvent.word, HistoryEvent.routeEvent]

/-- A rebuild in which nothing fails gives the table there was exactly if no application
    was removed after a route to it was added that is the last word on its host. -/
theorem rebuild_restores_iff (nodeId : String) (start : RoutingState)
    (hempty : start.store.routes = OrdTable.empty) (history : List HistoryEvent)
    (hrange : ∀ e ∈ history, e.InRange) (env : ReplayEnv)
    (henv : env.Steady (routeEvents history).length) :
    let s := runAll (handleHistory nodeId) start history
    (partialRebuild env (routeStream history) ["routes"] s.store).2 = .ok () ∧
      ((partialRebuild env (routeStream history) ["routes"] s.store).1.routes = s.store.routes ↔
        ∀ host, ¬ DroppedRoute history host) := by
  intro s
  rw [partialRebuild_eq hrange henv]
  refine ⟨rfl, ?_⟩
  -- Tables are compared host by host.
  have hrebuilt : ∀ host, (applyAll (routeEvents history)
      { s.store with routes := OrdTable.empty }).loadRoute host = replayed host history :=
    fun host => loadRoute_replay _ _ host
  constructor
  · intro heq host hdropped
    have hread : ∀ t : Store, t.routes = s.store.routes →
        t.loadRoute host = s.store.loadRoute host :=
      fun t ht => congrArg (fun routes => OrdTable.get? routes host) ht
    have hsame := (hrebuilt host).symm.trans (hread _ heq)
    rcases table_run nodeId hempty history host with ⟨hnone, -⟩ | ⟨-, hkept⟩
    · rcases hdropped with ⟨route, after, hlast, -⟩
      rw [(replayed_eq_some_iff history).mpr ⟨after, hlast⟩, hnone] at hsame
      exact Option.some_ne_none _ hsame
    · exact hkept hdropped
  · intro hkept
    refine OrdTable.eq_of_get?_eq fun host => ?_
    rcases table_run nodeId hempty history host with ⟨-, hdropped⟩ | ⟨htable, -⟩
    · exact absurd hdropped (hkept host)
    · exact (hrebuilt host).trans htable.symm

def steadyReplay : ReplayEnv := ⟨true, true, [some 1, some 256], fun _ => true, fun _ => true⟩

def addApiRoute : HistoryEvent := .routeAdd (routeTo "default/api:v1" "/") "node-0" 1000

def removeOther : HistoryEvent := .removeApp ⟨"default/web:v1"⟩ (fun _ => true) 1001 true true

theorem rebuild_restores_other :
    let s := runAll (handleHistory "node-0") ⟨emptyStore, OrdTable.empty⟩ [addApiRoute, removeOther]
    (partialRebuild steadyReplay (routeStream [addApiRoute, removeOther]) ["routes"]
      s.store).1.routes = s.store.routes := by
  have hrange : ∀ e ∈ [addApiRoute, removeOther], e.InRange := by
    intro e he event hevent
    simp only [mem_cons, not_mem_nil, or_false] at he
    rcases he with rfl | rfl
    · rw [← Option.some.inj hevent]
      exact ⟨by decide, by decide, by decide⟩
    · nomatch hevent
  have hsteady : steadyReplay.Steady (routeEvents [addApiRoute, removeOther]).length :=
    ⟨rfl, rfl, .inr ⟨by decide, .inl rfl⟩, fun _ => rfl, fun _ => rfl⟩
  refine (rebuild_restores_iff "node-0" ⟨emptyStore, OrdTable.empty⟩ rfl _ hrange steadyReplay
    hsteady).2.mpr ?_
  rintro host ⟨route, after, ⟨before, sender, timestampMs, hsplit, -⟩, loaded, now, marked,
    forgotten, hmem⟩
  have hadd : HistoryEvent.routeAdd route sender timestampMs ∈ [addApiRoute, removeOther] := by
    rw [hsplit]
    exact mem_append_right _ mem_cons_self
  have hremove : HistoryEvent.removeApp route.appId loaded now marked forgotten ∈
      [addApiRoute, removeOther] := by
    rw [hsplit]
    exact mem_append_right _ (.tail _ hmem)
  simp only [addApiRoute, removeOther, mem_cons, not_mem_nil, or_false, reduceCtorEq,
    HistoryEvent.routeAdd.injEq, HistoryEvent.removeApp.injEq, false_or] at hadd hremove
  rw [hadd.1] at hremove
  nomatch hremove.1

/-- The application is removed with its route, and the rebuild brings the route back. -/
theorem rebuild_revives_route :
    let history := [addApiRoute, .removeApp ⟨"default/api:v1"⟩ (fun _ => true) 1002 true true]
    let s := runAll (handleHistory "node-0") ⟨emptyStore, OrdTable.empty⟩ history
    s.store.listRoutes = [] ∧
      (partialRebuild steadyReplay (routeStream history) ["routes"] s.store).2.toOption = some () ∧
      (partialRebuild steadyReplay (routeStream history) ["routes"] s.store).1.listRoutes =
        [routeTo "default/api:v1" "/"] := by
  decide +kernel

end WasmCloud
