import WasmCloud.Artifact.Contents

/-!
# Replication between Ingresses

An ingress announces the artifacts it has ingested, and the others fetch them from its
artifact server. The server lets requests from its own host in, and others only with a
signed manifest. The request of `replicate_artifact_locally` has no manifest, and the
announcement has none to send, so a request from another host is refused whatever the
server's keys, its clock and its replay cache are.

What an ingress holds after a run is therefore what it held before and what it has
ingested itself: `holds_run`.
-/

namespace WasmCloud

def StatusCode.text : StatusCode → String
  | .badRequest => "400 Bad Request"
  | .forbidden => "403 Forbidden"
  | .notFound => "404 Not Found"
  | .payloadTooLarge => "413 Payload Too Large"
  | .internalServerError => "500 Internal Server Error"
  | .serviceUnavailable => "503 Service Unavailable"

/-- `DeployIngressArtifactReplicated`. -/
structure ReplicaEvent where
  sourceIngressId : String
  artifactUrl : String
  expectedHash : String
  sizeBytes : Nat
  deriving DecidableEq, Repr

/-- An ingress: its raw artifacts, and the replay cache of its server. -/
structure IngressReplica where
  rawWasm : RawTable
  seen : ReplayCache

/-- The ingresses by their names, and what was announced. -/
structure ReplicaState where
  replicas : String → IngressReplica
  events : List ReplicaEvent

/-- The libraries, and of each ingress its addresses and the authority of its server. -/
structure ReplicaNet where
  http : HttpCrate
  fromSlice : List UInt8 → Option SignedArtifactTransferManifest
  digest : List UInt8 → List UInt8
  peer : String → SocketAddr
  serverUrl : String → String
  authority : String → Option ArtifactTransferAuthority

/-- `host` is the header the client adds, `network` whether the request gets through, and
    `committed` whether the database takes the artifact. -/
inductive ReplicaAction where
  | ingest (id : String) (env : FetchEnv) (artifact : RemoteArtifactSource) (announced : Bool)
  | handle (id : String) (index : Nat) (host : HeaderValue) (nowMs : UInt64) (poisoned : Bool)
      (network : Except String Unit) (committed : Except PlatformError Unit)

/-- The headers of `reqwest::Client::new().get(url)`. -/
def replicaHeaders (host : HeaderValue) : HeaderMap :=
  (MultiMap.empty.insert ⟨"accept"⟩ ⟨Text.utf8 "*/*"⟩).insert ⟨"host"⟩ host

def artifactResponse : Except StatusCode (List UInt8) → HttpResponse
  | .ok bytes => ⟨true, "200 OK", some bytes.length, [.ok bytes]⟩
  | .error status => ⟨false, status.text, some 0, []⟩

namespace ReplicaState

/-- The state with one ingress changed. -/
def set (s : ReplicaState) (id : String) (replica : IngressReplica) : ReplicaState :=
  { s with replicas := Function.update s.replicas id replica }

def Holds (s : ReplicaState) (id expectedHash : String) : Prop :=
  ((s.replicas id).rawWasm.get? expectedHash).isSome = true

/-- Whoever has announced an artifact holds it. -/
def SourcesHold (s : ReplicaState) : Prop :=
  ∀ event ∈ s.events, s.Holds event.sourceIngressId event.expectedHash

theorem replicas_set (s : ReplicaState) (id : String) (replica : IngressReplica) (x : String) :
    (s.set id replica).replicas x = if x = id then replica else s.replicas x :=
  Function.update_apply s.replicas id replica x

theorem rawWasm_set_same {s : ReplicaState} {id : String} {replica : IngressReplica}
    (h : replica.rawWasm = (s.replicas id).rawWasm) (x : String) :
    ((s.set id replica).replicas x).rawWasm = (s.replicas x).rawWasm := by
  rw [replicas_set]
  split <;> simp_all

end ReplicaState

section Steps

variable (net : ReplicaNet) (s : ReplicaState)

/-- How the server of the source answers the request of an ingress. -/
def serveReplica (id : String) (event : ReplicaEvent) (host : HeaderValue)
    (nowMs : UInt64) (poisoned : Bool) : ReplayCache × Except StatusCode (List UInt8) :=
  getArtifact net.http net.fromSlice (replicaHeaders host)
    { emptyStore with rawWasm := (s.replicas event.sourceIngressId).rawWasm } (net.peer id)
    (net.authority event.sourceIngressId) (s.replicas event.sourceIngressId).seen
    event.expectedHash nowMs poisoned

/-- The end of `replicate_artifact_locally`: what is done with the answer. -/
def storeReplica (table : RawTable) (expectedHash : String) (answer : Except String HttpResponse)
    (committed : Except PlatformError Unit) : RawTable × Except PlatformError Unit :=
  match fetchReplica net.digest expectedHash answer, committed with
  | .error e, _ => (table, .error e)
  | .ok _, .error e => (table, .error e)
  | .ok bytes, .ok () => (table.insert (expectedHash, bytes), .ok ())

/-- `replicate_artifact_locally`, with the server it asks. -/
def replicateArtifactLocally (id : String) (event : ReplicaEvent)
    (host : HeaderValue) (nowMs : UInt64) (poisoned : Bool) (network : Except String Unit)
    (committed : Except PlatformError Unit) : ReplicaState × Except PlatformError Unit :=
  if ((s.replicas id).rawWasm.get? event.expectedHash).isSome then (s, .ok ())
  else
    match network with
    | .error e => (s, .error (.external e))
    | .ok () =>
      let reply := serveReplica net s id event host nowMs poisoned
      let served := s.set event.sourceIngressId
        { s.replicas event.sourceIngressId with seen := reply.1 }
      let stored := storeReplica net (s.replicas id).rawWasm event.expectedHash
        (.ok (artifactResponse reply.2)) committed
      (served.set id { served.replicas id with rawWasm := stored.1 }, stored.2)

def storeIngested (id expectedHash : String) (bytes : List UInt8) : ReplicaState :=
  if ((s.replicas id).rawWasm.get? expectedHash).isSome then s
  else s.set id
    { s.replicas id with rawWasm := (s.replicas id).rawWasm.insert (expectedHash, bytes) }

def replicaStep : ReplicaAction → ReplicaState
  | .ingest id env artifact announced =>
    match ingestBytes net.digest env artifact with
    | .error _ => s
    | .ok (expectedHash, bytes) =>
      { storeIngested s id expectedHash bytes with
        events := if announced then
            s.events ++ [⟨id,
              Text.trimEndMatches (net.serverUrl id) "/" ++ "/artifacts/" ++ expectedHash,
              expectedHash, bytes.length⟩]
          else s.events }
  | .handle id index host nowMs poisoned network committed =>
    match s.events[index]? with
    | none => s
    | some event =>
      if event.sourceIngressId = id then s
      else (replicateArtifactLocally net s id event host nowMs poisoned network committed).1

def ReplicaAction.Ingests (a : ReplicaAction) (id expectedHash : String) : Prop :=
  ∃ env artifact announced bytes, a = .ingest id env artifact announced ∧
    ingestBytes net.digest env artifact = .ok (expectedHash, bytes)

/-- If the action sends a request, the request is accepted. -/
def ReplicaAction.Accepted : ReplicaAction → Prop
  | .ingest .. => True
  | .handle id index host nowMs poisoned network _ =>
    ∀ event, s.events[index]? = some event → event.sourceIngressId ≠ id → network = .ok () →
      s.Holds id event.expectedHash ∨
        ∃ bytes, (serveReplica net s id event host nowMs poisoned).2 = .ok bytes

/-- An ingress that handles an announcement already holds the artifact. -/
def ReplicaAction.AlreadyHeld : ReplicaAction → Prop
  | .ingest .. => True
  | .handle id index _ _ _ network _ =>
    ∀ event, s.events[index]? = some event → event.sourceIngressId ≠ id → network = .ok () →
      s.Holds id event.expectedHash

/-- The ingress has handled the announcement in the run, and the network let it through. -/
def Handled (actions : List ReplicaAction) (id : String) (event : ReplicaEvent) : Prop :=
  ∃ before index host nowMs poisoned committed after,
    actions = before ++ .handle id index host nowMs poisoned (.ok ()) committed :: after ∧
      (runAll (replicaStep net) s before).events[index]? = some event

end Steps

section Refused

variable {net : ReplicaNet}

theorem transferManifest_replicaHeaders (host : HeaderValue) :
    transferManifest net.http net.fromSlice (replicaHeaders host) = none := by
  have hget : (replicaHeaders host).get ⟨artifactTransferManifestHeader⟩ = none := by
    rw [MultiMap.get, replicaHeaders, MultiMap.insert_other _ _ _ (by decide),
      MultiMap.insert_other _ _ _ (by decide)]
    rfl
  rw [transferManifest, headerStr, hget]
  rfl

variable {id : String}

theorem serveReplica_forbidden (s : ReplicaState) (hpeer : (net.peer id).ip.isLoopback = false)
    (event : ReplicaEvent) (host : HeaderValue) (nowMs : UInt64) (poisoned : Bool) :
    serveReplica net s id event host nowMs poisoned =
      ((s.replicas event.sourceIngressId).seen, .error .forbidden) := by
  have hvalid (authority : Option ArtifactTransferAuthority) :
      validManifest net.http net.fromSlice (replicaHeaders host) authority .read
        event.expectedHash nowMs = none := by
    rw [validManifest, transferManifest_replicaHeaders]
    rcases authority with _ | a <;> rfl
  simp [serveReplica, getArtifact, ensureAuthorizedPeerRead, hpeer, authorizeSignedManifest, hvalid]

theorem storeReplica_forbidden (table : RawTable) (expectedHash : String)
    (committed : Except PlatformError Unit) :
    storeReplica net table expectedHash (.ok (artifactResponse (.error .forbidden))) committed =
      (table, .error (.external "artifact replication fetch failed with HTTP 403 Forbidden")) := by
  rw [storeReplica]
  rfl

theorem rawWasm_replicate (s : ReplicaState) (hpeer : (net.peer id).ip.isLoopback = false)
    (event : ReplicaEvent) (host : HeaderValue) (nowMs : UInt64) (poisoned : Bool)
    (network : Except String Unit) (committed : Except PlatformError Unit) (x : String) :
    ((replicateArtifactLocally net s id event host nowMs poisoned network committed).1.replicas
      x).rawWasm = (s.replicas x).rawWasm := by
  unfold replicateArtifactLocally
  split
  · rfl
  · split
    · rfl
    · simp only [serveReplica_forbidden s hpeer, storeReplica_forbidden]
      -- neither the answer of the source nor what is done with it changes the artifacts
      refine (ReplicaState.rawWasm_set_same ?_ x).trans (ReplicaState.rawWasm_set_same rfl x)
      exact (ReplicaState.rawWasm_set_same rfl id).symm

theorem holds_storeIngested (s : ReplicaState) (id expectedHash : String) (bytes : List UInt8)
    (x hash : String) :
    (storeIngested s id expectedHash bytes).Holds x hash ↔
      s.Holds x hash ∨ (x = id ∧ hash = expectedHash) := by
  rw [storeIngested]
  split
  · rename_i hheld
    refine ⟨.inl, fun h => ?_⟩
    rcases h with h | ⟨hx, hhash⟩
    · exact h
    · rw [hx, hhash]
      exact hheld
  · grind [ReplicaState.Holds, ReplicaState.replicas_set]

theorem not_ingests_handle (handler : String) (index : Nat) (host : HeaderValue)
    (nowMs : UInt64) (poisoned : Bool) (network : Except String Unit)
    (committed : Except PlatformError Unit) (id hash : String) :
    ¬ (ReplicaAction.handle handler index host nowMs poisoned network committed).Ingests net id
      hash := by
  rintro ⟨env, artifact, announced, bytes, heq, -⟩
  cases heq

theorem events_replicate (s : ReplicaState) (id : String) (event : ReplicaEvent)
    (host : HeaderValue) (nowMs : UInt64) (poisoned : Bool) (network : Except String Unit)
    (committed : Except PlatformError Unit) :
    (replicateArtifactLocally net s id event host nowMs poisoned network committed).1.events =
      s.events := by
  unfold replicateArtifactLocally
  split
  · rfl
  · split <;> rfl

variable {s : ReplicaState} {event : ReplicaEvent}

theorem mem_events_step {a : ReplicaAction} (h : event ∈ (replicaStep net s a).events) :
    event ∈ s.events ∨ a.Ingests net event.sourceIngressId event.expectedHash := by
  cases a with
  | ingest source env artifact announced =>
    rw [replicaStep] at h
    rcases hingest : ingestBytes net.digest env artifact with e | ⟨expectedHash, bytes⟩
    · rw [hingest] at h
      exact .inl h
    · rw [hingest] at h
      simp only at h
      split at h
      · rcases List.mem_append.mp h with h | h
        · exact .inl h
        · rw [List.mem_singleton.mp h]
          exact .inr ⟨env, artifact, announced, bytes, rfl, hingest⟩
      · exact .inl h
  | handle handler index host nowMs poisoned network committed =>
    grind [replicaStep, events_replicate]

variable (hpeers : ∀ id, (net.peer id).ip.isLoopback = false)
include hpeers

theorem holds_step (s : ReplicaState) (a : ReplicaAction) (id hash : String) :
    (replicaStep net s a).Holds id hash ↔ s.Holds id hash ∨ a.Ingests net id hash := by
  cases a with
  | ingest source env artifact announced =>
    rw [replicaStep]
    rcases hingest : ingestBytes net.digest env artifact with e | ⟨expectedHash, bytes⟩
    · refine ⟨.inl, fun h => ?_⟩
      rcases h with h | ⟨env', artifact', announced', bytes, heq, hok⟩
      · exact h
      · cases heq
        rw [hingest] at hok
        cases hok
    · refine (holds_storeIngested s source expectedHash bytes id hash).trans
        (or_congr_right ⟨?_, ?_⟩)
      · rintro ⟨rfl, rfl⟩
        exact ⟨env, artifact, announced, bytes, rfl, hingest⟩
      · rintro ⟨env', artifact', announced', bytes', heq, hok⟩
        grind
  | handle handler index host nowMs poisoned network committed =>
    rw [or_iff_left (not_ingests_handle handler index host nowMs poisoned network committed id
      hash), replicaStep]
    grind [ReplicaState.Holds, rawWasm_replicate]

/-- An ingress holds what it held before and what it has ingested itself. -/
theorem holds_run (s : ReplicaState) (actions : List ReplicaAction) (id hash : String) :
    (runAll (replicaStep net) s actions).Holds id hash ↔
      s.Holds id hash ∨ ∃ a ∈ actions, a.Ingests net id hash := by
  induction actions generalizing s with
  | nil => simp
  | cons a actions ih =>
    rw [runAll_cons, ih, holds_step hpeers]
    simp only [List.mem_cons, exists_eq_or_imp, or_assoc]

theorem holds_run_of_holds (actions : List ReplicaAction) {hash : String} (h : s.Holds id hash) :
    (runAll (replicaStep net) s actions).Holds id hash :=
  (holds_run hpeers s actions id hash).mpr (.inl h)

theorem sourcesHold_step (s : ReplicaState) (a : ReplicaAction) (hs : s.SourcesHold) :
    (replicaStep net s a).SourcesHold := by
  intro event hevent
  rw [holds_step hpeers]
  exact (mem_events_step hevent).imp_left (hs event)

theorem accepted_iff_alreadyHeld (s : ReplicaState) (a : ReplicaAction) :
    a.Accepted net s ↔ a.AlreadyHeld s := by
  cases a with
  | ingest source env artifact announced => exact Iff.rfl
  | handle id index host nowMs poisoned network committed =>
    have hrefused (event : ReplicaEvent) :
        ¬ ∃ bytes, (serveReplica net s id event host nowMs poisoned).2 = .ok bytes := by
      rintro ⟨bytes, hok⟩
      rw [serveReplica_forbidden s (hpeers id)] at hok
      cases hok
    simp [ReplicaAction.Accepted, ReplicaAction.AlreadyHeld, hrefused]

theorem holds_of_handled {actions : List ReplicaAction}
    (hheld : Along (replicaStep net) ReplicaAction.AlreadyHeld s actions)
    (hid : id ≠ event.sourceIngressId) (hhandled : Handled net s actions id event) :
    (runAll (replicaStep net) s actions).Holds id event.expectedHash := by
  rcases hhandled with ⟨before, index, host, nowMs, poisoned, committed, after, hactions, hevent⟩
  rw [hactions, along_append] at hheld
  rw [hactions, runAll_append]
  exact holds_run_of_holds hpeers _ (hheld.2.1 event hevent hid.symm rfl)

end Refused

/-- In a run in which every announcement has been handled, the requests are accepted and
    all hold the announced artifacts exactly if each ingress already held an artifact when
    it handled the announcement. -/
theorem replicated_iff (net : ReplicaNet) (hpeers : ∀ id, (net.peer id).ip.isLoopback = false)
    (s : ReplicaState) (hs : s.SourcesHold) (actions : List ReplicaAction) (ingresses : List String)
    (hhandled : ∀ event ∈ (runAll (replicaStep net) s actions).events, ∀ id ∈ ingresses,
      id ≠ event.sourceIngressId → Handled net s actions id event) :
    (Along (replicaStep net) (ReplicaAction.Accepted net) s actions ∧
        ∀ event ∈ (runAll (replicaStep net) s actions).events, ∀ id ∈ ingresses,
          (runAll (replicaStep net) s actions).Holds id event.expectedHash) ↔
      Along (replicaStep net) ReplicaAction.AlreadyHeld s actions := by
  have hsame : ReplicaAction.Accepted net = ReplicaAction.AlreadyHeld := by
    funext s a
    exact propext (accepted_iff_alreadyHeld hpeers s a)
  rw [hsame]
  refine ⟨And.left, fun hheld => ⟨hheld, fun event hevent id hid => ?_⟩⟩
  by_cases hsource : id = event.sourceIngressId
  · rw [hsource]
    exact invariant_run (sourcesHold_step hpeers) actions hs event hevent
  · exact holds_of_handled hpeers hheld hsource (hhandled event hevent id hid hsource)

def twoIngresses : ReplicaNet where
  http := HttpCrate.documented
  fromSlice _ := none
  digest := shortSha256
  peer id := ⟨.v4 (if id = "a" then 0x0a000001 else 0x0a000002), 40000⟩
  serverUrl id := "http://" ++ id ++ ":9090"
  authority id := some (.ideal id [])

theorem twoIngresses_peers (id : String) : (twoIngresses.peer id).ip.isLoopback = false := by
  by_cases h : id = "a"
  · simp only [twoIngresses, if_pos h]
    rfl
  · simp only [twoIngresses, if_neg h]
    rfl

def noReplicas : ReplicaState := ⟨fun _ => ⟨OrdTable.empty, OrdTable.empty⟩, []⟩

def ingestOne (id : String) : ReplicaAction :=
  .ingest id zeroServer ⟨none, "https://ci.example/app.wasm", zeroHash, none, none⟩ true

def oneAnnounced (id : String) : ReplicaEvent :=
  ⟨id, "http://" ++ id ++ ":9090/artifacts/" ++ zeroHash, zeroHash, 1⟩

def handleOne (id : String) (index : Nat) : ReplicaAction :=
  .handle id index ⟨Text.utf8 "a:9090"⟩ 0 false (.ok ()) (.ok ())

/-- Both ingest the artifact and handle the announcement of the other. -/
theorem replicated_ingested :
    let actions := [ingestOne "a", ingestOne "b", handleOne "b" 0, handleOne "a" 1]
    let run := runAll (replicaStep twoIngresses) noReplicas actions
    run.events = [oneAnnounced "a", oneAnnounced "b"] ∧
      Along (replicaStep twoIngresses) (ReplicaAction.Accepted twoIngresses) noReplicas actions ∧
      ∀ event ∈ run.events, ∀ id ∈ ["a", "b"], run.Holds id event.expectedHash := by
  intro actions run
  have hevents : run.events = [oneAnnounced "a", oneAnnounced "b"] := by decide
  refine ⟨hevents, (replicated_iff twoIngresses twoIngresses_peers noReplicas ?_ actions ["a", "b"]
    ?_).mpr ?_⟩
  · intro event hevent
    cases hevent
  · intro event hevent id hid hother
    have hmem : event ∈ [oneAnnounced "a", oneAnnounced "b"] := hevents ▸ hevent
    rw [List.mem_pair] at hmem hid
    rcases hmem with rfl | rfl <;> rcases hid with rfl | rfl
    · cases hother rfl
    · exact ⟨[ingestOne "a", ingestOne "b"], 0, _, _, _, _, [handleOne "a" 1], rfl, by decide⟩
    · exact ⟨[ingestOne "a", ingestOne "b", handleOne "b" 0], 1, _, _, _, _, [], rfl, by decide⟩
    · cases hother rfl
  · refine ⟨trivial, trivial, ?_, ?_, trivial⟩
    · intro event hevent _ _
      have hfirst : event = oneAnnounced "a" := Option.some.inj (hevent.symm.trans (by decide))
      rw [hfirst, ReplicaState.Holds]
      decide
    · intro event hevent _ _
      have hsecond : event = oneAnnounced "b" := Option.some.inj (hevent.symm.trans (by decide))
      rw [hsecond, ReplicaState.Holds]
      decide

/-- The other ingress handles the announcement, asks for the artifact and does not get it. -/
theorem artifact_not_replicated :
    let announced := replicaStep twoIngresses noReplicas (ingestOne "a")
    let event := oneAnnounced "a"
    let host : HeaderValue := ⟨Text.utf8 "a:9090"⟩
    let handled := replicaStep twoIngresses announced (handleOne "b" 0)
    announced.events = [event] ∧ announced.Holds "a" event.expectedHash ∧
      (replicateArtifactLocally twoIngresses announced "b" event host 0 false (.ok ()) (.ok ())).2 =
        .error (.external "artifact replication fetch failed with HTTP 403 Forbidden") ∧
      ¬ handled.Holds "b" event.expectedHash := by
  intro announced event host handled
  have hnot : ((announced.replicas "b").rawWasm.get? event.expectedHash).isSome = false := by
    decide
  refine ⟨by decide, by unfold ReplicaState.Holds; decide, ?_, ?_⟩
  · simp [replicateArtifactLocally, hnot,
      serveReplica_forbidden announced (twoIngresses_peers "b"), storeReplica_forbidden]
  · intro hholds
    rcases (holds_step twoIngresses_peers announced _ "b" event.expectedHash).mp hholds with h | h
    · rw [ReplicaState.Holds, hnot] at h
      cases h
    · exact not_ingests_handle _ _ _ _ _ _ _ _ _ h

end WasmCloud
