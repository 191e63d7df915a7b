import WasmCloud.Artifact.Contents
import WasmCloud.Ingress.Signature
import WasmCloud.Lib.Attempt
import WasmCloud.Node.ApiKeys

/-!
# Deploy Intents at the Ingress

The deploy ingress validates an intent, makes sure that it has the credential the artifact
is fetched with, waits for a node to deploy to, fetches and stores the artifact, verifies
its signature, records the verification, and publishes. It returns at the first step that
fails, and what the steps before it did stays. The signature is verified after the artifact
is stored, so a rejected signature leaves the artifact behind unless it was there before.
-/

namespace WasmCloud

open Attempt

/-- What it publishes, the secrets its configuration refers to, and where the artifact is. -/
structure IngressIntent where
  request : DeployIntentRequest
  secretKeys : List String
  artifact : RemoteArtifactSource

/-- The ingress's tables that handling intents changes, and what was published. -/
structure IngressState where
  rawWasm : RawTable
  verifications : KeyedTable ArtifactVerificationRecord
  apiKeys : KeyedTable (List ApiKeyRecord)
  credentials : KeyedTable String
  published : List ClusterEvent

inductive IntentStage where
  | validation
  | credential
  | targets
  | fetch
  | storage
  | signature
  | recording
  | publication
  | keys
  deriving DecidableEq, Repr

structure IntentError where
  stage : IntentStage
  error : PlatformError
  deriving DecidableEq, Repr

structure DeployIntentResponse where
  appId : AppId
  artifactUrl : String
  expectedHash : String
  sizeBytes : Nat
  sourceNodeId : String
  artifactTransferManifests : List (String × SignedArtifactTransferManifest)
  gatewayConfigPublished : Bool
  routeCount : Nat
  apiKeyCount : Nat

/-- A node's name, and whether it has not been heard of for too long. -/
structure ClusterNodeEntry where
  nodeId : String
  stale : Bool
  deriving DecidableEq, Repr

/-- The ingress's settings, the libraries, and what the credential store, the database and the
    bus answer. `polls` are the tables of nodes it sees while it waits. -/
structure IngressEnv where
  ingressId : String
  artifactServerUrl : String
  haEnabled : Bool
  policy : SignaturePolicy
  requireOciDigestRefs : Bool
  fetchEnv : FetchEnv
  lib : SignatureLibrary
  authority : ArtifactTransferAuthority
  issuedAt : String → UInt64 × Uuid
  credentialEntry : String → Except String (Option (List UInt8))
  decrypt : String → Except PlatformError String
  credentialSaved : Except PlatformError Unit
  polls : List (Except PlatformError (List ClusterNodeEntry))
  rawRead : Except PlatformError Unit
  rawSaved : Except PlatformError Unit
  nodesRead : Except PlatformError Unit
  verificationSaved : Except PlatformError Unit
  published : Nat → Except String Unit
  keysSaved : Except String Unit
  keysPublished : Except String Unit

/-- A route has the intent's application and a host. -/
def checkRoute (appId : AppId) (route : Route) : Except PlatformError Unit := do
  ensure (route.appId = appId) (.configValidation
    ("deploy intent route host " ++ route.host ++ " targets app_id " ++ route.appId.text ++
      " instead of " ++ appId.text))
  ensure (Text.trim route.host ≠ "")
    (.configValidation "deploy intent route host cannot be empty")

def checkRoutes (appId : AppId) : List Route → Except PlatformError Unit
  | [] => .ok ()
  | route :: routes => do
    checkRoute appId route
    checkRoutes appId routes

/-- A policy may ask for references by digest. -/
def checkReference (requireOciDigestRefs : Bool) (reference : Option String) :
    Except PlatformError Unit :=
  match requireOciDigestRefs, reference with
  | true, some reference => do
    let pinned ← ociReferenceIsDigestPinned reference
    ensure (pinned = true) (.security
      "deploy-ingress policy requires OCI artifact references to be digest-pinned")
  | _, _ => .ok ()

def validateDeployIntentRequest (requireOciDigestRefs : Bool) (intent : IngressIntent) :
    Except PlatformError Unit := do
  ensure (intent.request.appId = intent.request.config.id) (.configValidation
    ("deploy intent app_id " ++ intent.request.appId.text ++ " does not match config.id " ++
      intent.request.config.id.text))
  ensure (Text.trim intent.request.config.ns = intent.request.appId.ns) (.configValidation
    ("deploy intent namespace " ++ intent.request.config.ns ++
      " does not match app_id namespace " ++ intent.request.appId.ns))
  ensure (∀ key ∈ intent.secretKeys, Text.trim key ≠ "" ∧ '=' ∉ key.toList) (.configValidation
    "deploy intent secret references must be non-empty names, not inline values")
  ensure (intent.artifact.reference.isSome ∨ Text.trim intent.artifact.sha256 ≠ "")
    (.configValidation "remote HTTP artifact sources require sha256")
  checkRoutes intent.request.appId intent.request.routes
  checkReference requireOciDigestRefs intent.artifact.reference

namespace IngressEnv

variable (env : IngressEnv)

/-- A step that only looks, and its error. -/
def during {α : Type} (stage : IntentStage) (result : Except PlatformError α) :
    Attempt IngressState IntentError α :=
  Attempt.ofExcept (result.mapError (fun e => ⟨stage, e⟩))

/-- The credential in the shared store. -/
def sharedCredential (credentialRef : String) : Except PlatformError String := do
  let entry ← (env.credentialEntry credentialRef).mapError .messaging
  let value ← entry.elim (throw (.security ("artifact credential '" ++ credentialRef ++
    "' not found in shared deploy-ingress credential store"))) pure
  let encrypted ← (Text.fromUtf8 value).elim
    (throw (.encryption "artifact credential entry is not utf-8")) pure
  env.decrypt encrypted

def ensureLocalArtifactCredential (credentialRef : Option String) :
    Attempt IngressState IntentError Unit :=
  match credentialRef with
  | none => pure ()
  | some credentialRef => do
    let st ← get
    if (st.credentials.get? credentialRef).isSome then pure ()
    else
      let plaintext ← during .credential (env.sharedCredential credentialRef)
      during .credential env.credentialSaved
      update (fun st =>
        { st with credentials := st.credentials.insert (credentialRef, plaintext) })

def activeTargetNodes (nodes : List ClusterNodeEntry) : List String :=
  ((nodes.filter (fun node => !node.stale)).map ClusterNodeEntry.nodeId).filter
    (fun nodeId => nodeId ≠ env.ingressId)

/-- The loop of `wait_for_active_cluster_target_nodes`. -/
def waitFrom : List (Except PlatformError (List ClusterNodeEntry)) →
    Except PlatformError (List String)
  | [] => .error (.external ("no active target cluster nodes registered in deploy ingress " ++
      "before deploy intent timeout"))
  | poll :: polls => do
    let nodes ← poll
    if (env.activeTargetNodes nodes).isEmpty then waitFrom polls
    else return env.activeTargetNodes nodes

def waitForActiveClusterTargetNodes : Except PlatformError (List String) := env.waitFrom env.polls

/-- The end of `ingest_remote_artifact`. The size of the artifact is the result. -/
def storeRaw (expectedHash : String) (bytes : List UInt8) :
    Attempt IngressState IntentError Nat := do
  during .storage env.rawRead
  let st ← get
  match st.rawWasm.get? expectedHash with
  | some existing => do
    during .storage env.nodesRead
    return existing.2.length
  | none => do
    during .storage env.rawSaved
    update (fun st => { st with rawWasm := st.rawWasm.insert (expectedHash, bytes) })
    during .storage env.nodesRead
    return bytes.length

variable (intent : IngressIntent)

def announcements (expectedHash : String) : List ClusterEvent :=
  intent.request.plan
    (if env.haEnabled then [.deployIngressArtifactReplicated expectedHash] else []) expectedHash

/-- Publish until one publication fails. -/
def publishAnnouncements (expectedHash : String) :
    Attempt IngressState IntentError Unit := do
  let sent := publishAll env.published (env.announcements intent expectedHash)
  update (fun st => { st with published := st.published ++ sent.2 })
  during .publication (sent.1.mapError .messaging)

/-- Store the keys and announce them. That publication may fail. -/
def saveApiKeys : Attempt IngressState IntentError Unit :=
  if intent.request.apiKeys.isEmpty then pure ()
  else do
    during .keys (env.keysSaved.mapError .storage)
    update (fun st =>
      { st with
        apiKeys := st.apiKeys.insert (intent.request.appId.text, intent.request.apiKeys)
        published := st.published ++
          (match env.keysPublished with
            | .ok () => [intent.request.keyUpdate]
            | .error _ => []) })

/-- What an accepted intent is published with. -/
def publishIntent (expectedHash : String) :
    Attempt IngressState IntentError Unit := do
  env.publishAnnouncements intent expectedHash
  env.saveApiKeys intent

/-- What follows the verification of the signature. -/
def announce (expectedHash : String)
    (verification : ArtifactVerificationRecord) : Attempt IngressState IntentError Unit := do
  during .recording env.verificationSaved
  update (fun st =>
    { st with verifications := st.verifications.insert (expectedHash, verification) })
  env.publishIntent intent expectedHash

def processDeployIntent :
    Attempt IngressState IntentError DeployIntentResponse := do
  during .validation (validateDeployIntentRequest env.requireOciDigestRefs intent)
  env.ensureLocalArtifactCredential intent.artifact.credentialRef
  let targetNodeIds ← during .targets env.waitForActiveClusterTargetNodes
  let (expectedHash, bytes) ← during .fetch
    (ingestBytes env.lib.digest env.fetchEnv intent.artifact)
  let sizeBytes ← env.storeRaw expectedHash bytes
  let verification ← during .signature
    (verifyArtifactSignature env.lib env.policy expectedHash intent.artifact)
  env.announce intent expectedHash verification
  return {
    appId := intent.request.appId
    artifactUrl := Text.trimEndMatches env.artifactServerUrl "/" ++ "/artifacts/" ++ expectedHash
    expectedHash := expectedHash
    sizeBytes := sizeBytes
    sourceNodeId := env.ingressId
    artifactTransferManifests := targetNodeIds.map (fun nodeId =>
      (nodeId, env.authority.issueManifest
        (issueReadForAudience (env.issuedAt nodeId).1 (env.issuedAt nodeId).2 expectedHash nodeId)))
    gatewayConfigPublished := intent.request.gatewayConfig.isSome
    routeCount := intent.request.routes.length
    apiKeyCount := intent.request.apiKeys.length }

end IngressEnv

section Steps

open IngressEnv

variable {env : IngressEnv} {intent} {st st' : IngressState} {err : IntentError}
  {α : Type} {stage : IntentStage}

theorem during_error_iff {result : Except PlatformError α} :
    (during stage result).exec st = (.error err, st') ↔
      (∃ e, result = .error e ∧ err = ⟨stage, e⟩) ∧ st' = st := by
  rcases result with e | a
  · simp only [during, exec_ofExcept, Except.mapError, Prod.mk.injEq, Except.error.injEq,
      exists_eq_left', eq_comm]
  · simp only [during, exec_ofExcept, Except.mapError, Prod.mk.injEq, reduceCtorEq,
      false_and, exists_false]

theorem during_ok_iff {result : Except PlatformError α} {a : α} :
    (during stage result).exec st = (.ok a, st') ↔ result = .ok a ∧ st' = st := by
  rcases result with e | b
  · simp only [during, exec_ofExcept, Except.mapError, Prod.mk.injEq, reduceCtorEq, false_and]
  · simp only [during, exec_ofExcept, Except.mapError, Prod.mk.injEq, Except.ok.injEq, eq_comm]

/-- The tables and the bus, but for the credentials. -/
def Untouched (st st' : IngressState) : Prop :=
  st'.rawWasm = st.rawWasm ∧ st'.verifications = st.verifications ∧ st'.apiKeys = st.apiKeys ∧
    st'.published = st.published

instance : Std.Refl Untouched := ⟨fun _ => ⟨rfl, rfl, rfl, rfl⟩⟩

instance : IsTrans IngressState Untouched := ⟨fun _ _ _ h h' =>
  ⟨h'.1.trans h.1, h'.2.1.trans h.2.1, h'.2.2.1.trans h.2.2.1, h'.2.2.2.trans h.2.2.2⟩⟩

/-- Any change is allowed. -/
def AnyChange (_ _ : IngressState) : Prop := True

instance : Std.Refl AnyChange := ⟨fun _ => trivial⟩

instance : IsTrans IngressState AnyChange := ⟨fun _ _ _ _ _ => trivial⟩

theorem within_during {S : IngressState → IngressState → Prop} [Std.Refl S]
    {E : IntentError → Prop} (hE : ∀ e, E ⟨stage, e⟩) (result : Except PlatformError α) :
    Attempt.Within S E (during stage result) := by
  refine within_ofExcept fun err herr => ?_
  rcases result with e | a
  · cases herr
    exact hE e
  · cases herr

theorem within_ensureCredential (credentialRef : Option String) :
    Attempt.Within Untouched (fun err => err.stage = .credential)
      (env.ensureLocalArtifactCredential credentialRef) := by
  rcases credentialRef with _ | credentialRef
  · exact within_pure ()
  · rw [ensureLocalArtifactCredential]
    refine within_bind within_get fun st => ?_
    split
    · exact within_pure ()
    · refine within_bind (within_during (fun _ => rfl) _) fun plaintext => ?_
      refine within_bind (within_during (fun _ => rfl) _) fun _ => ?_
      exact within_update fun st => ⟨rfl, rfl, rfl, rfl⟩

variable {expectedHash : String} {bytes : List UInt8}

theorem exec_storeRaw {size : Nat}
    (h : (env.storeRaw expectedHash bytes).exec st = (.ok size, st')) :
    st' = if (st.rawWasm.get? expectedHash).isSome then st
      else { st with rawWasm := st.rawWasm.insert (expectedHash, bytes) } := by
  simp only [storeRaw, exec_bind_ok_iff, during_ok_iff, exec_get] at h
  rcases h with ⟨_, t, ⟨-, ht⟩, s, u, hget, h⟩
  rw [ht] at hget
  cases hget
  rcases hraw : st.rawWasm.get? expectedHash with _ | existing
  · simp only [hraw, exec_bind_ok_iff, during_ok_iff, exec_update] at h
    rcases h with ⟨_, t, ⟨-, ht⟩, _, u, hupdate, _, v, ⟨-, hv⟩, hpure⟩
    rw [ht] at hupdate
    cases hupdate
    rw [hv] at hpure
    cases hpure
    rfl
  · simp only [hraw, exec_bind_ok_iff, during_ok_iff] at h
    rcases h with ⟨_, t, ⟨-, ht⟩, hpure⟩
    rw [ht] at hpure
    cases hpure
    rfl

theorem untouched_stored_iff (h : Untouched st st') :
    Untouched st (if (st'.rawWasm.get? expectedHash).isSome then st'
      else { st' with rawWasm := st'.rawWasm.insert (expectedHash, bytes) }) ↔
      (st.rawWasm.get? expectedHash).isSome := by
  rw [h.1]
  split
  · rename_i hpresent
    exact iff_of_true h hpresent
  · rename_i habsent
    refine iff_of_false (fun hsame => habsent ?_) habsent
    have hget : (st.rawWasm.insert (expectedHash, bytes)).get? expectedHash =
        st.rawWasm.get? expectedHash :=
      congrArg (fun table => OrdTable.get? table expectedHash) hsame.1
    rw [← hget, OrdTable.get?_insert, if_pos rfl]
    rfl

theorem within_storeRaw (expectedHash : String) (bytes : List UInt8) :
    Attempt.Within AnyChange (fun err => err.stage = .storage)
      (env.storeRaw expectedHash bytes) := by
  have hduring {α : Type} (result : Except PlatformError α) :
      Attempt.Within AnyChange (fun err => err.stage = .storage) (during .storage result) :=
    within_during (fun _ => rfl) result
  refine within_bind (hduring _) fun _ => ?_
  refine within_bind within_get fun st => ?_
  split
  · refine within_bind (hduring _) fun _ => ?_
    exact within_pure _
  · refine within_bind (hduring _) fun _ => ?_
    refine within_bind (within_update fun _ => trivial) fun _ => ?_
    refine within_bind (hduring _) fun _ => ?_
    exact within_pure _

theorem within_announce (expectedHash : String) (verification : ArtifactVerificationRecord) :
    Attempt.Within AnyChange
      (fun err => err.stage = .recording ∨ err.stage = .publication ∨ err.stage = .keys)
      (env.announce intent expectedHash verification) := by
  refine within_bind (within_during (fun _ => .inl rfl) _) fun _ => ?_
  refine within_bind (within_update fun _ => trivial) fun _ => ?_
  refine within_bind ?_ fun _ => ?_
  · refine within_bind (within_update fun _ => trivial) fun _ => ?_
    exact within_during (fun _ => .inr (.inl rfl)) _
  · unfold saveApiKeys
    split
    · exact within_pure ()
    · refine within_bind (within_during (fun _ => .inr (.inr rfl)) _) fun _ => ?_
      exact within_update fun _ => trivial

end Steps

/-- The steps that reject an intent for what it says. -/
def IntentStage.Rejects (stage : IntentStage) : Prop :=
  stage = .validation ∨ stage = .fetch ∨ stage = .signature

instance (stage : IntentStage) : Decidable stage.Rejects :=
  inferInstanceAs (Decidable (_ ∨ _ ∨ _))

/-- A rejected intent leaves nothing behind exactly if its signature was not what it was
    rejected for, or its artifact was there before. -/
theorem rejected_leaves_nothing_iff (env : IngressEnv) (intent : IngressIntent)
    (st st' : IngressState) (err : IntentError) (hrejects : err.stage.Rejects)
    (h : (env.processDeployIntent intent).exec st = (.error err, st')) :
    Untouched st st' ↔ (err.stage = .signature → ∃ expectedHash bytes,
        ingestBytes env.lib.digest env.fetchEnv intent.artifact = .ok (expectedHash, bytes) ∧
          (st.rawWasm.get? expectedHash).isSome) := by
  have hother (stage : IntentStage) (hnot : ¬ stage.Rejects) (hstage : err.stage = stage) : False :=
    hnot (hstage ▸ hrejects)
  rw [IngressEnv.processDeployIntent, exec_bind_error_iff] at h
  -- Before the artifact is fetched there is nothing to leave.
  rcases h with h | ⟨_, s₁, hvalid, h⟩
  · rcases during_error_iff.mp h with ⟨⟨e, -, herr⟩, hst⟩
    rw [herr, hst]
    exact iff_of_true (refl st) nofun
  rcases during_ok_iff.mp hvalid with ⟨-, hs₁⟩
  rcases exec_bind_error_iff.mp h with h | ⟨_, s₂, hcredential, h⟩
  · exact (hother .credential (by decide) ((within_ensureCredential _ _ _ _ h).2 err rfl)).elim
  rw [hs₁] at hcredential
  have hs₂ : Untouched st s₂ := (within_ensureCredential _ _ _ _ hcredential).1
  rcases exec_bind_error_iff.mp h with h | ⟨targets, s₃, htargets, h⟩
  · rcases during_error_iff.mp h with ⟨⟨e, -, herr⟩, -⟩
    exact (hother .targets (by decide) (congrArg IntentError.stage herr)).elim
  rcases during_ok_iff.mp htargets with ⟨-, hs₃⟩
  rcases exec_bind_error_iff.mp h with h | ⟨⟨expectedHash, bytes⟩, s₄, hfetch, h⟩
  · rcases during_error_iff.mp h with ⟨⟨e, -, herr⟩, hst⟩
    rw [herr, hst, hs₃]
    exact iff_of_true hs₂ nofun
  rcases during_ok_iff.mp hfetch with ⟨hingest, hs₄⟩
  rcases exec_bind_error_iff.mp h with h | ⟨size, s₅, hstore, h⟩
  · exact (hother .storage (by decide) ((within_storeRaw _ _ _ _ _ h).2 err rfl)).elim
  rcases exec_bind_error_iff.mp h with h | ⟨verification, s₆, -, h⟩
  · -- The signature is verified when the artifact is stored.
    rcases during_error_iff.mp h with ⟨⟨e, -, herr⟩, hst⟩
    have hs₅ := exec_storeRaw hstore
    rw [hs₄, hs₃] at hs₅
    rw [hst, hs₅, untouched_stored_iff hs₂, herr]
    constructor
    · intro hpresent _
      exact ⟨expectedHash, bytes, hingest, hpresent⟩
    · intro hpresent
      rcases hpresent rfl with ⟨hash, other, hsame, hpresent⟩
      rw [hingest] at hsame
      cases hsame
      exact hpresent
  · rcases exec_bind_error_iff.mp h with h | ⟨_, s₇, -, h⟩
    · rcases (within_announce _ _ _ _ _ h).2 err rfl with hstage | hstage | hstage
      · exact (hother .recording (by decide) hstage).elim
      · exact (hother .publication (by decide) hstage).elim
      · exact (hother .keys (by decide) hstage).elim
    · cases h

def emptyIngress : IngressState :=
  ⟨OrdTable.empty, OrdTable.empty, OrdTable.empty, OrdTable.empty, []⟩

/-- Signatures of the build pipeline are asked for, there is a node, and nothing fails. -/
def pipelineIngress : IngressEnv where
  ingressId := "ingress-0"
  artifactServerUrl := "http://ingress-0:9090"
  haEnabled := true
  policy := pipelinePolicy
  requireOciDigestRefs := false
  fetchEnv := zeroServer
  lib := oneKeyLibrary (List.replicate 32 7) (fun _ => false)
  authority := .ideal "ingress-0" []
  issuedAt _ := (1000, ⟨List.replicate 16 0, List.length_replicate⟩)
  credentialEntry _ := .ok none
  decrypt _ := .error (.encryption "no key")
  credentialSaved := .ok ()
  polls := [.ok [⟨"node-1", false⟩]]
  rawRead := .ok ()
  rawSaved := .ok ()
  nodesRead := .ok ()
  verificationSaved := .ok ()
  published _ := .ok ()
  keysSaved := .ok ()
  keysPublished := .ok ()

def unsignedIntent (appId : String) : IngressIntent where
  request := ⟨⟨appId⟩, ⟨⟨"default/api:v1"⟩, "default", []⟩, none, [], []⟩
  secretKeys := []
  artifact := ⟨none, "https://ci.example/app.wasm", zeroHash, none, none⟩

/-- The artifact was ingested before. -/
def holdingIngress : IngressState :=
  { emptyIngress with rawWasm := emptyIngress.rawWasm.insert (zeroHash, [0]) }

/-- An intent whose identifier does not match its configuration leaves nothing, and neither
    does one without a signature whose artifact was there before. -/
theorem rejected_intents_leave_nothing :
    Untouched emptyIngress ((pipelineIngress.processDeployIntent
        (unsignedIntent "default/web:v1")).exec emptyIngress).2 ∧
      Untouched holdingIngress ((pipelineIngress.processDeployIntent
        (unsignedIntent "default/api:v1")).exec holdingIngress).2 := by
  constructor
  · exact (rejected_leaves_nothing_iff pipelineIngress (unsignedIntent "default/web:v1")
      emptyIngress _ ⟨.validation, .configValidation
        "deploy intent app_id default/web:v1 does not match config.id default/api:v1"⟩
      (.inl rfl) rfl).mpr nofun
  · exact (rejected_leaves_nothing_iff pipelineIngress (unsignedIntent "default/api:v1")
      holdingIngress _
      ⟨.signature, .security "artifact signature is required by deploy-ingress policy"⟩
      (by decide) rfl).mpr fun _ => ⟨zeroHash, [0], rfl, rfl⟩

/-- An intent that is rejected because its artifact is not signed leaves the artifact. -/
theorem unsigned_artifact_stays :
    let t := (pipelineIngress.processDeployIntent (unsignedIntent "default/api:v1")).exec
      emptyIngress
    t.1 = .error ⟨.signature, .security
        "artifact signature is required by deploy-ingress policy"⟩ ∧
      t.2.rawWasm.get? zeroHash = some (zeroHash, [0]) ∧
      emptyIngress.rawWasm.get? zeroHash = none :=
  ⟨rfl, rfl, rfl⟩

end WasmCloud
