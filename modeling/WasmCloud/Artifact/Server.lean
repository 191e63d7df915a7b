import WasmCloud.Artifact.Manifest
import WasmCloud.Gateway.Internal
import WasmCloud.Lib.Run
import WasmCloud.Storage.Store

/-!
# The Artifact Server

A node serves the artifacts it has and takes new ones, from a peer on the node itself or
with a signed manifest, and for an upload a token does as well.

A manifest for one use is remembered by its transfer id until it expires. A request reads
the clock, checks the manifest, and then drops of what is remembered what has expired by
its own clock. Requests may do these steps in any order. One that brings the manifest and
gets that far has found it not expired, so it does not drop it; `Spares` says that no
request with another manifest for one use does.

## Main definitions

* `authorizeSignedManifest`: Whether a manifest lets a request through.
* `replayStep`: The same, one step of one request at a time.
* `Spares`: A clock that does not let a manifest expire early.

## Theorems

* `replayInv_step`: A manifest that was used is remembered, and was used once.
* `single_use_once`: One request at most is let through with a manifest for one use.
-/

namespace WasmCloud

open Function List

/-- The status codes of the artifact server. -/
inductive StatusCode where
  | badRequest
  | forbidden
  | notFound
  | payloadTooLarge
  | internalServerError
  | serviceUnavailable
  deriving DecidableEq, Repr

inductive ArtifactRequestAction where
  | read
  | write
  deriving DecidableEq, Repr

def ArtifactRequestAction.asMethod : ArtifactRequestAction → ArtifactTransferMethod
  | .read => .get
  | .write => .put

def artifactTransferManifestHeader : String := "x-wasm-artifact-transfer-manifest"

def artifactTransferRequesterNodeHeader : String := "x-wasm-artifact-requester-node-id"

/-- Transfer ids of manifests for one use, with their expiry. -/
abbrev ReplayCache := KeyedTable UInt64

section Requests

variable (http : HttpCrate) (fromSlice : List UInt8 → Option SignedArtifactTransferManifest)
variable (headers : HeaderMap)

def requesterNodeId : Option String :=
  ((headerStr http headers artifactTransferRequesterNodeHeader).map Text.trim).filter
    (fun value => value ≠ "")

/-- `transfer_manifest`, with `decode_header_value`: hexadecimal text of JSON. -/
def transferManifest : Option SignedArtifactTransferManifest :=
  (headerStr http headers artifactTransferManifestHeader).bind
    (fun value => (Bytes.hexDecode (Text.trim value)).bind fromSlice)

/-- `mark_single_use_manifest_seen`. `poisoned` is whether the lock is refused. -/
def markSingleUseManifestSeen (seen : ReplayCache) (manifest : ArtifactTransferManifest)
    (nowMs : UInt64) (poisoned : Bool) : ReplayCache × Except StatusCode Unit :=
  if !manifest.singleUse then (seen, .ok ())
  else if poisoned then (seen, .error .internalServerError)
  else
    let kept := seen.filter (fun entry => nowMs < entry.2)
    match kept.get? manifest.transferId with
    | some _ => (kept, .error .forbidden)
    | none => (kept.insert (manifest.transferId, manifest.expiresAtMs), .ok ())

/-- `authorize_signed_manifest` before the replay cache: the manifest, if it is valid. -/
def validManifest (authority : Option ArtifactTransferAuthority) (action : ArtifactRequestAction)
    (sha256 : String) (nowMs : UInt64) : Option SignedArtifactTransferManifest :=
  authority.bind (fun a =>
    (transferManifest http fromSlice headers).filter (fun signed =>
      (a.verifyManifest signed sha256 action.asMethod (requesterNodeId http headers)
        nowMs).toOption.isSome))

def authorizeSignedManifest (authority : Option ArtifactTransferAuthority) (seen : ReplayCache)
    (action : ArtifactRequestAction) (sha256 : String) (nowMs : UInt64) (poisoned : Bool) :
    ReplayCache × Except StatusCode Bool :=
  match validManifest http fromSlice headers authority action sha256 nowMs with
  | none => (seen, .ok false)
  | some signed =>
    let (seen', marked) := markSingleUseManifestSeen seen signed.manifest nowMs poisoned
    (seen', marked.map (fun _ => true))

/-- `ensure_authorized_peer_read`. A token does not help here. -/
def ensureAuthorizedPeerRead (peer : SocketAddr) (authority : Option ArtifactTransferAuthority)
    (seen : ReplayCache) (sha256 : String) (nowMs : UInt64) (poisoned : Bool) :
    ReplayCache × Except StatusCode Unit :=
  if peer.ip.isLoopback then (seen, .ok ())
  else
    match authorizeSignedManifest http fromSlice headers authority seen .read sha256 nowMs
      poisoned with
    | (seen', .error status) => (seen', .error status)
    | (seen', .ok true) => (seen', .ok ())
    | (seen', .ok false) => (seen', .error .forbidden)

def maxArtifactSize : Nat := 104857600

def getArtifact (store : Store) (peer : SocketAddr) (authority : Option ArtifactTransferAuthority)
    (seen : ReplayCache) (sha256 : String) (nowMs : UInt64) (poisoned : Bool) :
    ReplayCache × Except StatusCode (List UInt8) :=
  match ensureAuthorizedPeerRead http fromSlice headers peer authority seen sha256 nowMs
    poisoned with
  | (seen', .error status) => (seen', .error status)
  | (seen', .ok ()) =>
    match store.rawWasm.get? sha256 with
    | some entry => (seen', .ok entry.2)
    | none => (seen', .error .notFound)

/-- What `put_artifact` checks of a body. `digest` is SHA-256. -/
def checkUpload (digest : List UInt8 → List UInt8) (sha256 : String) (body : List UInt8) :
    Except StatusCode Unit := do
  ensure (body.length ≤ maxArtifactSize) .payloadTooLarge
  ensure (Bytes.hexEncode (digest body) = sha256) .badRequest

end Requests

variable {seen : ReplayCache} {m : ArtifactTransferManifest} {nowMs : UInt64}

theorem markSingleUse_fresh (hsingle : m.singleUse = true)
    (hfresh : ∀ expiresAtMs, nowMs < expiresAtMs → (m.transferId, expiresAtMs) ∉ seen) :
    markSingleUseManifestSeen seen m nowMs false =
      ((seen.filter (fun entry => nowMs < entry.2)).insert (m.transferId, m.expiresAtMs),
        .ok ()) := by
  have hnone : (seen.filter (fun entry => nowMs < entry.2)).get? m.transferId = none := by
    refine OrdTable.get?_eq_none_iff.mpr ?_
    rintro ⟨id, expiresAtMs⟩ hentry hid
    rw [OrdTable.mem_filter, decide_eq_true_eq] at hentry
    exact hfresh expiresAtMs hentry.2 (hid ▸ hentry.1)
  simp [markSingleUseManifestSeen, hsingle, hnone]

variable {expiresAtMs : UInt64} {poisoned : Bool}

theorem markSingleUse_seen (hsingle : m.singleUse = true)
    (hseen : (m.transferId, expiresAtMs) ∈ seen) (hnow : nowMs < expiresAtMs) :
    markSingleUseManifestSeen seen m nowMs false =
      (seen.filter (fun entry => nowMs < entry.2), .error .forbidden) := by
  have hsome : (seen.filter (fun entry => nowMs < entry.2)).get? m.transferId =
      some (m.transferId, expiresAtMs) :=
    OrdTable.get?_eq_some_iff.mpr ⟨OrdTable.mem_filter.mpr ⟨hseen, decide_eq_true hnow⟩, rfl⟩
  simp [markSingleUseManifestSeen, hsingle, hsome]

theorem markSingleUse_ok (hsingle : m.singleUse = true)
    (h : (markSingleUseManifestSeen seen m nowMs poisoned).2 = .ok ()) :
    (∀ expiresAtMs, nowMs < expiresAtMs → (m.transferId, expiresAtMs) ∉ seen) ∧
      (m.transferId, m.expiresAtMs) ∈ (markSingleUseManifestSeen seen m nowMs poisoned).1 := by
  cases poisoned with
  | true =>
    simp only [markSingleUseManifestSeen, hsingle, Bool.not_true, Bool.false_eq_true, if_false,
      if_true, reduceCtorEq] at h
  | false =>
    have hfresh : ∀ expiresAtMs, nowMs < expiresAtMs → (m.transferId, expiresAtMs) ∉ seen := by
      intro expiresAtMs hnow hseen
      rw [markSingleUse_seen hsingle hseen hnow] at h
      cases h
    refine ⟨hfresh, ?_⟩
    rw [markSingleUse_fresh hsingle hfresh]
    exact OrdTable.mem_insert.mpr (.inl rfl)

/-- What is remembered stays, unless the clock of the request is past it. -/
theorem markSingleUse_keeps {id : String} (hseen : (id, expiresAtMs) ∈ seen)
    (hnow : m.singleUse = true → nowMs < expiresAtMs) :
    (id, expiresAtMs) ∈ (markSingleUseManifestSeen seen m nowMs poisoned).1 := by
  by_cases hsingle : m.singleUse = true
  · have hkept : (id, expiresAtMs) ∈ seen.filter (fun entry => nowMs < entry.2) :=
      OrdTable.mem_filter.mpr ⟨hseen, decide_eq_true (hnow hsingle)⟩
    cases poisoned with
    | true =>
      simp only [markSingleUseManifestSeen, hsingle, Bool.not_true, Bool.false_eq_true, if_false,
        if_true]
      exact hseen
    | false =>
      by_cases hid : m.transferId = id
      · rw [markSingleUse_seen hsingle (hid ▸ hseen) (hnow hsingle)]
        exact hkept
      · grind [markSingleUseManifestSeen]
  · simp only [markSingleUseManifestSeen, hsingle, Bool.not_false, if_true]
    exact hseen

inductive RequestPoint where
  | arrived
  | clocked (nowMs : UInt64)
  | verified (manifest : ArtifactTransferManifest) (nowMs : UInt64)
  | answered (authorized : Except StatusCode Bool)
  deriving DecidableEq

/-- A request that `authorize_signed_manifest` is called for. -/
structure ArtifactRequest where
  headers : HeaderMap
  action : ArtifactRequestAction
  sha256 : String

/-- What the server remembers, and how far each request is. -/
structure ReplayState where
  seen : ReplayCache
  points : Nat → RequestPoint

/-- A step of a request: it reads the clock, checks the manifest, or takes the lock. -/
inductive ReplayAction where
  | readClock (i : Nat) (nowMs : UInt64)
  | verify (i : Nat)
  | mark (i : Nat) (poisoned : Bool)

def ReplayState.reach (s : ReplayState) (i : Nat) (point : RequestPoint) : ReplayState :=
  { s with points := update s.points i point }

theorem points_reach (s : ReplayState) (i : Nat) (point : RequestPoint) :
    (s.reach i point).points = update s.points i point := rfl

section Replay

variable (http : HttpCrate) (fromSlice : List UInt8 → Option SignedArtifactTransferManifest)
variable (authority : Option ArtifactTransferAuthority) (requests : Nat → ArtifactRequest)

def replayStep (s : ReplayState) : ReplayAction → ReplayState
  | .readClock i nowMs =>
    match s.points i with
    | .arrived => s.reach i (.clocked nowMs)
    | _ => s
  | .verify i =>
    match s.points i with
    | .clocked nowMs =>
      match validManifest http fromSlice (requests i).headers authority (requests i).action
        (requests i).sha256 nowMs with
      | none => s.reach i (.answered (.ok false))
      | some signed => s.reach i (.verified signed.manifest nowMs)
    | _ => s
  | .mark i poisoned =>
    match s.points i with
    | .verified manifest nowMs =>
      let marked := markSingleUseManifestSeen s.seen manifest nowMs poisoned
      { s with seen := marked.1 }.reach i (.answered (marked.2.map (fun _ => true)))
    | _ => s

/-- The manifest that a request brings. -/
def presented (i : Nat) : Option ArtifactTransferManifest :=
  (transferManifest http fromSlice (requests i).headers).map SignedArtifactTransferManifest.manifest

/-- A request with the manifest is let through. -/
def AuthorizedWith (m : ArtifactTransferManifest) (s : ReplayState) (i : Nat) : Prop :=
  presented http fromSlice requests i = some m ∧ s.points i = .answered (.ok true)

/-- A request that brings another manifest for one use does not read a clock past the expiry. -/
def Spares (m : ArtifactTransferManifest) : ReplayAction → Prop
  | .readClock i nowMs => ∀ m', presented http fromSlice requests i = some m' →
      m'.singleUse = true → m' = m ∨ nowMs < m.expiresAtMs
  | .verify _ | .mark _ _ => True

/-- What is known of a request that has read a clock, and of one that has found its manifest
    valid. -/
def PointOk (m : ArtifactTransferManifest) (i : Nat) : RequestPoint → Prop
  | .clocked nowMs => Spares http fromSlice requests m (.readClock i nowMs)
  | .verified manifest nowMs => presented http fromSlice requests i = some manifest ∧
      nowMs < manifest.expiresAtMs ∧ (manifest.singleUse = true → nowMs < m.expiresAtMs)
  | .arrived | .answered _ => True

/-- A used manifest is remembered, and was used once. -/
structure ReplayInv (m : ArtifactTransferManifest) (s : ReplayState) : Prop where
  points : ∀ i, PointOk http fromSlice requests m i (s.points i)
  recorded : ∀ i, AuthorizedWith http fromSlice requests m s i →
    (m.transferId, m.expiresAtMs) ∈ s.seen
  once : ∀ i j, AuthorizedWith http fromSlice requests m s i →
    AuthorizedWith http fromSlice requests m s j → i = j

variable {http fromSlice authority requests} {s : ReplayState} {i : Nat} {point : RequestPoint}

theorem replayStep_verify {signed : SignedArtifactTransferManifest}
    (hpoint : s.points i = .clocked nowMs)
    (hvalid : validManifest http fromSlice (requests i).headers authority (requests i).action
      (requests i).sha256 nowMs = some signed) :
    replayStep http fromSlice authority requests s (.verify i) =
      s.reach i (.verified signed.manifest nowMs) := by
  simp only [replayStep, hpoint, hvalid]

theorem validManifest_eq_some {headers : HeaderMap} {action : ArtifactRequestAction}
    {sha256 : String} {signed : SignedArtifactTransferManifest}
    (h : validManifest http fromSlice headers authority action sha256 nowMs = some signed) :
    transferManifest http fromSlice headers = some signed ∧
      nowMs < signed.manifest.expiresAtMs := by
  rcases Option.bind_eq_some_iff.mp h with ⟨a, -, hfilter⟩
  rcases Option.filter_eq_some_iff.mp hfilter with ⟨hpresented, hverify⟩
  refine ⟨hpresented, ?_⟩
  rcases hresult : a.verifyManifest signed sha256 action.asMethod (requesterNodeId http headers)
      nowMs with e | u
  · rw [hresult] at hverify
    cases hverify
  · exact (verifyManifest_ok_iff.mp hresult).2.2.2.2.2.2.2.2

theorem ReplayInv.points_update (h : ReplayInv http fromSlice requests m s)
    (hpoint : PointOk http fromSlice requests m i point) :
    ∀ j, PointOk http fromSlice requests m j (update s.points i point j) :=
  (forall_update_iff s.points (fun j p => PointOk http fromSlice requests m j p)).mpr
    ⟨hpoint, fun j _ => h.points j⟩

/-- A request that is not let through with the manifest changes nothing. -/
theorem ReplayInv.reach (h : ReplayInv http fromSlice requests m s)
    (hpoint : PointOk http fromSlice requests m i point)
    (hquiet : presented http fromSlice requests i = some m → point ≠ .answered (.ok true))
    (hseen : (m.transferId, m.expiresAtMs) ∈ s.seen → (m.transferId, m.expiresAtMs) ∈ seen) :
    ReplayInv http fromSlice requests m (ReplayState.reach ⟨seen, s.points⟩ i point) := by
  have hauth : ∀ j, AuthorizedWith http fromSlice requests m
      (ReplayState.reach ⟨seen, s.points⟩ i point) j →
        AuthorizedWith http fromSlice requests m s j := by
    rintro j ⟨hj, hanswered⟩
    by_cases hi : j = i
    · subst hi
      rw [points_reach, update_self] at hanswered
      exact absurd hanswered (hquiet hj)
    · rw [points_reach, update_of_ne hi] at hanswered
      exact ⟨hj, hanswered⟩
  exact ⟨h.points_update hpoint, fun j hj => hseen (h.recorded j (hauth j hj)),
    fun j k hj hk => h.once j k (hauth j hj) (hauth k hk)⟩

/-- If the manifest is not remembered, nobody was let through with it before. -/
theorem ReplayInv.first (h : ReplayInv http fromSlice requests m s)
    (hnone : (m.transferId, m.expiresAtMs) ∉ s.seen)
    (hseen : (m.transferId, m.expiresAtMs) ∈ seen) (i : Nat) :
    ReplayInv http fromSlice requests m
      (ReplayState.reach ⟨seen, s.points⟩ i (.answered (.ok true))) := by
  have hauth : ∀ j, AuthorizedWith http fromSlice requests m
      (ReplayState.reach ⟨seen, s.points⟩ i (.answered (.ok true))) j → j = i := by
    rintro j ⟨hj, hanswered⟩
    by_contra hi
    rw [points_reach, update_of_ne hi] at hanswered
    exact hnone (h.recorded j ⟨hj, hanswered⟩)
  exact ⟨h.points_update trivial, fun _ _ => hseen,
    fun j k hj hk => (hauth j hj).trans (hauth k hk).symm⟩

theorem replayInv_step (hsingle : m.singleUse = true) (s : ReplayState) (a : ReplayAction)
    (hspares : Spares http fromSlice requests m a) (h : ReplayInv http fromSlice requests m s) :
    ReplayInv http fromSlice requests m (replayStep http fromSlice authority requests s a) := by
  cases a with
  | readClock i nowMs =>
    rw [replayStep]
    split
    · exact h.reach hspares (fun _ => RequestPoint.noConfusion) id
    · exact h
  | verify i =>
    rw [replayStep]
    split
    next nowMs hpoint =>
      have hclock := h.points i
      rw [hpoint] at hclock
      split
      next => exact h.reach trivial (fun _ hok => by cases hok) id
      next signed hvalid =>
        obtain ⟨hsigned, hnow⟩ := validManifest_eq_some hvalid
        have hpresented : presented http fromSlice requests i = some signed.manifest := by
          rw [presented, hsigned, Option.map_some]
        refine h.reach ⟨hpresented, hnow, fun hone => ?_⟩ (fun _ => RequestPoint.noConfusion) id
        rcases hclock _ hpresented hone with heq | hlt
        · rwa [heq] at hnow
        · exact hlt
    next => exact h
  | mark i poisoned =>
    rw [replayStep]
    split
    next manifest nowMs hpoint =>
      have hverified := h.points i
      rw [hpoint] at hverified
      obtain ⟨hpresented, hnow, hspared⟩ := hverified
      have hkeep : (m.transferId, m.expiresAtMs) ∈ s.seen → (m.transferId, m.expiresAtMs) ∈
          (markSingleUseManifestSeen s.seen manifest nowMs poisoned).1 :=
        fun hseen => markSingleUse_keeps hseen hspared
      dsimp only
      cases hmark : (markSingleUseManifestSeen s.seen manifest nowMs poisoned).2 with
      | error e => exact h.reach trivial (fun _ hok => by cases hok) hkeep
      | ok =>
        by_cases hm : manifest = m
        · subst hm
          obtain ⟨hfresh, hseen⟩ := markSingleUse_ok hsingle hmark
          exact h.first (hfresh _ hnow) hseen i
        · refine h.reach trivial (fun hother _ => hm ?_) hkeep
          exact Option.some_inj.mp (hpresented.symm.trans hother)
    next => exact h

variable (http fromSlice authority requests)

/-- Of the requests that bring a manifest for one use one is let through at most, whatever
    other requests there are, as long as those with other manifests for one use do not let it
    expire early. -/
theorem single_use_once (m : ArtifactTransferManifest) (hsingle : m.singleUse = true)
    (seen : ReplayCache) (actions : List ReplayAction)
    (hspares : ∀ a ∈ actions, Spares http fromSlice requests m a) (i j : Nat)
    (hi : AuthorizedWith http fromSlice requests m
      (runAll (replayStep http fromSlice authority requests) ⟨seen, fun _ => .arrived⟩ actions) i)
    (hj : AuthorizedWith http fromSlice requests m
      (runAll (replayStep http fromSlice authority requests) ⟨seen, fun _ => .arrived⟩ actions) j) :
    i = j := by
  have hstart : ReplayInv http fromSlice requests m ⟨seen, fun _ => .arrived⟩ :=
    ⟨fun _ => trivial, fun _ h => RequestPoint.noConfusion h.2,
      fun _ _ h => RequestPoint.noConfusion h.2⟩
  have halong : Along (replayStep http fromSlice authority requests)
      (fun _ a => Spares http fromSlice requests m a) ⟨seen, fun _ => .arrived⟩ actions :=
    along_of_forall (fun a ha _ => hspares a ha) _
  have hend := invariant_along (replayInv_step hsingle) halong hstart
  exact hend.once i j hi hj

end Replay

def uploadCall : IssueCall :=
  issueWrite 1000 ⟨List.replicate 16 1, List.length_replicate⟩ "00ff"

def uploadAuthority : ArtifactTransferAuthority := .ideal "node-1" [uploadCall]

def uploadManifest (_ : List UInt8) : Option SignedArtifactTransferManifest :=
  some (uploadAuthority.issueManifest uploadCall)

/-- Every request brings the same manifest. -/
def uploads (_ : Nat) : ArtifactRequest :=
  ⟨MultiMap.empty.insert ⟨artifactTransferManifestHeader⟩ ⟨[]⟩, .write, "00ff"⟩

abbrev uploadStep : ReplayState → ReplayAction → ReplayState :=
  replayStep .documented uploadManifest (some uploadAuthority) uploads

theorem transferManifest_uploads (i : Nat) :
    transferManifest .documented uploadManifest (uploads i).headers =
      some (uploadAuthority.issueManifest uploadCall) := by
  have hvalue : headerStr .documented (uploads i).headers artifactTransferManifestHeader =
      some "" := by
    simp only [uploads]
    decide +kernel
  rw [transferManifest, hvalue]
  rfl

theorem uploadStep_verify {s : ReplayState} (i : Nat) (nowMs : UInt64)
    (hpoint : s.points i = .clocked nowMs) (hnow : nowMs < 61000) : uploadStep s (.verify i) =
      s.reach i (.verified (uploadCall.manifest "node-1") nowMs) := by
  have hrequester : requesterNodeId .documented (uploads i).headers = none := by
    simp only [uploads]
    decide +kernel
  have haccepted : uploadAuthority.verifyManifest (uploadAuthority.issueManifest uploadCall) "00ff"
      .put none nowMs = .ok () :=
    issued_is_accepted uploadAuthority uploadCall nowMs (ideal_verifies_sign (.head _)) (by decide)
      hnow
  have hvalid : validManifest .documented uploadManifest (uploads i).headers (some uploadAuthority)
      (uploads i).action (uploads i).sha256 nowMs =
        some (uploadAuthority.issueManifest uploadCall) := by
    rw [validManifest, Option.bind_some, transferManifest_uploads, hrequester]
    exact Option.filter_eq_some_iff.mpr
      ⟨rfl, congrArg (fun result => result.toOption.isSome) haccepted⟩
  exact replayStep_verify hpoint hvalid

def uploadRun : List ReplayAction :=
  [.readClock 0 2000, .readClock 1 1500, .verify 0, .verify 1, .mark 1 false, .mark 0 false]

/-- Of two requests with one manifest, the one that comes to the lock later is refused. -/
theorem upload_authorized_once :
    let s := runAll uploadStep ⟨OrdTable.empty, fun _ => .arrived⟩ uploadRun
    s.points 0 = .answered (.error .forbidden) ∧ s.points 1 = .answered (.ok true) ∧
      ∀ i, s.points i = .answered (.ok true) → i = 1 := by
  intro s
  have hpoints : s.points 0 = .answered (.error .forbidden) ∧
      s.points 1 = .answered (.ok true) := by
    simp only [s, uploadRun, runAll_cons, runAll_nil]
    rw [uploadStep_verify 0 2000, uploadStep_verify 1 1500]
    all_goals decide +kernel
  have hpresented : ∀ i, presented .documented uploadManifest uploads i =
      some (uploadCall.manifest "node-1") := by
    intro i
    rw [presented, transferManifest_uploads]
    rfl
  have hauth : ∀ i, s.points i = .answered (.ok true) →
      AuthorizedWith .documented uploadManifest uploads (uploadCall.manifest "node-1") s i :=
    fun i hi => ⟨hpresented i, hi⟩
  refine ⟨hpoints.1, hpoints.2, fun i hi => ?_⟩
  refine single_use_once .documented uploadManifest (some uploadAuthority) uploads
    (uploadCall.manifest "node-1") rfl OrdTable.empty uploadRun (fun a _ => ?_) i 1 (hauth i hi)
    (hauth 1 hpoints.2)
  cases a with
  | readClock i nowMs =>
    intro m' hm' _
    exact .inl (Option.some_inj.mp (hm'.symm.trans (hpresented i)))
  | verify i | mark i poisoned => trivial

end WasmCloud
