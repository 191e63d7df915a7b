import WasmCloud.Artifact.Fetch
import WasmCloud.Lib.Run
import WasmCloud.Storage.Store

/-!
# The Local Secret Provider

A node keeps the secrets of an application in one bundle, each encrypted with a key of the
application, which is itself encrypted with the key of the node. A call that changes a secret
loads the bundle, changes it, loads it once more to compare versions, and stores it as a whole.

A call is cut at its transactions. The key of the application is generated at most once, so it
is a part of the provider; nonces and the clock are a part of the call.
-/

namespace WasmCloud

structure SymmetricKey where
  bytes : List UInt8
  size : bytes.length = 32
  deriving DecidableEq

/-- The AES-256-GCM of the crate, on keys, nonces and texts. -/
structure AesGcm where
  aeadEncrypt : SymmetricKey → List UInt8 → List UInt8 → Except String (List UInt8)
  aeadDecrypt : SymmetricKey → List UInt8 → List UInt8 → Except String (List UInt8)

namespace AesGcm

/-- `encrypt`, with the nonce it generates, which is put in front. -/
def encrypt (cipher : AesGcm) (key : SymmetricKey) (nonce plaintext : List UInt8) :
    Except PlatformError (List UInt8) :=
  ((cipher.aeadEncrypt key nonce plaintext).mapError .encryption).map (nonce ++ ·)

def decrypt (cipher : AesGcm) (key : SymmetricKey) (blob : List UInt8) :
    Except PlatformError (List UInt8) :=
  if blob.length < 12 then .error (.encryption "blob too short")
  else (cipher.aeadDecrypt key (blob.take 12) (blob.drop 12)).mapError .encryption

end AesGcm

structure AppSecretBundle where
  appId : String
  encryptedDek : List UInt8
  secrets : KeyedTable (List UInt8)
  version : UInt64
  updatedAt : UInt64

namespace AppSecretBundle

/-- The change of `set`. -/
def insertSecret (b : AppSecretBundle) (key : String) (blob : List UInt8) (nowSecs : UInt64) :
    AppSecretBundle :=
  { b with
    secrets := b.secrets.insert (key, blob), version := b.version + 1, updatedAt := nowSecs }

/-- The change of `delete`. -/
def removeSecret (b : AppSecretBundle) (key : String) (nowSecs : UInt64) : AppSecretBundle :=
  { b with secrets := b.secrets.remove key, version := b.version + 1, updatedAt := nowSecs }

end AppSecretBundle

/-- The node's key, and the one generated for an application that has none. -/
structure LocalSecretProvider where
  appId : String
  cipher : AesGcm
  kek : SymmetricKey
  newDek : SymmetricKey
  newDekNonce : List UInt8
  newDekSecs : UInt64

namespace LocalSecretProvider

variable (p : LocalSecretProvider)

/-- The key of the application, as it is in a bundle. -/
def decryptDek (b : AppSecretBundle) : Except PlatformError SymmetricKey := do
  let decrypted ← p.cipher.decrypt p.kek b.encryptedDek
  if h : decrypted.length = 32 then .ok ⟨decrypted, h⟩
  else
    .error (.encryption ("decrypted DEK for app '" ++ p.appId ++ "' had invalid length " ++
      toString decrypted.length))

/-- The key that is generated, encrypted. -/
def encryptedDek : Except PlatformError (List UInt8) :=
  p.cipher.encrypt p.kek p.newDekNonce p.newDek.bytes

def newBundle (encryptedDek : List UInt8) : AppSecretBundle :=
  ⟨p.appId, encryptedDek, OrdTable.empty, 1, p.newDekSecs⟩

end LocalSecretProvider

inductive ProviderOp where
  | set (key value : String)
  | delete (key : String)
  deriving DecidableEq, Repr

/-- A call, with the nonce it generates and the time it reads. -/
structure ProviderCall where
  op : ProviderOp
  nonce : List UInt8
  nowSecs : UInt64
  deriving DecidableEq, Repr

/-- In `locked` and `generating` a call holds the lock; in `checking` and `writing` it has the
    bundle it is going to store. -/
inductive CallPoint where
  | start
  | locked
  | generating (encryptedDek : List UInt8)
  | keyed (dek : SymmetricKey)
  | checking (bundle : AppSecretBundle) (expectedVersion : UInt64)
  | writing (bundle : AppSecretBundle)
  | returned (result : Except PlatformError Unit)

/-- The call is about to store, or has returned without an error. -/
def CallPoint.settling : CallPoint → Bool
  | .writing _ | .returned (.ok ()) => true
  | _ => false

/-- What is stored, the cache with its lock, and the calls. -/
structure ProviderState where
  bundle : Option AppSecretBundle
  dekCache : Option SymmetricKey
  lock : Option Nat
  points : Nat → CallPoint

/-- A call goes on, with the outcome of its transaction. -/
structure ProviderAction where
  call : Nat
  storage : Except PlatformError Unit

namespace ProviderState

def move (s : ProviderState) (i : Nat) (point : CallPoint) : ProviderState :=
  { s with points := Function.update s.points i point }

/-- A call returns, and gives the lock back if it has it. -/
def ret (s : ProviderState) (i : Nat) (result : Except PlatformError Unit) : ProviderState :=
  { s with
    lock := if s.lock = some i then none else s.lock
    points := Function.update s.points i (.returned result) }

/-- A call has the key of the application, which is in the cache. -/
def cached (s : ProviderState) (i : Nat) (dek : SymmetricKey) : ProviderState :=
  { s with dekCache := some dek, lock := none, points := Function.update s.points i (.keyed dek) }

/-- The call has returned without an error. -/
def Succeeded (s : ProviderState) (i : Nat) : Prop := s.points i = .returned (.ok ())

end ProviderState

section Steps

variable (p : LocalSecretProvider)

/-- `get_or_create_dek` first looks at the cache, and keeps the lock if there is no key. -/
def acquireDek (s : ProviderState) (i : Nat) : ProviderState :=
  match s.lock, s.dekCache with
  | some _, _ => s
  | none, some dek => s.cached i dek
  | none, none => { s with lock := some i, points := Function.update s.points i .locked }

/-- `get_or_create_dek` loads the bundle. -/
def loadDek (s : ProviderState) (i : Nat) : ProviderState :=
  match s.bundle with
  | some b =>
    match p.decryptDek b with
    | .error e => s.ret i (.error e)
    | .ok dek => s.cached i dek
  | none =>
    match p.encryptedDek with
    | .error e => s.ret i (.error e)
    | .ok encryptedDek => s.move i (.generating encryptedDek)

/-- `get_or_create_dek` stores a bundle. -/
def storeDek (s : ProviderState) (i : Nat) (encryptedDek : List UInt8) : ProviderState :=
  { s.cached i p.newDek with bundle := some (p.newBundle encryptedDek) }

/-- `set` loads the bundle. -/
def loadForSet (s : ProviderState) (i : Nat) (call : ProviderCall) (key : String)
    (blob : List UInt8) : ProviderState :=
  match s.bundle with
  | none => s.ret i (.error (.storage "Bundle vanished"))
  | some b => s.move i (.checking (b.insertSecret key blob call.nowSecs) b.version)

/-- `delete` loads the bundle. -/
def loadForDelete (s : ProviderState) (i : Nat) (call : ProviderCall) (key : String) :
    ProviderState :=
  match s.bundle with
  | none => s.ret i (.error (.appNotFound p.appId))
  | some b =>
    if (b.secrets.get? key).isSome then
      s.move i (.checking (b.removeSecret key call.nowSecs) b.version)
    else s.ret i (.ok ())

/-- The check of `save_bundle_with_version`. -/
def checkVersion (s : ProviderState) (i : Nat) (bundle : AppSecretBundle)
    (expectedVersion : UInt64) : ProviderState :=
  match s.bundle with
  | none => s.ret i (.error (.storage "Bundle vanished before save"))
  | some existing =>
    if existing.version ≠ expectedVersion then
      s.ret i (.error (.storage ("concurrent modification: expected version " ++
        toString expectedVersion ++ ", found " ++ toString existing.version)))
    else s.move i (.writing bundle)

def saveBundle (s : ProviderState) (i : Nat) (bundle : AppSecretBundle) : ProviderState :=
  { s.ret i (.ok ()) with bundle := some bundle }

/-- A transaction, or the error it fails with. -/
def transaction (s : ProviderState) (i : Nat) (storage : Except PlatformError Unit)
    (next : ProviderState) : ProviderState :=
  match storage with
  | .error e => s.ret i (.error e)
  | .ok () => next

def callNext (call : ProviderCall) (s : ProviderState) (a : ProviderAction) : ProviderState :=
  let i := a.call
  match s.points i, call.op with
  | .start, .set _ _ => acquireDek s i
  | .start, .delete key => transaction s i a.storage (loadForDelete p s i call key)
  | .locked, _ => transaction s i a.storage (loadDek p s i)
  | .generating encryptedDek, _ => transaction s i a.storage (storeDek p s i encryptedDek)
  | .keyed dek, .set key value =>
    match p.cipher.encrypt dek call.nonce (Text.utf8 value) with
    | .error e => s.ret i (.error e)
    | .ok blob => transaction s i a.storage (loadForSet s i call key blob)
  | .checking bundle expectedVersion, _ =>
    transaction s i a.storage (checkVersion s i bundle expectedVersion)
  | .writing bundle, _ => transaction s i a.storage (saveBundle s i bundle)
  | .keyed _, .delete _ | .returned _, _ => s

def providerStep (calls : List ProviderCall) (s : ProviderState) (a : ProviderAction) :
    ProviderState :=
  match calls[a.call]? with
  | none => s
  | some call => callNext p call s a

end Steps

namespace LocalSecretProvider

variable (p : LocalSecretProvider)

/-- What `get_or_create_dek` returns. -/
def dek (s : ProviderState) : Except PlatformError SymmetricKey :=
  match s.dekCache, s.bundle with
  | some dek, _ => .ok dek
  | none, some b => p.decryptDek b
  | none, none => p.encryptedDek.map (fun _ => p.newDek)

/-- The bundle, or the one without secrets that is stored if there is none. -/
def current (s : ProviderState) : AppSecretBundle :=
  s.bundle.getD (p.newBundle (p.encryptedDek.toOption.getD []))

end LocalSecretProvider

def ProviderCall.apply (p : LocalSecretProvider) (dek : Except PlatformError SymmetricKey)
    (call : ProviderCall) (b : AppSecretBundle) : AppSecretBundle :=
  match call.op with
  | .set key value =>
    match dek.bind (fun dek => p.cipher.encrypt dek call.nonce (Text.utf8 value)) with
    | .error _ => b
    | .ok blob => b.insertSecret key blob call.nowSecs
  | .delete key =>
    if (b.secrets.get? key).isSome then b.removeSecret key call.nowSecs else b

def applyCall (p : LocalSecretProvider) (dek : Except PlatformError SymmetricKey)
    (calls : List ProviderCall) (i : Nat) (b : AppSecretBundle) : AppSecretBundle :=
  (calls[i]?).elim b (fun call => call.apply p dek b)

inductive CallStep (p : LocalSecretProvider) (calls : List ProviderCall) (s : ProviderState)
    (a : ProviderAction) : ProviderState → Prop where
  | stays : CallStep p calls s a s
  | fails (e : PlatformError) (hpoint : ∀ result, s.points a.call ≠ .returned result) :
      CallStep p calls s a (s.ret a.call (.error e))
  | hits (dek : SymmetricKey) (hpoint : s.points a.call = .start) (hlock : s.lock = none)
      (hcache : s.dekCache = some dek) : CallStep p calls s a (s.cached a.call dek)
  | locks (hpoint : s.points a.call = .start) (hlock : s.lock = none) (hcache : s.dekCache = none) :
      CallStep p calls s a
        { s with lock := some a.call, points := Function.update s.points a.call .locked }
  | decrypts (b : AppSecretBundle) (dek : SymmetricKey) (hpoint : s.points a.call = .locked)
      (hbundle : s.bundle = some b) (hdek : p.decryptDek b = .ok dek) :
      CallStep p calls s a (s.cached a.call dek)
  | generates (encryptedDek : List UInt8) (hpoint : s.points a.call = .locked)
      (hbundle : s.bundle = none) (hdek : p.encryptedDek = .ok encryptedDek) :
      CallStep p calls s a (s.move a.call (.generating encryptedDek))
  | creates (encryptedDek : List UInt8) (hpoint : s.points a.call = .generating encryptedDek) :
      CallStep p calls s a (storeDek p s a.call encryptedDek)
  | loadsSet (call : ProviderCall) (key value : String) (dek : SymmetricKey)
      (blob : List UInt8) (b : AppSecretBundle) (hcall : calls[a.call]? = some call)
      (hop : call.op = .set key value) (hpoint : s.points a.call = .keyed dek)
      (hblob : p.cipher.encrypt dek call.nonce (Text.utf8 value) = .ok blob)
      (hbundle : s.bundle = some b) :
      CallStep p calls s a
        (s.move a.call (.checking (b.insertSecret key blob call.nowSecs) b.version))
  | loadsDelete (call : ProviderCall) (key : String) (b : AppSecretBundle)
      (hcall : calls[a.call]? = some call) (hop : call.op = .delete key)
      (hpoint : s.points a.call = .start)
      (hbundle : s.bundle = some b) (hpresent : (b.secrets.get? key).isSome = true) :
      CallStep p calls s a (s.move a.call (.checking (b.removeSecret key call.nowSecs) b.version))
  | findsNone (call : ProviderCall) (key : String) (b : AppSecretBundle)
      (hcall : calls[a.call]? = some call) (hop : call.op = .delete key)
      (hpoint : s.points a.call = .start)
      (hbundle : s.bundle = some b) (habsent : (b.secrets.get? key).isSome = false) :
      CallStep p calls s a (s.ret a.call (.ok ()))
  | checks (bundle existing : AppSecretBundle) (hstorage : a.storage = .ok ())
      (hpoint : s.points a.call = .checking bundle existing.version)
      (hbundle : s.bundle = some existing) : CallStep p calls s a (s.move a.call (.writing bundle))
  | writes (bundle : AppSecretBundle) (hpoint : s.points a.call = .writing bundle) :
      CallStep p calls s a (saveBundle s a.call bundle)

section CallSteps

variable {p : LocalSecretProvider} {calls : List ProviderCall} {s : ProviderState}
  {a : ProviderAction}

theorem callStep_transaction {next : ProviderState}
    (hpoint : ∀ result, s.points a.call ≠ .returned result)
    (hnext : a.storage = .ok () → CallStep p calls s a next) :
    CallStep p calls s a (transaction s a.call a.storage next) := by
  unfold transaction
  split
  · exact .fails _ hpoint
  · rename_i hstorage
    exact hnext hstorage

theorem callStep_acquireDek (hpoint : s.points a.call = .start) :
    CallStep p calls s a (acquireDek s a.call) := by
  unfold acquireDek
  split
  · exact .stays
  · rename_i dek hlock hcache
    exact .hits dek hpoint hlock hcache
  · rename_i hlock hcache
    exact .locks hpoint hlock hcache

theorem callStep_loadDek (hpoint : s.points a.call = .locked) :
    CallStep p calls s a (loadDek p s a.call) := by
  have hrunning : ∀ result, s.points a.call ≠ .returned result := by
    rw [hpoint]
    exact fun result h => by cases h
  unfold loadDek
  split
  · rename_i b hbundle
    split
    · exact .fails _ hrunning
    · rename_i dek hdek
      exact .decrypts b dek hpoint hbundle hdek
  · rename_i hbundle
    split
    · exact .fails _ hrunning
    · rename_i encryptedDek hdek
      exact .generates encryptedDek hpoint hbundle hdek

variable {call : ProviderCall} {key : String} {j : Nat}

theorem callStep_loadForSet {value : String} {dek : SymmetricKey} {blob : List UInt8}
    (hcall : calls[a.call]? = some call) (hop : call.op = .set key value)
    (hpoint : s.points a.call = .keyed dek)
    (hblob : p.cipher.encrypt dek call.nonce (Text.utf8 value) = .ok blob) :
    CallStep p calls s a (loadForSet s a.call call key blob) := by
  unfold loadForSet
  split
  · refine .fails _ ?_
    rw [hpoint]
    exact fun result h => by cases h
  · rename_i b hbundle
    exact .loadsSet call key value dek blob b hcall hop hpoint hblob hbundle

theorem callStep_loadForDelete (hcall : calls[a.call]? = some call) (hop : call.op = .delete key)
    (hpoint : s.points a.call = .start) :
    CallStep p calls s a (loadForDelete p s a.call call key) := by
  unfold loadForDelete
  split
  · refine .fails _ ?_
    rw [hpoint]
    exact fun result h => by cases h
  · rename_i b hbundle
    split_ifs with hpresent
    · exact .loadsDelete call key b hcall hop hpoint hbundle hpresent
    · exact .findsNone call key b hcall hop hpoint hbundle (Bool.eq_false_iff.mpr hpresent)

theorem callStep_checkVersion {bundle : AppSecretBundle} {expectedVersion : UInt64}
    (hstorage : a.storage = .ok ()) (hpoint : s.points a.call = .checking bundle expectedVersion) :
    CallStep p calls s a (checkVersion s a.call bundle expectedVersion) := by
  have hrunning : ∀ result, s.points a.call ≠ .returned result := by
    rw [hpoint]
    exact fun result h => by cases h
  unfold checkVersion
  split
  · exact .fails _ hrunning
  · rename_i existing hbundle
    split_ifs with hversion
    · exact .fails _ hrunning
    · have hsame : existing.version = expectedVersion := not_not.mp hversion
      exact .checks bundle existing hstorage (hsame ▸ hpoint) hbundle

theorem callStep_step (s : ProviderState) (a : ProviderAction) :
    CallStep p calls s a (providerStep p calls s a) := by
  unfold providerStep
  split
  · exact .stays
  · rename_i call hcall
    unfold callNext
    have hrunning {point : CallPoint} (hpoint : s.points a.call = point)
        (hnot : ∀ result, point ≠ .returned result) :
        ∀ result, s.points a.call ≠ .returned result := hpoint ▸ hnot
    simp only
    split
    · rename_i hpoint hop
      exact callStep_acquireDek hpoint
    · rename_i key hpoint hop
      exact callStep_transaction (hrunning hpoint nofun)
        (fun _ => callStep_loadForDelete hcall hop hpoint)
    · rename_i hpoint
      exact callStep_transaction (hrunning hpoint nofun) (fun _ => callStep_loadDek hpoint)
    · rename_i encryptedDek hpoint
      exact callStep_transaction (hrunning hpoint nofun) (fun _ => .creates encryptedDek hpoint)
    · rename_i dek key value hpoint hop
      have hnot := hrunning hpoint nofun
      split
      · exact .fails _ hnot
      · rename_i blob hblob
        exact callStep_transaction hnot (fun _ => callStep_loadForSet hcall hop hpoint hblob)
    · rename_i bundle expectedVersion hpoint
      exact callStep_transaction (hrunning hpoint nofun)
        (fun hstorage => callStep_checkVersion hstorage hpoint)
    · rename_i bundle hpoint
      exact callStep_transaction (hrunning hpoint nofun) (fun _ => .writes bundle hpoint)
    · exact .stays
    · exact .stays

theorem points_step (s : ProviderState) {a : ProviderAction} (hj : j ≠ a.call) :
    (providerStep p calls s a).points j = s.points j := by
  have hstep := @callStep_step p calls s a
  generalize providerStep p calls s a = s' at hstep ⊢
  cases hstep with
  | stays => rfl
  | _ => exact Function.update_of_ne hj ..

theorem points_run {actions : List ProviderAction} (hj : ∀ a ∈ actions, j ≠ a.call)
    (s : ProviderState) : (runAll (providerStep p calls) s actions).points j = s.points j := by
  induction actions generalizing s with
  | nil => rfl
  | cons a actions ih =>
    rw [runAll_cons, ih (fun b hb => hj b (List.mem_cons_of_mem a hb)),
      points_step s (hj a (.head _))]

end CallSteps

section Dek

variable {p : LocalSecretProvider} {calls : List ProviderCall} {s s' : ProviderState}
  {a : ProviderAction} {dek : Except PlatformError SymmetricKey}

/-- What the point of a call says about the key. -/
def DekPoint (p : LocalSecretProvider) (dek : Except PlatformError SymmetricKey)
    (s : ProviderState) (i : Nat) : CallPoint → Prop
  | .start | .returned _ => True
  | .locked => s.lock = some i ∧ s.dekCache = none
  | .generating encryptedDek =>
    s.lock = some i ∧ s.dekCache = none ∧ s.bundle = none ∧ p.encryptedDek = .ok encryptedDek
  | .keyed k => dek = .ok k
  | .checking b _ | .writing b => ∃ existing, s.bundle = some existing ∧
      b.encryptedDek = existing.encryptedDek

/-- The key of the application is this one, in the cache, in the bundle or in the calls. -/
structure DekInv (p : LocalSecretProvider) (dek : Except PlatformError SymmetricKey)
    (s : ProviderState) : Prop where
  same : p.dek s = dek
  points : ∀ i, DekPoint p dek s i (s.points i)

variable {i : Nat} {point : CallPoint} {lock : Option Nat}

theorem dekPoint_lock {points : Nat → CallPoint} (hlock : s.lock = some i → lock = some i)
    (h : DekPoint p dek s i point) :
    DekPoint p dek { s with lock := lock, points := points } i point := by
  cases point with
  | locked | generating encryptedDek => exact h.imp_left hlock
  | _ => exact h

theorem dekInv_update (h : DekInv p dek s) (hlock : ∀ j, j ≠ i → s.lock = some j → lock = some j)
    (hpoint : DekPoint p dek { s with lock := lock, points := Function.update s.points i point } i
      point) :
    DekInv p dek { s with lock := lock, points := Function.update s.points i point } := by
  refine ⟨h.same, fun j => ?_⟩
  grind [dekPoint_lock, h.points]

theorem dekInv_ret (h : DekInv p dek s) (result : Except PlatformError Unit) :
    DekInv p dek (s.ret i result) := by
  refine dekInv_update h (fun j hj hlock => ?_) trivial
  grind

theorem dekInv_move (h : DekInv p dek s) (hpoint : DekPoint p dek s i point) :
    DekInv p dek (s.move i point) :=
  dekInv_update h (fun _ _ hlock => hlock) (dekPoint_lock (fun hlock => hlock) hpoint)

theorem dekInv_cached {k : SymmetricKey} {bundle : Option AppSecretBundle} (h : DekInv p dek s)
    (hdek : dek = .ok k) (hlock : ∀ j, j ≠ i → s.lock ≠ some j)
    (hbundle : ∀ existing, s.bundle = some existing → bundle = s.bundle) :
    DekInv p dek { s.cached i k with bundle := bundle } := by
  refine ⟨hdek.symm, fun j => ?_⟩
  simp only [ProviderState.cached, Function.update_apply]
  split_ifs with hj
  · exact hdek
  · have hpoint := h.points j
    cases hat : s.points j with
    | start | returned result => trivial
    | locked | generating encryptedDek =>
      rw [hat] at hpoint
      exact absurd hpoint.1 (hlock j hj)
    | keyed k' =>
      rw [hat] at hpoint
      exact hpoint
    | checking b version | writing b =>
      rw [hat] at hpoint
      rcases hpoint with ⟨existing, hexisting, hsame⟩
      exact ⟨existing, (hbundle existing hexisting).trans hexisting, hsame⟩

theorem dekInv_save {b existing : AppSecretBundle} (h : DekInv p dek s)
    (hexisting : s.bundle = some existing) (hsame : b.encryptedDek = existing.encryptedDek) :
    DekInv p dek (saveBundle s i b) := by
  have hret := @dekInv_ret p s dek i h (.ok ())
  refine ⟨?_, fun j => ?_⟩
  · grind [h.same, saveBundle, ProviderState.ret, LocalSecretProvider.dek,
      LocalSecretProvider.decryptDek]
  · have hpoint := hret.points j
    change DekPoint p dek (saveBundle s i b) j ((s.ret i (.ok ())).points j)
    generalize (s.ret i (.ok ())).points j = point at hpoint ⊢
    cases point with
    | generating encryptedDek =>
      have hnone : s.bundle = none := hpoint.2.2.1
      rw [hexisting] at hnone
      cases hnone
    | checking b' version | writing b' =>
      rcases hpoint with ⟨existing', hexisting', hsame'⟩
      cases hexisting.symm.trans hexisting'
      exact ⟨b, rfl, hsame'.trans hsame.symm⟩
    | _ => exact hpoint

theorem dekInv_step (hstep : CallStep p calls s a s') (h : DekInv p dek s) : DekInv p dek s' := by
  have hpoint := h.points a.call
  cases hstep with
  | stays => exact h
  | fails e => exact dekInv_ret h _
  | hits k hat hlock hcache =>
    refine dekInv_cached h ?_ (fun j _ => ?_) (fun _ _ => rfl)
    · rw [← h.same, LocalSecretProvider.dek, hcache]
    · rw [hlock]
      exact nofun
  | locks hat hlock hcache =>
    refine dekInv_update h (fun j _ hheld => ?_) ⟨rfl, hcache⟩
    rw [hlock] at hheld
    cases hheld
  | decrypts b k hat hbundle hdek =>
    rw [hat] at hpoint
    refine dekInv_cached h ?_ (fun j hj => ?_) (fun _ _ => rfl)
    · rw [← h.same, LocalSecretProvider.dek, hpoint.2, hbundle]
      exact hdek
    · rw [hpoint.1]
      exact fun heq => hj (Option.some.inj heq).symm
  | generates encryptedDek hat hbundle hdek =>
    rw [hat] at hpoint
    exact dekInv_move h ⟨hpoint.1, hpoint.2, hbundle, hdek⟩
  | creates encryptedDek hat =>
    rw [hat] at hpoint
    rcases hpoint with ⟨hlock, hcache, hbundle, hdek⟩
    refine dekInv_cached h ?_ (fun j hj => ?_) (fun existing hexisting => ?_)
    · rw [← h.same, LocalSecretProvider.dek, hcache, hbundle, hdek]
      rfl
    · rw [hlock]
      exact fun heq => hj (Option.some.inj heq).symm
    · rw [hbundle] at hexisting
      cases hexisting
  | loadsSet call key value k blob b hcall hop hat hblob hbundle
  | loadsDelete call key b hcall hop hat hbundle hpresent =>
    exact dekInv_move h ⟨b, hbundle, rfl⟩
  | findsNone => exact dekInv_ret h _
  | checks b existing hstorage hat hbundle =>
    rw [hat] at hpoint
    exact dekInv_move h hpoint
  | writes b hat =>
    rw [hat] at hpoint
    rcases hpoint with ⟨existing, hexisting, hsame⟩
    exact dekInv_save h hexisting hsame

end Dek

end WasmCloud
