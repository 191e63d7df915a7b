import WasmCloud.Gateway.Internal

/-!
# The Namespace Map

The monitor knows a caller by the thread it runs in. Two tables lead from a connection to an
identity: the source port to a thread, and the thread to what was registered for it. Each
function is composed of the parts that run under one lock, so that a reader of two tables
may see what another call does in between.

An identity is kept in two fields of 64 bytes, because the kernel has to read it. Names that
do not fit are cut off, and a name is read up to its first zero.
-/

namespace WasmCloud

open List

/-- A field of `TidIdentity`. -/
structure TidField where
  bytes : List UInt8
  size : bytes.length = 64
  deriving DecidableEq

namespace TidField

/-- `[0u8; 64]`. -/
def zeroed : TidField := ⟨List.replicate 64 0, List.length_replicate⟩

/-- `set_namespace` and `set_app_id`: 63 bytes at most, and a zero. -/
def set (field : TidField) (s : String) : TidField :=
  let len := min (Text.utf8 s).length 63
  ⟨(Text.utf8 s).take len ++ 0 :: field.bytes.drop (len + 1), by
    simp only [List.length_append, List.length_take, List.length_cons, List.length_drop, field.size]
    omega⟩

/-- `namespace_str` and `app_id_str`: up to the first zero. -/
def str (field : TidField) : String :=
  (Text.fromUtf8 (field.bytes.takeWhile (fun byte => byte ≠ 0))).getD "<invalid>"

/-- A name that is read back as it was written. -/
def Fits (s : String) : Prop := (Text.utf8 s).length ≤ 63 ∧ 0 ∉ Text.utf8 s

instance (s : String) : Decidable (Fits s) := inferInstanceAs (Decidable (_ ∧ _))

/-- What a field gives back of a name: its first 63 bytes, up to a zero. -/
def cut (s : String) : String :=
  (Text.fromUtf8 (((Text.utf8 s).take 63).takeWhile (fun byte => byte ≠ 0))).getD "<invalid>"

theorem set_bytes (field : TidField) (s : String) :
    ∃ rest, (field.set s).bytes = (Text.utf8 s).take 63 ++ 0 :: rest := by
  refine ⟨field.bytes.drop (min (Text.utf8 s).length 63 + 1), ?_⟩
  change (Text.utf8 s).take (min (Text.utf8 s).length 63) ++ 0 ::
    field.bytes.drop (min (Text.utf8 s).length 63 + 1) = _
  rw [min_comm, ← take_take, take_length]

theorem str_set (field : TidField) (s : String) : (field.set s).str = cut s := by
  rcases field.set_bytes s with ⟨rest, hbytes⟩
  have hread : (field.set s).bytes.takeWhile (fun byte => byte ≠ 0) =
      ((Text.utf8 s).take 63).takeWhile (fun byte => byte ≠ 0) := by
    rw [hbytes, takeWhile_append]
    split_ifs with hall
    · rw [takeWhile_cons_of_neg (by decide), append_nil]
      exact ((takeWhile_sublist _).eq_of_length hall).symm
    · rfl
  rw [str, hread, cut]

theorem cut_of_fits {s : String} (hs : Fits s) : cut s = s := by
  have hbefore : ∀ byte ∈ Text.utf8 s, decide (byte ≠ 0) = true :=
    fun byte hbyte => decide_eq_true fun h => hs.2 (h ▸ hbyte)
  rw [cut, take_of_length_le hs.1, takeWhile_eq_self_iff.mpr hbefore,
    Text.fromUtf8_utf8, Option.getD_some]

/-- Only what fits comes back. -/
theorem cut_eq_iff (s : String) : cut s = s ↔ Fits s := by
  refine ⟨fun h => ?_, cut_of_fits⟩
  -- What is read, `<invalid>` included, fits.
  have hread : Fits (cut s) := by
    unfold cut
    cases hvalid : Text.fromUtf8 (((Text.utf8 s).take 63).takeWhile (fun byte => byte ≠ 0)) with
    | none => decide
    | some t =>
      have hbytes := Text.utf8_of_fromUtf8 hvalid
      rw [Option.getD_some, Fits, hbytes]
      refine ⟨?_, fun hzero => ?_⟩
      · have hle := (takeWhile_sublist (l := (Text.utf8 s).take 63)
          (fun byte => decide (byte ≠ 0))).length_le
        rw [length_take] at hle
        omega
      · simpa using mem_takeWhile_imp hzero
  rwa [h] at hread

theorem Fits.of_append {s t : String} (h : Fits (s ++ t)) : Fits s := by
  rw [Fits, Text.utf8_append, length_append, mem_append] at h
  exact ⟨by omega, fun hzero => h.2 (.inl hzero)⟩

end TidField

structure TidIdentity where
  ns : TidField
  appId : TidField
  registeredAtNs : Nat
  flags : Nat
  deriving DecidableEq

def TidFlags.enabled : Nat := 1

def TidIdentity.new (ns appId : String) : TidIdentity :=
  ⟨TidField.zeroed.set ns, TidField.zeroed.set appId, 0, TidFlags.enabled⟩

/-- A thread with this identity, as the gateway sees it. -/
def TidIdentity.caller (identity : TidIdentity) (tid : UInt32) : CallerIdentity :=
  ⟨identity.ns.str, identity.appId.str, tid⟩

/-- A thread is known under the names it was registered with exactly if both fit, and a gateway
    that compares namespaces is right about every target exactly if the namespace fits. -/
theorem tidIdentity_caller_iff (ns appId : String) (tid : UInt32) :
    let caller := (TidIdentity.new ns appId).caller tid
    (caller.ns = ns ∧ caller.appId = appId ↔ TidField.Fits ns ∧ TidField.Fits appId) ∧
      ((∀ target, caller.ns = target → ns = target) ↔ TidField.Fits ns) := by
  have hns : ((TidIdentity.new ns appId).caller tid).ns = TidField.cut ns :=
    TidField.str_set _ _
  have happ : ((TidIdentity.new ns appId).caller tid).appId = TidField.cut appId :=
    TidField.str_set _ _
  simp only [hns, happ, TidField.cut_eq_iff, true_and]
  constructor
  · intro h
    exact (TidField.cut_eq_iff ns).mp (h _ rfl).symm
  · rintro hfits target rfl
    exact (TidField.cut_of_fits hfits).symm

def longNamespace : String :=
  "aaaaaaaaaaaaaaaaaaaaaaaaaaaaaaaaaaaaaaaaaaaaaaaaaaaaaaaaaaaaaaab"

/-- It passes for the one that is called by the first 63 of these letters. -/
theorem long_namespace_confused :
    let target := "aaaaaaaaaaaaaaaaaaaaaaaaaaaaaaaaaaaaaaaaaaaaaaaaaaaaaaaaaaaaaaa"
    AppId.newValidate (longNamespace ++ "/shop:v1") = .ok ⟨longNamespace ++ "/shop:v1"⟩ ∧
      AppId.newValidate (target ++ "/shop:v1") = .ok ⟨target ++ "/shop:v1"⟩ ∧
      ((TidIdentity.new longNamespace "shop:v1").caller 7).ns = target ∧
      longNamespace ≠ target := by
  decide +kernel

/-- An entry of `tid_to_identity`. -/
structure Registration where
  tid : UInt32
  identity : TidIdentity
  deriving DecidableEq

/-- An entry of `port_to_tid`. -/
structure PortBinding where
  sourcePort : UInt16
  tid : UInt32
  createdAt : Nat
  deriving DecidableEq

abbrev TidTable := OrdTable (fun entry : Registration => entry.tid.toNat)

abbrev PortTable := OrdTable (fun binding : PortBinding => binding.sourcePort.toNat)

/-- `inner` are the threads in the kernel's tables. -/
structure NamespaceMap where
  inner : List UInt32
  tidToIdentity : TidTable
  portToTid : PortTable
  portTtl : Nat

namespace NamespaceMap

/-- `from_ebpf` and `new_fallback`. Bindings last 300 seconds, in nanoseconds. -/
def new : NamespaceMap := ⟨[], OrdTable.empty, OrdTable.empty, 300 * 1000000000⟩

variable (m : NamespaceMap)

/-- The thread in all the kernel's tables. -/
def insertInner (tid : UInt32) : NamespaceMap :=
  { m with inner := tid :: m.inner }

def removeInner (tid : UInt32) : NamespaceMap :=
  { m with inner := m.inner.filter (fun other => other ≠ tid) }

/-- The part of `register_tid` that writes `tid_to_identity`. -/
def insertIdentity (tid : UInt32) (identity : TidIdentity) (nowNs : Nat) : NamespaceMap :=
  { m with
    tidToIdentity := m.tidToIdentity.insert
      ⟨tid, { identity with flags := TidFlags.enabled, registeredAtNs := nowNs }⟩ }

/-- The part of `deregister_tid` that writes `tid_to_identity`. -/
def removeIdentity (tid : UInt32) : NamespaceMap :=
  { m with tidToIdentity := m.tidToIdentity.remove tid.toNat }

/-- The part of `deregister_tid` that writes `port_to_tid`. -/
def retainPorts (tid : UInt32) : NamespaceMap :=
  { m with portToTid := m.portToTid.filter (fun binding => binding.tid ≠ tid) }

/-- `register_tid`. `refused` is the error of a kernel table that does not take the thread. -/
def registerTid (tid : UInt32) (identity : TidIdentity) (nowNs : Nat)
    (refused : Option String) : NamespaceMap × Except String Unit :=
  match refused with
  | some e =>
    (m.removeInner tid,
      .error ("failed to register TID " ++ toString tid ++ " in every eBPF map: " ++ e))
  | none => ((m.insertInner tid).insertIdentity tid identity nowNs, .ok ())

def deregisterTid (tid : UInt32) : NamespaceMap :=
  ((m.removeInner tid).removeIdentity tid).retainPorts tid

def bindPort (now : Nat) (sourcePort : UInt16) (tid : UInt32) : NamespaceMap :=
  { m with portToTid := m.portToTid.insert ⟨sourcePort, tid, now⟩ }

def unbindPort (sourcePort : UInt16) : NamespaceMap :=
  { m with portToTid := m.portToTid.remove sourcePort.toNat }

/-- The first half of `resolve_identity`. A binding that is too old is dropped. -/
def readBinding (now : Nat) (sourcePort : UInt16) : NamespaceMap × Option UInt32 :=
  match m.portToTid.get? sourcePort.toNat with
  | none => (m, none)
  | some binding =>
    if now - binding.createdAt > m.portTtl then (m.unbindPort sourcePort, none)
    else (m, some binding.tid)

def lookupTid (tid : UInt32) : Option TidIdentity :=
  (m.tidToIdentity.get? tid.toNat).map Registration.identity

/-- The second half of `resolve_identity`. -/
def readIdentity (tid : UInt32) : Option CallerIdentity :=
  (m.lookupTid tid).map (fun identity => identity.caller tid)

def resolveIdentity (now : Nat) (sourcePort : UInt16) : NamespaceMap × Option CallerIdentity :=
  let (m', tid) := m.readBinding now sourcePort
  (m', tid.bind m'.readIdentity)

/-- The threads `cleanup_stale_tids` deregisters. -/
def staleTids (alive : UInt32 → Bool) : List UInt32 :=
  (m.tidToIdentity.entries.map Registration.tid).filter (fun tid => !alive tid)

def cleanupStaleTids (alive : UInt32 → Bool) : NamespaceMap × Nat :=
  ((m.staleTids alive).foldl deregisterTid m, (m.staleTids alive).length)

theorem lookupTid_insertIdentity (tid : UInt32) (identity : TidIdentity)
    (nowNs : Nat) (other : UInt32) :
    (m.insertIdentity tid identity nowNs).lookupTid other =
      if other = tid then
        some { identity with flags := TidFlags.enabled, registeredAtNs := nowNs }
      else m.lookupTid other := by
  unfold lookupTid insertIdentity
  rw [OrdTable.get?_insert]
  by_cases hother : other = tid <;> simp [hother, UInt32.toNat_inj]

theorem lookupTid_deregisterTid (tid other : UInt32) :
    (m.deregisterTid tid).lookupTid other = if other = tid then none else m.lookupTid other := by
  have htable : (m.deregisterTid tid).tidToIdentity = m.tidToIdentity.remove tid.toNat := rfl
  grind [lookupTid, UInt32.toNat_inj]

end NamespaceMap

end WasmCloud
