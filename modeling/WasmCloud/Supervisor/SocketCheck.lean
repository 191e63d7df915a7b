import WasmCloud.Gateway.Internal
import WasmCloud.Supervisor.Discovery

/-!
# Socket Checks

Every socket operation of a guest is asked for twice. The runtime compares it with the instance's
network policy, and the supervisor with a set of ports it knew when the instance was launched: the
gateway's, those of the services of the namespace, and the instance's own.

The set is used for binds as well. The policy has a list of ports for TCP; for UDP it looks at the
address as if something were sent there. A destination in the set is looked up among the services,
to find out whether its port belongs to another namespace by now.
-/

namespace WasmCloud

open List

inductive SocketAddrUse where
  | tcpBind
  | tcpListen
  | tcpAccept
  | tcpConnect
  | udpBind
  | udpSend
  | udpReceive
  deriving DecidableEq

/-- A network: an address and the number of its bits that count. -/
inductive IpNet where
  | v4 (addr : BitVec 32) (len : Nat)
  | v6 (addr : BitVec 128) (len : Nat)
  deriving DecidableEq

def IpNet.contains : IpNet → IpAddr → Bool
  | .v4 addr len, .v4 ip => ip >>> (32 - len) == addr >>> (32 - len)
  | .v6 addr len, .v6 ip => ip >>> (128 - len) == addr >>> (128 - len)
  | .v4 _ _, .v6 _ => false
  | .v6 _ _, .v4 _ => false

/-- `InstancePolicy::network`. Networks that cannot be parsed are left out. -/
structure NetworkPolicy where
  allowInbound : Bool
  allowOutboundTcp : Bool
  allowOutboundUdp : Bool
  allowedBindPorts : List UInt16
  allowedCidrs : List IpNet
  deniedCidrs : List IpNet
  maxOutboundConnections : Nat
  deriving DecidableEq

/-- `PolicyCounters`, as far as the checks use them. -/
structure PolicyCounters where
  outboundConnectionsActive : Nat
  localOutboundConnectionsActive : Nat
  outboundConnectionsTotal : Nat
  connectionDeniedTotal : Nat
  bindDeniedTotal : Nat
  deriving DecidableEq

inductive PolicyDenied where
  | networkDisabled (protocol : String)
  | destinationDenied (ip : IpAddr) (reason : String)
  | connectionLimitExceeded (current limit : Nat)
  | bindDenied (port : UInt16) (allowed : List UInt16)
  deriving DecidableEq

namespace NetworkPolicy

variable (policy : NetworkPolicy) (k : PolicyCounters)

def refusal (ip : IpAddr) : Option String :=
  if policy.deniedCidrs.any (fun cidr => cidr.contains ip) then
    some "destination in denied_cidrs"
  else if !policy.allowedCidrs.isEmpty &&
      !policy.allowedCidrs.any (fun cidr => cidr.contains ip) then
    some "destination not in allowed_cidrs"
  else none

def outboundIpAllowed (ip : IpAddr) : Except String Unit :=
  match policy.refusal ip with
  | some reason => .error reason
  | none => .ok ()

/-- `check_outbound_tcp_connect`. A connection that is allowed takes a slot. -/
def checkOutboundTcpConnect (ip : IpAddr) : PolicyCounters × Except PolicyDenied Unit :=
  let denied := { k with connectionDeniedTotal := k.connectionDeniedTotal + 1 }
  if !policy.allowOutboundTcp then (denied, .error (.networkDisabled "tcp"))
  else
    match policy.refusal ip with
    | some reason => (denied, .error (.destinationDenied ip reason))
    | none =>
      if k.outboundConnectionsActive ≥ policy.maxOutboundConnections then
        (denied, .error (.connectionLimitExceeded k.outboundConnectionsActive
          policy.maxOutboundConnections))
      else
        ({ k with
          outboundConnectionsActive := k.outboundConnectionsActive + 1
          localOutboundConnectionsActive := k.localOutboundConnectionsActive + 1 }, .ok ())

def checkBind (port : UInt16) : PolicyCounters × Except PolicyDenied Unit :=
  if port ∈ policy.allowedBindPorts then (k, .ok ())
  else
    ({ k with bindDeniedTotal := k.bindDeniedTotal + 1 },
      .error (.bindDenied port policy.allowedBindPorts))

def checkTcpBind (port : UInt16) : PolicyCounters × Except PolicyDenied Unit :=
  if !policy.allowInbound then
    ({ k with bindDeniedTotal := k.bindDeniedTotal + 1 }, .error (.networkDisabled "tcp_bind"))
  else policy.checkBind k port

def check (addr : SocketAddr) : SocketAddrUse → Except String Unit
  | .tcpBind | .tcpListen =>
    if !policy.allowInbound then .error "inbound tcp bind disabled"
    else if addr.port ∉ policy.allowedBindPorts then .error "bind port not allowed"
    else .ok ()
  | .tcpAccept =>
    if !policy.allowInbound then .error "inbound tcp accept disabled" else .ok ()
  | .tcpConnect =>
    if !policy.allowOutboundTcp then .error "outbound tcp disabled"
    else policy.outboundIpAllowed addr.ip
  | .udpBind | .udpSend | .udpReceive =>
    if !policy.allowOutboundUdp then .error "outbound udp disabled"
    else policy.outboundIpAllowed addr.ip

end NetworkPolicy

namespace PolicyCounters

def recordOutboundConnect (k : PolicyCounters) : PolicyCounters :=
  { k with outboundConnectionsTotal := k.outboundConnectionsTotal + 1 }

def recordOutboundDisconnect (k : PolicyCounters) : PolicyCounters :=
  if k.localOutboundConnectionsActive = 0 then k
  else
    { k with
      localOutboundConnectionsActive := k.localOutboundConnectionsActive - 1
      outboundConnectionsActive := k.outboundConnectionsActive - 1 }

end PolicyCounters

/-- What the check of an instance was made from. -/
structure InstanceCheck where
  id : Nat
  source : AppId
  hostPort : Nat
  gatewayPort : Nat
  bindIp : IpAddr
  allowed : List Nat
  deriving DecidableEq

/-- The gateway's port, those of the namespace's services, and the instance's own. -/
def allowedPorts (gatewayPort : Nat) (services : NamespaceRegistry) (ns : String)
    (hostPort : Nat) : List Nat :=
  gatewayPort :: (services.filter (fun entry => entry.1.1 = ns)).map Prod.snd ++ [hostPort]

inductive ConnectDecision where
  | allow (addr : SocketAddr)
  | deny (reason : String)
  deriving DecidableEq

/-- `resolve_app_by_port` panics if the first service with the port makes an invalid identifier. -/
def resolveAppByPort (scan : NamespaceRegistry) (port : Nat) : Option (Option AppId) :=
  (scan.find? (fun entry => entry.2 = port)).map
    (fun entry => AppId.newNamespaced entry.1.1 entry.1.2 "v1")

/-- `check_connect`, or nothing if it panics. -/
def checkConnect (source : AppId) (scan : NamespaceRegistry) (dest : SocketAddr) :
    Option ConnectDecision :=
  if !dest.ip.isLoopback then some (.allow dest)
  else
    match resolveAppByPort scan dest.port.toNat with
    | none => some (.allow dest)
    | some none => none
    | some (some target) =>
      if target.ns ≠ source.ns then
        some (.deny ("cross-namespace connection blocked: " ++ source.ns ++ " → " ++ target.ns))
      else some (.allow dest)

def isInstanceBindAllowed (dest : SocketAddr) (allowed : List Nat) (bindIp : IpAddr) : Bool :=
  dest.port.toNat ∈ allowed && dest.ip = bindIp

/-- `socket_addr_check`, or nothing if it panics. -/
def socketAddrCheck (check : InstanceCheck) (scan : NamespaceRegistry) (dest : SocketAddr) :
    SocketAddrUse → Option Bool
  | .tcpConnect | .udpSend =>
    if !dest.ip.isLoopback then some true
    else if dest.port.toNat ∉ check.allowed then some false
    else if dest.port.toNat ≠ check.gatewayPort then
      (checkConnect check.source scan dest).map fun decision =>
        match decision with
        | .allow _ => true
        | .deny _ => false
    else some true
  | .tcpBind | .tcpListen | .udpBind =>
    some (isInstanceBindAllowed dest check.allowed check.bindIp)
  | .tcpAccept | .udpReceive => some true

/-- The counters, whether the policy allows the use, and whether a slot was taken for it. -/
def policyVerdict (policy : NetworkPolicy) (k : PolicyCounters) (addr : SocketAddr)
    (use : SocketAddrUse) : PolicyCounters × Bool × Bool :=
  match use with
  | .tcpBind | .tcpListen =>
    let (k', verdict) := policy.checkTcpBind k addr.port
    (k', verdict.toBool, false)
  | .tcpConnect =>
    let (k', verdict) := policy.checkOutboundTcpConnect k addr.ip
    (k', verdict.toBool, true)
  | .tcpAccept | .udpBind | .udpSend | .udpReceive => (k, (policy.check addr use).toBool, false)

/-- The policy first, then the other check; a slot is given back if that refuses. -/
def composeSocketAddrCheck (policy : NetworkPolicy) (k : PolicyCounters)
    (extraCheck : Option (SocketAddr → SocketAddrUse → Option Bool)) (addr : SocketAddr)
    (use : SocketAddrUse) : PolicyCounters × Option Bool :=
  let (k', allowed, reserved) := policyVerdict policy k addr use
  if !allowed then (k', some false)
  else
    match extraCheck.elim (some true) (fun check => check addr use) with
    | none => (k', none)
    | some false => (if reserved then k'.recordOutboundDisconnect else k', some false)
    | some true => (if reserved then k'.recordOutboundConnect else k', some true)

theorem composed_iff (policy : NetworkPolicy) (k : PolicyCounters)
    (check : SocketAddr → SocketAddrUse → Option Bool) (addr : SocketAddr) (use : SocketAddrUse) :
    (composeSocketAddrCheck policy k (some check) addr use).2 = some true ↔
      (policyVerdict policy k addr use).2.1 = true ∧ check addr use = some true := by
  unfold composeSocketAddrCheck
  rcases policyVerdict policy k addr use with ⟨k', _ | _, reserved⟩
  · simp
  · rcases hcheck : check addr use with _ | _ | _ <;> simp [hcheck]

def SocketAddrUse.binds : SocketAddrUse → Bool
  | .tcpBind | .tcpListen | .udpBind => true
  | .tcpAccept | .tcpConnect | .udpSend | .udpReceive => false

def NetworkPolicy.bindAllowed (policy : NetworkPolicy) (addr : SocketAddr) :
    SocketAddrUse → Prop
  | .tcpBind | .tcpListen => policy.allowInbound = true ∧ addr.port ∈ policy.allowedBindPorts
  | .udpBind => policy.allowOutboundUdp = true ∧ policy.refusal addr.ip = none
  | .tcpAccept | .tcpConnect | .udpSend | .udpReceive => False

variable {use : SocketAddrUse}

theorem policyVerdict_binds (policy : NetworkPolicy) (k : PolicyCounters) (addr : SocketAddr)
    (hbinds : use.binds = true) :
    (policyVerdict policy k addr use).2.1 = true ↔ policy.bindAllowed addr use := by
  have htcp : (policy.checkTcpBind k addr.port).2.toBool = true ↔
      policy.allowInbound = true ∧ addr.port ∈ policy.allowedBindPorts := by
    grind [NetworkPolicy.checkTcpBind, NetworkPolicy.checkBind, Except.toBool]
  have hudp : (policy.check addr .udpBind).toBool = true ↔
      policy.allowOutboundUdp = true ∧ policy.refusal addr.ip = none := by
    grind [NetworkPolicy.check, NetworkPolicy.outboundIpAllowed, Except.toBool]
  cases use with
  | tcpBind | tcpListen => exact htcp
  | udpBind => exact hudp
  | tcpAccept | tcpConnect | udpSend | udpReceive => cases hbinds

theorem composed_bind_iff (policy : NetworkPolicy) (k : PolicyCounters) (check : InstanceCheck)
    (scan : NamespaceRegistry) (addr : SocketAddr) (hbinds : use.binds = true) :
    (composeSocketAddrCheck policy k (some (socketAddrCheck check scan)) addr use).2 = some true ↔
      policy.bindAllowed addr use ∧ addr.port.toNat ∈ check.allowed ∧ addr.ip = check.bindIp := by
  rw [composed_iff, policyVerdict_binds policy k addr hbinds]
  refine and_congr_right fun _ => ?_
  have hcheck : socketAddrCheck check scan addr use =
      some (isInstanceBindAllowed addr check.allowed check.bindIp) := by
    cases use with
    | tcpBind | tcpListen | udpBind => rfl
    | tcpAccept | tcpConnect | udpSend | udpReceive => cases hbinds
  rw [hcheck, Option.some_inj, isInstanceBindAllowed, Bool.and_eq_true, decide_eq_true_eq,
    decide_eq_true_eq]

/-- The ports the policy lists for TCP, and for UDP the whole set, are the instance's own. -/
def OwnPortOnly (policy : NetworkPolicy) (check : InstanceCheck) : Prop :=
  (policy.allowInbound = true → ∀ port ∈ policy.allowedBindPorts,
    port.toNat ∈ check.allowed → port.toNat = check.hostPort) ∧
  (policy.allowOutboundUdp = true → policy.refusal check.bindIp = none →
    ∀ port ∈ check.allowed, port < 2 ^ 16 → port = check.hostPort)

instance (policy : NetworkPolicy) (check : InstanceCheck) : Decidable (OwnPortOnly policy check) :=
  -- Only the ports of the list are tried, not every port there is.
  have : Decidable (∀ port ∈ policy.allowedBindPorts,
      port.toNat ∈ check.allowed → port.toNat = check.hostPort) := List.decidableBAll _ _
  inferInstanceAs (Decidable (_ ∧ _))

/-- Exactly then an instance can bind its own port on its own address and nothing else. -/
theorem ownPortOnly_iff (policy : NetworkPolicy) (check : InstanceCheck) :
    OwnPortOnly policy check ↔
      ∀ (k : PolicyCounters) (scan : NamespaceRegistry) (addr : SocketAddr) (use : SocketAddrUse),
        use.binds = true →
        (composeSocketAddrCheck policy k (some (socketAddrCheck check scan)) addr use).2 =
          some true →
        addr.ip = check.bindIp ∧ addr.port.toNat = check.hostPort := by
  constructor
  · rintro ⟨htcp, hudp⟩ k scan addr use hbinds hallowed
    rcases (composed_bind_iff policy k check scan addr hbinds).mp hallowed with
      ⟨hpolicy, hport, hip⟩
    refine ⟨hip, ?_⟩
    cases use with
    | tcpBind | tcpListen => exact htcp hpolicy.1 addr.port hpolicy.2 hport
    | udpBind => exact hudp hpolicy.1 (hip ▸ hpolicy.2) _ hport addr.port.toNat_lt
    | tcpAccept | tcpConnect | udpSend | udpReceive => cases hbinds
  · intro h
    have hbind : ∀ (port : UInt16) (use : SocketAddrUse), use.binds = true →
        policy.bindAllowed ⟨check.bindIp, port⟩ use → port.toNat ∈ check.allowed →
        port.toNat = check.hostPort :=
      fun port use hbinds hpolicy hport => (h ⟨0, 0, 0, 0, 0⟩ [] ⟨check.bindIp, port⟩ use hbinds
        ((composed_bind_iff policy _ check [] _ hbinds).mpr ⟨hpolicy, hport, rfl⟩)).2
    refine ⟨fun hinbound port hlisted hport =>
      hbind port .tcpBind rfl ⟨hinbound, hlisted⟩ hport, fun hudp hip port hport hsmall => ?_⟩
    have hround : (UInt16.ofNat port).toNat = port := UInt16.toNat_ofNat_of_lt' hsmall
    rw [← hround]
    exact hbind (UInt16.ofNat port) .udpBind rfl ⟨hudp, hip⟩ (hround.symm ▸ hport)

theorem AppId.newNamespaced_ns {ns name version : String} {target : AppId}
    (hns : '/' ∉ ns.toList) (h : AppId.newNamespaced ns name version = some target) :
    target.ns = ns := by
  have htext : target.text = ns ++ "/" ++ (name ++ ":" ++ version) := by
    rw [AppId.newNamespaced_text h]
    simp only [String.append_assoc]
  have hslash : target.text.toList.contains '/' = true := by
    rw [htext]
    simp [String.toList_append]
  rw [AppId.ns, if_pos hslash, htext, Text.split_append hns (by decide), headD_cons]

variable {scan : NamespaceRegistry} {dest : SocketAddr}

theorem checkConnect_foreign {source : AppId} (hloopback : dest.ip.isLoopback = true)
    (hlisted : ∃ entry ∈ scan, entry.2 = dest.port.toNat)
    (hforeign : ∀ entry ∈ scan, entry.2 = dest.port.toNat →
      '/' ∉ entry.1.1.toList ∧ entry.1.1 ≠ source.ns) :
    ∀ decision ∈ checkConnect source scan dest, ∃ reason, decision = .deny reason := by
  rcases hfind : scan.find? (fun entry => entry.2 = dest.port.toNat) with _ | entry
  · rcases hlisted with ⟨entry, hentry, hport⟩
    exact absurd (decide_eq_true hport) (List.find?_eq_none.mp hfind entry hentry)
  · have hport : entry.2 = dest.port.toNat := by
      simpa only [decide_eq_true_eq] using List.find?_some hfind
    rcases hforeign entry (mem_of_find?_eq_some hfind) hport with ⟨hslash, hns⟩
    intro decision hdecision
    rw [checkConnect, hloopback, resolveAppByPort, hfind] at hdecision
    rcases htarget : AppId.newNamespaced entry.1.1 entry.1.2 "v1" with _ | target
    · simp [htarget] at hdecision
    · have hother : target.ns ≠ source.ns := by
        rw [AppId.newNamespaced_ns hslash htarget]
        exact hns
      simp only [Bool.not_true, Bool.false_eq_true, if_false, Option.map_some, htarget, ne_eq,
        hother, not_false_eq_true, if_true, Option.mem_def, Option.some_inj] at hdecision
      exact ⟨_, hdecision.symm⟩

variable {check : InstanceCheck}

theorem check_denies_foreign (huse : use = .tcpConnect ∨ use = .udpSend)
    (hloopback : dest.ip.isLoopback = true) (hgateway : dest.port.toNat ≠ check.gatewayPort)
    (hlisted : ∃ entry ∈ scan, entry.2 = dest.port.toNat)
    (hforeign : ∀ entry ∈ scan, entry.2 = dest.port.toNat →
      '/' ∉ entry.1.1.toList ∧ entry.1.1 ≠ check.source.ns) :
    socketAddrCheck check scan dest use ≠ some true := by
  have hdenied := checkConnect_foreign hloopback hlisted hforeign
  have hcheck : socketAddrCheck check scan dest use =
      if dest.port.toNat ∉ check.allowed then some false
      else (checkConnect check.source scan dest).map fun decision =>
        match decision with
        | .allow _ => true
        | .deny _ => false := by
    grind [socketAddrCheck]
  rw [hcheck]
  by_cases hport : dest.port.toNat ∈ check.allowed
  · rw [if_neg (not_not.mpr hport)]
    rcases hconnect : checkConnect check.source scan dest with _ | decision
    · simp
    · rcases hdenied decision hconnect with ⟨reason, rfl⟩
      simp
  · rw [if_pos hport]
    simp

theorem mem_allowed_of_check (huse : use = .tcpConnect ∨ use = .udpSend)
    (hloopback : dest.ip.isLoopback = true) (h : socketAddrCheck check scan dest use = some true) :
    dest.port.toNat ∈ check.allowed := by
  by_contra hport
  grind [socketAddrCheck]

/-- `InstancePolicy::network`, as a deployment carries it. -/
structure InstancePolicyNetwork where
  allowInbound : Bool
  allowOutboundTcp : Bool
  allowOutboundUdp : Bool
  allowedBindPorts : List UInt16
  allowedCidrs : List String
  deniedCidrs : List String
  maxOutboundConnections : Nat
  deriving DecidableEq

/-- As it comes with a configuration. What is not given has its default. -/
structure NetworkPolicyConfig where
  allowInbound : Option Bool
  allowOutboundTcp : Option Bool
  allowOutboundUdp : Option Bool
  allowedCidrs : Option (List String)
  deniedCidrs : Option (List String)
  maxOutboundConnections : Option Nat

/-- The errors "invalid CIDR: ..." and "max_outbound_connections must be > 0". -/
inductive PolicyConfigError where
  | invalidCidr (cidr : String)
  | noConnections

section

variable (parse : String → Option IpNet)

def validateCidrs (cidrs : List String) : Except PolicyConfigError Unit :=
  match cidrs.find? (fun cidr => (parse cidr).isNone) with
  | some cidr => .error (.invalidCidr cidr)
  | none => .ok ()

/-- The network part of `PolicyConfig::resolve`. -/
def PolicyConfig.resolveNetwork (assignedPort : UInt16) :
    Option NetworkPolicyConfig → Except PolicyConfigError InstancePolicyNetwork
  | none => .ok ⟨true, true, false, [assignedPort], [], [], 100⟩
  | some cfg => do
    validateCidrs parse (cfg.allowedCidrs.getD [])
    validateCidrs parse (cfg.deniedCidrs.getD [])
    if cfg.maxOutboundConnections = some 0 then .error .noConnections
    else return ⟨cfg.allowInbound.getD true, cfg.allowOutboundTcp.getD true,
      cfg.allowOutboundUdp.getD false, [assignedPort], cfg.allowedCidrs.getD [],
      cfg.deniedCidrs.getD [], cfg.maxOutboundConnections.getD 100⟩

def PolicyEnforcer.parseCidrs (cidrs : List String) : List IpNet := cidrs.filterMap parse

def SocketPolicyCheck.parseCidrs (cidrs : List String) : List IpNet := cidrs.filterMap parse

def PolicyEnforcer.withCounters (network : InstancePolicyNetwork) : NetworkPolicy :=
  { network with
    allowedCidrs := PolicyEnforcer.parseCidrs parse network.allowedCidrs
    deniedCidrs := PolicyEnforcer.parseCidrs parse network.deniedCidrs }

def SocketPolicyCheck.fromInstancePolicy (network : InstancePolicyNetwork) : NetworkPolicy :=
  { network with
    allowedCidrs := SocketPolicyCheck.parseCidrs parse network.allowedCidrs
    deniedCidrs := SocketPolicyCheck.parseCidrs parse network.deniedCidrs }

/-- In no denied network and, if there are allowed ones, in one of these. Texts that are no
    network do not count. -/
def InstancePolicyNetwork.Respected (network : InstancePolicyNetwork) (ip : IpAddr) : Prop :=
  (∀ cidr ∈ network.deniedCidrs, ∀ net ∈ parse cidr, net.contains ip = false) ∧
    ((∃ cidr ∈ network.allowedCidrs, (parse cidr).isSome) →
      ∃ cidr ∈ network.allowedCidrs, ∃ net ∈ parse cidr, net.contains ip = true)

/-- Every denied text is a network that does not have the address, and, if there are allowed
    ones, one of these has it. -/
def InstancePolicyNetwork.Kept (network : InstancePolicyNetwork) (ip : IpAddr) : Prop :=
  (∀ cidr ∈ network.deniedCidrs, ∃ net ∈ parse cidr, net.contains ip = false) ∧
    (network.allowedCidrs ≠ [] →
      ∃ cidr ∈ network.allowedCidrs, ∃ net ∈ parse cidr, net.contains ip = true)

end

theorem validateCidrs_ok {parse : String → Option IpNet} {cidrs : List String}
    (h : validateCidrs parse cidrs = .ok ()) : ∀ cidr ∈ cidrs, (parse cidr).isSome = true := by
  intro cidr hcidr
  unfold validateCidrs at h
  split at h
  · cases h
  · rename_i hnone
    simpa [← Option.isSome_iff_ne_none] using find?_eq_none.mp hnone cidr hcidr

/-- What `PolicyConfig::resolve` gives has valid networks only. -/
theorem InstancePolicyNetwork.Respected.kept {parse : String → Option IpNet}
    {network : InstancePolicyNetwork} {ip : IpAddr} (h : network.Respected parse ip)
    {port : UInt16} {cfg : Option NetworkPolicyConfig}
    (hcfg : PolicyConfig.resolveNetwork parse port cfg = .ok network) : network.Kept parse ip := by
  have hvalid : (∀ cidr ∈ network.allowedCidrs, (parse cidr).isSome = true) ∧
      ∀ cidr ∈ network.deniedCidrs, (parse cidr).isSome = true := by
    cases cfg with
    | none =>
      cases hcfg
      exact ⟨nofun, nofun⟩
    | some cfg =>
      rcases bind_ok_iff.mp hcfg with ⟨_, hallowed, hcfg⟩
      rcases bind_ok_iff.mp hcfg with ⟨_, hdenied, hcfg⟩
      split at hcfg
      · cases hcfg
      · cases hcfg
        exact ⟨validateCidrs_ok hallowed, validateCidrs_ok hdenied⟩
  constructor
  · intro cidr hcidr
    obtain ⟨net, hnet⟩ := Option.isSome_iff_exists.mp (hvalid.2 cidr hcidr)
    exact ⟨net, hnet, h.1 cidr hcidr net hnet⟩
  · intro hne
    obtain ⟨cidr, hcidr⟩ := exists_mem_of_ne_nil _ hne
    exact h.2 ⟨cidr, hcidr, hvalid.1 cidr hcidr⟩

theorem NetworkPolicy.refusal_eq_none_iff (policy : NetworkPolicy) (ip : IpAddr) :
    policy.refusal ip = none ↔ (∀ net ∈ policy.deniedCidrs, net.contains ip = false) ∧
        (policy.allowedCidrs ≠ [] → ∃ net ∈ policy.allowedCidrs, net.contains ip = true) := by
  grind [NetworkPolicy.refusal]

variable {ip : IpAddr} {policy : NetworkPolicy}

theorem respected_of_refusal {parse : String → Option IpNet} {network : InstancePolicyNetwork}
    (hallowed : policy.allowedCidrs = network.allowedCidrs.filterMap parse)
    (hdenied : policy.deniedCidrs = network.deniedCidrs.filterMap parse)
    (h : policy.refusal ip = none) : network.Respected parse ip := by
  obtain ⟨hnone, hsome⟩ := (policy.refusal_eq_none_iff ip).mp h
  rw [hdenied] at hnone
  rw [hallowed] at hsome
  refine ⟨fun cidr hcidr net hnet => hnone net (mem_filterMap.mpr ⟨cidr, hcidr, hnet⟩), ?_⟩
  grind [Option.isSome_iff_exists]

theorem NetworkPolicy.refusal_of_connect {k : PolicyCounters}
    (h : (policy.checkOutboundTcpConnect k ip).2 = .ok ()) : policy.refusal ip = none := by
  grind [NetworkPolicy.checkOutboundTcpConnect]

theorem NetworkPolicy.refusal_of_udp {addr : SocketAddr} {use : SocketAddrUse}
    (huse : use = .udpBind ∨ use = .udpSend ∨ use = .udpReceive)
    (h : policy.check addr use = .ok ()) : policy.refusal addr.ip = none := by
  have hcheck : policy.check addr use =
      if !policy.allowOutboundUdp then .error "outbound udp disabled"
      else policy.outboundIpAllowed addr.ip := by
    rcases huse with rfl | rfl | rfl <;> rfl
  grind [NetworkPolicy.outboundIpAllowed]

/-- Whatever texts a policy has: what the check of TCP connections or that of UDP lets through
    is in no network that is denied and, if some network is allowed, in one that is. With a
    policy that was resolved from a configuration no text is left out. -/
theorem outbound_respects_networks (parse : String → Option IpNet)
    (network : InstancePolicyNetwork) (k : PolicyCounters) (addr : SocketAddr) :
    (((PolicyEnforcer.withCounters parse network).checkOutboundTcpConnect k addr.ip).2 = .ok () →
      network.Respected parse addr.ip) ∧
    (∀ use : SocketAddrUse, use = .udpBind ∨ use = .udpSend ∨ use = .udpReceive →
      (SocketPolicyCheck.fromInstancePolicy parse network).check addr use = .ok () →
      network.Respected parse addr.ip) ∧
    ∀ port cfg, PolicyConfig.resolveNetwork parse port cfg = .ok network →
      network.Respected parse addr.ip → network.Kept parse addr.ip :=
  ⟨fun h => respected_of_refusal rfl rfl (NetworkPolicy.refusal_of_connect h),
    fun _ huse h => respected_of_refusal rfl rfl (NetworkPolicy.refusal_of_udp huse h),
    fun _ _ hcfg h => h.kept hcfg⟩

/-- What `ipnet` makes of a metadata address, and of an impossible length. -/
def parseMetadataCidr : String → Option IpNet
  | "169.254.169.254/32" => some (.v4 0xA9FEA9FE 32)
  | _ => none

def mistypedPolicy : InstancePolicyNetwork where
  allowInbound := false
  allowOutboundTcp := true
  allowOutboundUdp := true
  allowedBindPorts := []
  allowedCidrs := []
  deniedCidrs := ["169.254.169.254/33"]
  maxOutboundConnections := 10

/-- The entry is skipped, and both checks let the address through. -/
theorem mistyped_network_skipped :
    (∃ cidr ∈ mistypedPolicy.deniedCidrs, parseMetadataCidr cidr = none) ∧
    ((PolicyEnforcer.withCounters parseMetadataCidr mistypedPolicy).checkOutboundTcpConnect
      ⟨0, 0, 0, 0, 0⟩ (.v4 0xA9FEA9FE)).2 = .ok () ∧
    (SocketPolicyCheck.fromInstancePolicy parseMetadataCidr mistypedPolicy).check
      ⟨.v4 0xA9FEA9FE, 80⟩ .udpSend = .ok () :=
  ⟨⟨_, mem_singleton_self _, rfl⟩, rfl, rfl⟩

end WasmCloud
