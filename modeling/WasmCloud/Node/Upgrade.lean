import WasmCloud.Lib.Run
import WasmCloud.Node.Release

/-!
# Rolling Upgrades

An upgrade event with the target `*` asks all nodes to upgrade one after the other, in the
order of their names. Every node sorts the names of the nodes it has heard of, and looks for
its own. The first one upgrades. Every other one finds that it has a predecessor, writes so
to its log, and is done with the event; that the predecessor is done is only logged as well.
So nobody upgrades after the first node: `memberInv_run`.

The handler of an upgrade is cut into the parts between which it waits for something.
-/

namespace WasmCloud

open List

def protocolVersion : UInt32 := 2

def minCompatibleProtocol : UInt32 := 1

inductive PlatformEvent where
  | nodeUpgrade (e : NodeUpgrade)
  | nodeUpgradeComplete (nodeId newBinaryVersion : String) (newProtocolVersion : UInt32)
  | nodeDraining (nodeId : String) (drainTimeoutSecs : Nat)
  deriving DecidableEq, Repr

inductive UpgradeAction where
  | notAnUpgradeEvent
  | notTargeted
  | waitForPredecessor (predecessor : String)
  | incompatibleVersion
  | proceedWithUpgrade
  deriving DecidableEq, Repr

/-- The end of `handle_upgrade_event`: is the protocol one this node can talk to? -/
def checkProtocol (newProtocolVersion : UInt32) : UpgradeAction :=
  if newProtocolVersion < minCompatibleProtocol then .incompatibleVersion
  else if newProtocolVersion > protocolVersion + 1 then .incompatibleVersion
  else .proceedWithUpgrade

def handleUpgradeEvent (event : PlatformEvent) (ownNodeId : String)
    (clusterNodeIds : List String) : Except PlatformError UpgradeAction :=
  match event with
  | .nodeUpgrade e =>
    if e.targetNode ≠ "*" ∧ e.targetNode ≠ ownNodeId then .ok .notTargeted
    else if e.targetNode = "*" then
      let sortedNodes := clusterNodeIds.insertionSort (· ≤ ·)
      match sortedNodes.idxOf? ownNodeId with
      | none => .error (.internal "own node not in cluster list")
      | some 0 => .ok (checkProtocol e.newProtocolVersion)
      | some (position + 1) => .ok (.waitForPredecessor (sortedNodes.getD position ""))
    else .ok (checkProtocol e.newProtocolVersion)
  | _ => .ok .notAnUpgradeEvent

/-- A node in the table of those that were heard of. -/
structure ClusterNodeRecord where
  nodeId : String
  lastSeenUnixSecs : Nat
  deriving DecidableEq, Repr

/-- `is_stale`. Without a clock nothing is. -/
def ClusterNodeRecord.isStale (node : ClusterNodeRecord) (now : Option Nat) (maxAgeSecs : Nat) :
    Bool :=
  now.elim false (fun now => decide (now - node.lastSeenUnixSecs > maxAgeSecs))

structure UpgradeSettings where
  clusterNodeStaleAfterSecs : Nat
  upgradeSigningPublicKey : Option String

/-- The libraries, and the settings of the nodes. -/
structure UpgradeNet where
  lib : ReleaseLibrary
  digest : List UInt8 → List UInt8
  settings : String → UpgradeSettings

/-- The table of nodes, and the clock in seconds and in milliseconds. -/
structure ReceiveEnv where
  listed : Except PlatformError (List ClusterNodeRecord)
  now : Option Nat
  nowMs : UInt64

/-- The names of those that were heard of in time. -/
def ReceiveEnv.freshNodes (env : ReceiveEnv) (settings : UpgradeSettings) : List String :=
  ((env.listed.toOption.getD []).filter
    (fun node => !node.isStale env.now settings.clusterNodeStaleAfterSecs)).map
    ClusterNodeRecord.nodeId

/-- The nodes of `handle_node_upgrade`, with its own. -/
def ReceiveEnv.clusterNodes (env : ReceiveEnv) (settings : UpgradeSettings) (nodeId : String) :
    List String :=
  if nodeId ∈ env.freshNodes settings then env.freshNodes settings
  else env.freshNodes settings ++ [nodeId]

/-- After `exited` the binary behind `current` is started. -/
inductive UpgradePhase where
  | idle
  | downloading (e : NodeUpgrade)
  | draining (e : NodeUpgrade)
  | stopping (e : NodeUpgrade)
  | announcing (e : NodeUpgrade)
  | exited
  deriving DecidableEq, Repr

/-- The handler has begun, and has not announced that it is done. -/
def UpgradePhase.running : UpgradePhase → Bool
  | .idle | .exited => false
  | .downloading _ | .draining _ | .stopping _ | .announcing _ => true

/-- Its handler, its links, whether it rejects requests, and the events to be delivered. -/
structure UpgradeNode where
  phase : UpgradePhase
  links : ReleaseLinks
  rejecting : Bool
  inbox : List PlatformEvent
  deriving DecidableEq, Repr

/-- The path of the binary of a release. -/
def NodeUpgrade.binaryPath (e : NodeUpgrade) : String :=
  finalBinaryPath "/opt/wasm-cloud" "node" e.binarySha256

namespace UpgradeNode

section Handlers

variable (net : UpgradeNet) (id : String)

/-- `handle_node_upgrade`, up to the download. -/
def handleNodeUpgrade (env : ReceiveEnv) (n : UpgradeNode) (e : NodeUpgrade) : UpgradeNode :=
  match verifyUpgradeSignature net.lib e (net.settings id).upgradeSigningPublicKey env.nowMs with
  | .error _ => n
  | .ok () =>
    match handleUpgradeEvent (.nodeUpgrade e) id (env.clusterNodes (net.settings id) id) with
    | .ok .proceedWithUpgrade => { n with phase := .downloading e }
    -- Written to the log, `WaitForPredecessor` among them.
    | _ => n

def handleEvent (env : ReceiveEnv) (n : UpgradeNode) : PlatformEvent → UpgradeNode
  | .nodeUpgrade e => n.handleNodeUpgrade net id env e
  -- `handle_node_upgrade_complete` writes to the log.
  | .nodeUpgradeComplete .. => n
  | .nodeDraining nodeId _ => if nodeId = id then { n with rejecting := true } else n

/-- The download of `handle_node_upgrade`. An error ends the handler. -/
def download (install : InstallEnv) (n : UpgradeNode) (e : NodeUpgrade) : UpgradeNode :=
  match (install.downloadAndVerify net.digest e.binarySha256 "/opt/wasm-cloud" "node").exec
      n.links with
  | (.ok _, links) => { n with phase := .draining e, links := links }
  | (.error _, links) => { n with phase := .idle, links := links }

/-- The event, if the bus takes it. That it does not is written to the log. -/
def announced (published : Except String Unit) (event : PlatformEvent) : List PlatformEvent :=
  if published.toBool then [event] else []

/-- The rest of `handle_node_upgrade`: download, drain, shutdown of the instances, done and exit.
    With the events that are published. -/
def advance (install : InstallEnv) (published : Except String Unit) (n : UpgradeNode) :
    UpgradeNode × List PlatformEvent :=
  match n.phase with
  | .idle => (n, [])
  | .downloading e => (n.download net install e, [])
  | .draining e =>
    ({ n with phase := .stopping e }, announced published (.nodeDraining id 30))
  | .stopping e => ({ n with phase := .announcing e }, [])
  | .announcing e =>
    ({ n with phase := .exited }, announced published
      (.nodeUpgradeComplete id e.newBinaryVersion e.newProtocolVersion))
  | .exited => (n, [])

end Handlers

/-- The node has exited to be started with the new binary. -/
def Upgraded (n : UpgradeNode) (e : NodeUpgrade) : Prop :=
  n.phase = .exited ∧ n.links.current = some e.binaryPath

/-- Nothing is left to do. -/
def Quiet (n : UpgradeNode) : Prop := n.inbox = [] ∧ n.phase.running = false

instance (n : UpgradeNode) (e : NodeUpgrade) : Decidable (n.Upgraded e) :=
  inferInstanceAs (Decidable (_ ∧ _))

instance (n : UpgradeNode) : Decidable n.Quiet := inferInstanceAs (Decidable (_ ∧ _))

end UpgradeNode

structure UpgradeCluster where
  nodes : String → UpgradeNode

/-- What happens: an event is delivered to a node, or its handler of an upgrade goes on. -/
inductive RollingAction where
  | deliver (id : String) (index : Nat) (env : ReceiveEnv)
  | advance (id : String) (install : InstallEnv) (published : Except String Unit)

namespace UpgradeCluster

def set (s : UpgradeCluster) (id : String) (n : UpgradeNode) : UpgradeCluster :=
  ⟨Function.update s.nodes id n⟩

def publish (s : UpgradeCluster) (events : List PlatformEvent) : UpgradeCluster :=
  ⟨fun id => { s.nodes id with inbox := (s.nodes id).inbox ++ events }⟩

theorem nodes_set (s : UpgradeCluster) (id : String) (n : UpgradeNode) (x : String) :
    (s.set id n).nodes x = if x = id then n else s.nodes x :=
  Function.update_apply s.nodes id n x

theorem nodes_publish (s : UpgradeCluster) (events : List PlatformEvent) (x : String) :
    (s.publish events).nodes x = { s.nodes x with inbox := (s.nodes x).inbox ++ events } := rfl

/-- At most one node is upgrading. -/
def OneAtATime (s : UpgradeCluster) (members : List String) : Prop :=
  ∀ id ∈ members, ∀ other ∈ members, (s.nodes id).phase.running = true →
    (s.nodes other).phase.running = true → id = other

/-- The event has yet to be delivered to all, and nobody upgrades. -/
def Awaits (s : UpgradeCluster) (members : List String) (e : NodeUpgrade) : Prop :=
  ∀ id ∈ members, (s.nodes id).phase = .idle ∧ (s.nodes id).inbox = [.nodeUpgrade e]

end UpgradeCluster

/-- The upgrade events have a consumer of their own, which waits for the handler. -/
def Waits (n : UpgradeNode) : PlatformEvent → Bool
  | .nodeUpgrade _ => n.phase.running
  | .nodeUpgradeComplete .. | .nodeDraining .. => false

def rollingStep (net : UpgradeNet) (s : UpgradeCluster) : RollingAction → UpgradeCluster
  | .deliver id index env =>
    match (s.nodes id).inbox[index]? with
    | none => s
    | some event =>
      if Waits (s.nodes id) event then s
      else
        s.set id (({ s.nodes id with
          inbox := (s.nodes id).inbox.eraseIdx index }).handleEvent net id env event)
  | .advance id install published =>
    let next := (s.nodes id).advance net id install published
    (s.set id next.1).publish next.2

/-- Members agree on the cluster, events are signed, and downloads succeed. -/
def RollingAction.Clean (net : UpgradeNet) (members : List String) (s : UpgradeCluster) :
    RollingAction → Prop
  | .deliver id index env =>
    id ∈ members → env.freshNodes (net.settings id) = members ∧
      ∀ e, (s.nodes id).inbox[index]? = some (.nodeUpgrade e) →
        verifyUpgradeSignature net.lib e (net.settings id).upgradeSigningPublicKey env.nowMs =
          .ok ()
  | .advance id install _ =>
    id ∈ members → ∀ e, (s.nodes id).phase = .downloading e →
      ∃ path, ((install.downloadAndVerify net.digest e.binarySha256 "/opt/wasm-cloud"
        "node").exec (s.nodes id).links).1 = .ok path

section Step

variable {net : UpgradeNet} {e : NodeUpgrade}

theorem inbox_download (n : UpgradeNode) (install : InstallEnv) (e : NodeUpgrade) :
    (n.download net install e).inbox = n.inbox := by
  unfold UpgradeNode.download
  split <;> rfl

theorem inbox_advance (id : String) (n : UpgradeNode) (install : InstallEnv)
    (published : Except String Unit) : (n.advance net id install published).1.inbox = n.inbox := by
  grind [UpgradeNode.advance, inbox_download]

theorem not_upgrade_advance (id : String) (n : UpgradeNode) (install : InstallEnv)
    (published : Except String Unit) (e' : NodeUpgrade) :
    PlatformEvent.nodeUpgrade e' ∉ (n.advance net id install published).2 := by
  have hannounced {event : PlatformEvent} (hne : PlatformEvent.nodeUpgrade e' ≠ event) :
      PlatformEvent.nodeUpgrade e' ∉ UpgradeNode.announced published event := by
    grind [UpgradeNode.announced]
  grind [UpgradeNode.advance]

/-- A node handles an event, its handler goes on, or another node does something. -/
inductive NodeStep (net : UpgradeNet) (x : String) (a : RollingAction) (n : UpgradeNode) :
    UpgradeNode → Prop where
  | handled (index : Nat) (env : ReceiveEnv) (event : PlatformEvent)
      (ha : a = .deliver x index env) (hevent : n.inbox[index]? = some event) :
      NodeStep net x a n
        (({ n with inbox := n.inbox.eraseIdx index }).handleEvent net x env event)
  | advanced (install : InstallEnv) (published : Except String Unit) (events : List PlatformEvent)
      (ha : a = .advance x install published)
      (hevents : ∀ e, PlatformEvent.nodeUpgrade e ∉ events) :
      NodeStep net x a n { (n.advance net x install published).1 with inbox := n.inbox ++ events }
  | unaffected (events : List PlatformEvent) (hevents : ∀ e, PlatformEvent.nodeUpgrade e ∉ events) :
      NodeStep net x a n { n with inbox := n.inbox ++ events }

theorem nodeStep_same (x : String) (a : RollingAction) (n : UpgradeNode) :
    NodeStep net x a n n := by
  have h := @NodeStep.unaffected net x a n [] (fun e => not_mem_nil)
  rw [append_nil] at h
  exact h

theorem nodeStep_step (s : UpgradeCluster) (a : RollingAction) (x : String) :
    NodeStep net x a (s.nodes x) ((rollingStep net s a).nodes x) := by
  cases a with
  | deliver id index env =>
    rw [rollingStep]
    split
    · exact nodeStep_same x _ _
    · rename_i event hevent
      split_ifs with hwaits
      · exact nodeStep_same x _ _
      · rw [UpgradeCluster.nodes_set]
        split_ifs with hx
        · subst hx
          exact .handled index env event rfl hevent
        · exact nodeStep_same x _ _
  | advance id install published =>
    have hevents := @not_upgrade_advance net id (s.nodes id) install published
    rw [rollingStep, UpgradeCluster.nodes_publish, UpgradeCluster.nodes_set]
    split_ifs with hx
    · subst hx
      rw [inbox_advance]
      exact .advanced install published _ rfl hevents
    · exact .unaffected _ hevents

/-- No other upgrade is asked of a node, and it downloads no other. -/
def UpgradeNode.OnlyAsked (n : UpgradeNode) (e : NodeUpgrade) : Prop :=
  (∀ e', PlatformEvent.nodeUpgrade e' ∈ n.inbox → e' = e) ∧
    ∀ e', n.phase = .downloading e' → e' = e

variable {n : UpgradeNode}

theorem onlyAsked_deliver (h : n.OnlyAsked e) {id : String} {index : Nat} {event : PlatformEvent}
    (hevent : n.inbox[index]? = some event) (env : ReceiveEnv) :
    (({ n with inbox := n.inbox.eraseIdx index }).handleEvent net id env event).OnlyAsked e := by
  have hrest : ∀ e', PlatformEvent.nodeUpgrade e' ∈ n.inbox.eraseIdx index → e' = e :=
    fun e' hmem => h.1 e' (mem_of_mem_eraseIdx hmem)
  cases event with
  | nodeUpgrade e' =>
    have he : e' = e := h.1 e' (mem_of_getElem? hevent)
    simp only [UpgradeNode.handleEvent, UpgradeNode.handleNodeUpgrade]
    split
    · exact ⟨hrest, h.2⟩
    · split
      · refine ⟨hrest, fun e'' hphase => ?_⟩
        cases hphase
        exact he
      · exact ⟨hrest, h.2⟩
  | nodeUpgradeComplete nodeId version protocol => exact ⟨hrest, h.2⟩
  | nodeDraining nodeId timeout =>
    rw [UpgradeNode.handleEvent]
    split_ifs
    · exact ⟨hrest, h.2⟩
    · exact ⟨hrest, h.2⟩

theorem not_downloading_advance (id : String) (n : UpgradeNode) (install : InstallEnv)
    (published : Except String Unit) (e' : NodeUpgrade) :
    (n.advance net id install published).1.phase ≠ .downloading e' := by
  grind [UpgradeNode.download, UpgradeNode.advance]

theorem onlyAsked_step {x : String} {a : RollingAction} {n' : UpgradeNode}
    (hstep : NodeStep net x a n n') (h : n.OnlyAsked e) : n'.OnlyAsked e := by
  have hinbox {events : List PlatformEvent}
      (hevents : ∀ e, PlatformEvent.nodeUpgrade e ∉ events) (e' : NodeUpgrade)
      (hmem : PlatformEvent.nodeUpgrade e' ∈ n.inbox ++ events) : e' = e :=
    h.1 e' ((mem_append.mp hmem).resolve_right (hevents e'))
  cases hstep with
  | handled index env event ha hevent => exact onlyAsked_deliver h hevent env
  | advanced install published events ha hevents =>
    refine ⟨hinbox hevents, fun e' hphase => ?_⟩
    exact absurd hphase (not_downloading_advance x n install published e')
  | unaffected events hevents => exact ⟨hinbox hevents, h.2⟩

end Step

section Rolling

variable {net : UpgradeNet} {e : NodeUpgrade} {members rest : List String} {first : String}
  {s : UpgradeCluster} {n : UpgradeNode} {id : String}

/-- The event asks all members for a version this one may give way to, `first` before `rest`. -/
structure Rolls (e : NodeUpgrade) (members : List String) (first : String)
    (rest : List String) : Prop where
  target : e.targetNode = "*"
  proceeds : checkProtocol e.newProtocolVersion = .proceedWithUpgrade
  sorted : members.insertionSort (· ≤ ·) = first :: rest

theorem handleUpgradeEvent_rolling (hrolls : Rolls e members first rest) (hid : id ∈ members) :
    ∃ predecessor, handleUpgradeEvent (.nodeUpgrade e) id members =
      .ok (if id = first then .proceedWithUpgrade else .waitForPredecessor predecessor) := by
  have hmem : id ∈ first :: rest := hrolls.sorted ▸ (mem_insertionSort _).mpr hid
  simp only [handleUpgradeEvent, hrolls.target, ne_eq, not_true_eq_false, false_and, if_false,
    if_true, hrolls.sorted, List.idxOf?_cons]
  by_cases hfirst : id = first
  · refine ⟨"", ?_⟩
    simp [hfirst, hrolls.proceeds]
  · have hrest : id ∈ rest := (mem_cons.mp hmem).resolve_left hfirst
    have hother : (first == id) = false := beq_eq_false_iff_ne.mpr (Ne.symm hfirst)
    obtain ⟨position, hposition⟩ := Option.isSome_iff_exists.mp (isSome_idxOf?.mpr hrest)
    refine ⟨(first :: rest).getD position "", ?_⟩
    simp [hother, hposition, hfirst]

/-- The handler has begun. Once it has downloaded, the link is to the binary. -/
def UpgradeNode.Started (n : UpgradeNode) (e : NodeUpgrade) : Prop :=
  match n.phase with
  | .idle => False
  | .downloading e' => e' = e
  | .draining e' | .stopping e' | .announcing e' =>
    e' = e ∧ n.links.current = some e.binaryPath
  | .exited => n.links.current = some e.binaryPath

/-- Only the first member does anything; it has begun or will. -/
structure MemberInv (e : NodeUpgrade) (first id : String) (n : UpgradeNode) : Prop where
  asked : n.OnlyAsked e
  others : id ≠ first → n.phase = .idle
  begins : id = first → n.Started e ∨ (n.phase = .idle ∧ .nodeUpgrade e ∈ n.inbox)

variable {env : ReceiveEnv}

theorem freshNodes_clusterNodes {settings : UpgradeSettings}
    (hfresh : env.freshNodes settings = members) (hid : id ∈ members) :
    env.clusterNodes settings id = members := by
  rw [ReceiveEnv.clusterNodes, hfresh, if_pos hid]

theorem handleNodeUpgrade_rolling (hrolls : Rolls e members first rest) (hid : id ∈ members)
    (hfresh : env.freshNodes (net.settings id) = members)
    (hsigned : verifyUpgradeSignature net.lib e (net.settings id).upgradeSigningPublicKey
      env.nowMs = .ok ()) (n : UpgradeNode) :
    n.handleNodeUpgrade net id env e =
      if id = first then { n with phase := .downloading e } else n := by
  grind [UpgradeNode.handleNodeUpgrade, freshNodes_clusterNodes, handleUpgradeEvent_rolling]

theorem mem_eraseIdx_iff {α : Type} {l : List α} {i : Nat} {x y : α} (hx : l[i]? = some x)
    (hne : y ≠ x) : y ∈ l.eraseIdx i ↔ y ∈ l := by
  grind [mem_iff_getElem?, mem_eraseIdx_iff_getElem?]

theorem memberInv_handled (hrolls : Rolls e members first rest) (hid : id ∈ members)
    (hfresh : env.freshNodes (net.settings id) = members) {index : Nat} {event : PlatformEvent}
    (hevent : n.inbox[index]? = some event)
    (hsigned : ∀ e', event = .nodeUpgrade e' → verifyUpgradeSignature net.lib e'
      (net.settings id).upgradeSigningPublicKey env.nowMs = .ok ()) (h : MemberInv e first id n) :
    MemberInv e first id
      (({ n with inbox := n.inbox.eraseIdx index }).handleEvent net id env event) := by
  have hasked := @onlyAsked_deliver net e n h.asked id index event hevent env
  have hkept (hother : PlatformEvent.nodeUpgrade e ≠ event) (hfirst : id = first) :
      n.Started e ∨ (n.phase = .idle ∧ .nodeUpgrade e ∈ n.inbox.eraseIdx index) :=
    (h.begins hfirst).imp_right (And.imp_right (mem_eraseIdx_iff hevent hother).mpr)
  cases event with
  | nodeUpgrade e' =>
    have he : e' = e := h.asked.1 e' (mem_of_getElem? hevent)
    subst he
    refine ⟨hasked, ?_, ?_⟩ <;> rw [UpgradeNode.handleEvent,
      handleNodeUpgrade_rolling hrolls hid hfresh (hsigned e' rfl)]
    · intro hne
      rw [if_neg hne]
      exact h.others hne
    · intro hfirst
      rw [if_pos hfirst]
      exact .inl rfl
  | nodeUpgradeComplete nodeId version protocol =>
    exact ⟨hasked, h.others, hkept nofun⟩
  | nodeDraining nodeId timeout =>
    have hbegins := hkept nofun
    refine ⟨hasked, ?_, ?_⟩ <;> rw [UpgradeNode.handleEvent] <;> split_ifs
    · exact h.others
    · exact h.others
    · exact hbegins
    · exact hbegins

theorem advance_idle (hphase : n.phase = .idle) (install : InstallEnv)
    (published : Except String Unit) : n.advance net id install published = (n, []) := by
  rw [UpgradeNode.advance, hphase]

variable {install : InstallEnv}

theorem started_download {path : String}
    (hdownload : ((install.downloadAndVerify net.digest e.binarySha256 "/opt/wasm-cloud"
      "node").exec n.links).1 = .ok path) : (n.download net install e).Started e := by
  unfold UpgradeNode.download
  split
  · rename_i hexec
    exact ⟨rfl, InstallEnv.downloadAndVerify_ok hexec⟩
  · rename_i hexec
    rw [hexec] at hdownload
    cases hdownload

theorem started_advance (published : Except String Unit)
    (hdownload : ∀ e', n.phase = .downloading e' → ∃ path, ((install.downloadAndVerify net.digest
      e'.binarySha256 "/opt/wasm-cloud" "node").exec n.links).1 = .ok path) (h : n.Started e) :
    (n.advance net id install published).1.Started e := by
  unfold UpgradeNode.Started at h
  unfold UpgradeNode.advance
  cases hphase : n.phase with
  | idle =>
    rw [hphase] at h
    exact h.elim
  | downloading e' =>
    rw [hphase] at h
    have he : e' = e := h
    rcases hdownload e' hphase with ⟨path, hpath⟩
    rw [he] at hpath
    rw [he]
    exact started_download hpath
  | draining e' | stopping e' =>
    rw [hphase] at h
    exact h
  | announcing e' =>
    rw [hphase] at h
    exact h.2
  | exited =>
    simp only [UpgradeNode.Started, hphase]
    rw [hphase] at h
    exact h

theorem memberInv_step (hrolls : Rolls e members first rest) (s : UpgradeCluster)
    (a : RollingAction) (hclean : a.Clean net members s)
    (h : ∀ id ∈ members, MemberInv e first id (s.nodes id)) :
    ∀ id ∈ members, MemberInv e first id ((rollingStep net s a).nodes id) := by
  intro id hid
  have hn := h id hid
  have hstep := @nodeStep_step net s a id
  have hasked := onlyAsked_step hstep hn.asked
  generalize (rollingStep net s a).nodes id = n' at hstep hasked ⊢
  cases hstep with
  | handled index env event ha hevent =>
    subst ha
    rcases hclean hid with ⟨hfresh, hsigned⟩
    exact memberInv_handled hrolls hid hfresh hevent (fun e' he => hsigned e' (he ▸ hevent)) hn
  | advanced install published events ha hevents =>
    subst ha
    refine ⟨hasked, fun hne => ?_, fun hfirst => ?_⟩
    · rw [advance_idle (hn.others hne)]
      exact hn.others hne
    · rcases hn.begins hfirst with hstarted | ⟨hidle, hpending⟩
      · exact .inl (started_advance published (hclean hid) hstarted)
      · rw [advance_idle hidle]
        exact .inr ⟨hidle, mem_append_left events hpending⟩
  | unaffected events hevents =>
    refine ⟨hasked, hn.others, fun hfirst => ?_⟩
    exact (hn.begins hfirst).imp_right (And.imp_right (mem_append_left events))

theorem memberInv_awaits (hs : s.Awaits members e) :
    ∀ id ∈ members, MemberInv e first id (s.nodes id) := by
  intro id hid
  rcases hs id hid with ⟨hphase, hinbox⟩
  refine ⟨⟨fun e' hmem => ?_, fun e' hdownloading => ?_⟩, fun _ => hphase,
    fun _ => .inr ⟨hphase, ?_⟩⟩
  · grind
  · rw [hphase] at hdownloading
    cases hdownloading
  · rw [hinbox]
    exact mem_singleton.mpr rfl

/-- What a run preserves. -/
theorem memberInv_run (hrolls : Rolls e members first rest) (hs : s.Awaits members e)
    {actions : List RollingAction}
    (hclean : Along (rollingStep net) (RollingAction.Clean net members) s actions) :
    ∀ id ∈ members, MemberInv e first id ((runAll (rollingStep net) s actions).nodes id) :=
  invariant_along (memberInv_step hrolls) hclean (memberInv_awaits hs)

theorem oneAtATime_of_memberInv (h : ∀ id ∈ members, MemberInv e first id (s.nodes id)) :
    s.OneAtATime members := by
  have hfirst : ∀ id ∈ members, (s.nodes id).phase.running = true → id = first := by
    intro id hid hrunning
    by_contra hne
    rw [(h id hid).others hne] at hrunning
    cases hrunning
  intro id hid other hother hrunning hrunning'
  rw [hfirst id hid hrunning, hfirst other hother hrunning']

theorem oneAtATime_run (hrolls : Rolls e members first rest) (hs : s.Awaits members e)
    {before after : List RollingAction}
    (hclean : Along (rollingStep net) (RollingAction.Clean net members) s (before ++ after)) :
    (runAll (rollingStep net) s before).OneAtATime members :=
  oneAtATime_of_memberInv (memberInv_run hrolls hs (along_of_append hclean))

theorem upgraded_iff (h : MemberInv e first id n) (hquiet : n.Quiet) :
    n.Upgraded e ↔ id = first := by
  constructor
  · intro hupgraded
    by_contra hne
    have hphase := hupgraded.1
    rw [h.others hne] at hphase
    cases hphase
  · intro hid
    rcases h.begins hid with hstarted | ⟨-, hpending⟩
    · unfold UpgradeNode.Started at hstarted
      have hrunning := hquiet.2
      cases hphase : n.phase with
      | idle =>
        rw [hphase] at hstarted
        exact hstarted.elim
      | exited =>
        rw [hphase] at hstarted
        exact ⟨hphase, hstarted⟩
      | downloading e' | draining e' | stopping e' | announcing e' =>
        rw [hphase] at hrunning
        cases hrunning
    · rw [hquiet.1] at hpending
      cases hpending

end Rolling

/-- A rolling upgrade that has come to its end went one node at a time and has reached all
    of them exactly if there is one. -/
theorem rolling_upgrade_iff (net : UpgradeNet) (e : NodeUpgrade) (htarget : e.targetNode = "*")
    (hcompatible : minCompatibleProtocol ≤ e.newProtocolVersion ∧
      e.newProtocolVersion ≤ protocolVersion + 1)
    (members : List String) (hmembers : 1 ≤ members.length) (hdistinct : members.Nodup)
    (s : UpgradeCluster) (hs : s.Awaits members e) (actions : List RollingAction)
    (hclean : Along (rollingStep net) (RollingAction.Clean net members) s actions)
    (hquiet : ∀ id ∈ members, ((runAll (rollingStep net) s actions).nodes id).Quiet) :
    ((∀ before after, actions = before ++ after →
          (runAll (rollingStep net) s before).OneAtATime members) ∧
        ∀ id ∈ members, ((runAll (rollingStep net) s actions).nodes id).Upgraded e) ↔
      members.length = 1 := by
  have hproceed : checkProtocol e.newProtocolVersion = .proceedWithUpgrade := by
    rw [checkProtocol, if_neg (UInt32.not_lt.mpr hcompatible.1),
      if_neg (UInt32.not_lt.mpr hcompatible.2)]
  obtain ⟨first, rest, hsorted⟩ : ∃ first rest, members.insertionSort (· ≤ ·) = first :: rest := by
    refine exists_cons_of_length_pos ?_
    rw [length_insertionSort]
    exact hmembers
  have hinv := memberInv_run ⟨htarget, hproceed, hsorted⟩ hs hclean
  have hsafe : ∀ before after, actions = before ++ after →
      (runAll (rollingStep net) s before).OneAtATime members := by
    intro before after hactions
    exact oneAtATime_run ⟨htarget, hproceed, hsorted⟩ hs (hactions ▸ hclean)
  have hall : (∀ id ∈ members, ((runAll (rollingStep net) s actions).nodes id).Upgraded e) ↔
      ∀ id ∈ members, id = first :=
    forall₂_congr fun id hid => upgraded_iff (hinv id hid) (hquiet id hid)
  rw [and_iff_right hsafe, hall]
  constructor
  · intro hfirst
    have hcopies : members = List.replicate members.length first :=
      eq_replicate_of_mem hfirst
    have hle := nodup_replicate.mp (hcopies ▸ hdistinct)
    omega
  · intro hone id hid
    have hmem : first ∈ members :=
      (mem_insertionSort _).mp (hsorted ▸ mem_cons_self)
    rcases length_eq_one_iff.mp hone with ⟨only, honly⟩
    rw [honly, mem_singleton] at hid hmem
    rw [hid, hmem]

/-- Bytes of zeros in hex. -/
def zeros (digits : Nat) : String := String.ofList (List.replicate digits '0')

def trustingNet : UpgradeNet where
  lib :=
    { decodeHex := fun text => (Bytes.hexDecode text).elim (.error "Invalid character") .ok
      keyFromBytes := fun _ => .ok ()
      verify := fun _ _ _ => .ok () }
  digest := shortSha256
  settings _ := ⟨30, some (zeros 64)⟩

def rollingUpgrade : NodeUpgrade :=
  ⟨"*", "https://registry.example/node", zeroHash, some (zeros 128), none, 2, "0.5.0"⟩

def beforeUpgrade : UpgradeCluster :=
  ⟨fun _ => ⟨.idle, ⟨some "/opt/wasm-cloud/node-e3b0c44298fc", none⟩, false,
    [.nodeUpgrade rollingUpgrade]⟩⟩

def deliverFirst (members : List String) (id : String) : RollingAction :=
  .deliver id 0 ⟨.ok (members.map (fun member => ⟨member, 100⟩)), some 100, 0⟩

def upgradeGoesOn (id : String) : RollingAction :=
  .advance id ⟨.ok ⟨true, "200 OK", none, [.ok [0]]⟩, fun _ => false, false, true⟩ (.ok ())

def upgradeAlone (members : List String) (id : String) : List RollingAction :=
  [deliverFirst members id, upgradeGoesOn id, upgradeGoesOn id, upgradeGoesOn id, upgradeGoesOn id,
    deliverFirst members id, deliverFirst members id]

def Undisturbed (members : List String) (a : RollingAction) : Prop :=
  ∃ id, a = deliverFirst members id ∨ a = upgradeGoesOn id

variable {members : List String} {s : UpgradeCluster}

theorem clean_of_undisturbed {a : RollingAction} (ha : Undisturbed members a)
    (hasked : ∀ id, (s.nodes id).OnlyAsked rollingUpgrade) : a.Clean trustingNet members s := by
  rcases ha with ⟨id, rfl | rfl⟩
  · intro _
    refine ⟨?_, fun e he => ?_⟩
    · simp [ReceiveEnv.freshNodes, Except.toOption, ClusterNodeRecord.isStale, filter_map,
        Function.comp_def]
    · rw [(hasked id).1 e (mem_of_getElem? he)]
      rfl
  · intro _ e he
    rw [(hasked id).2 e he]
    rcases (s.nodes id).links with ⟨current | current, previous⟩
    · exact ⟨_, rfl⟩
    · exact ⟨_, rfl⟩

theorem along_of_undisturbed {actions : List RollingAction}
    (h : ∀ a ∈ actions, Undisturbed members a)
    (hasked : ∀ id, (s.nodes id).OnlyAsked rollingUpgrade) :
    Along (rollingStep trustingNet) (RollingAction.Clean trustingNet members) s actions := by
  induction actions generalizing s with
  | nil => exact trivial
  | cons a actions ih =>
    refine ⟨clean_of_undisturbed (h a (.head _)) hasked, ih ?_ ?_⟩
    · exact fun b hb => h b (mem_cons_of_mem a hb)
    · exact fun id => onlyAsked_step (nodeStep_step s a id) (hasked id)

theorem beforeUpgrade_asked (id : String) : (beforeUpgrade.nodes id).OnlyAsked rollingUpgrade := by
  refine ⟨fun e he => ?_, fun e he => by cases he⟩
  cases mem_singleton.mp he
  rfl

theorem undisturbed_upgradeAlone (members : List String) (id : String) :
    ∀ a ∈ upgradeAlone members id, Undisturbed members a := by
  intro a ha
  simp only [upgradeAlone, mem_cons, not_mem_nil, or_false] at ha
  exact ⟨id, by tauto⟩

/-- A cluster of one node. -/
theorem single_node_upgrades : (∀ before after, upgradeAlone ["a"] "a" = before ++ after →
        (runAll (rollingStep trustingNet) beforeUpgrade before).OneAtATime ["a"]) ∧
      ∀ id ∈ ["a"], ((runAll (rollingStep trustingNet) beforeUpgrade
        (upgradeAlone ["a"] "a")).nodes id).Upgraded rollingUpgrade :=
  (rolling_upgrade_iff trustingNet rollingUpgrade rfl (by decide) ["a"] (by decide) (by decide)
    beforeUpgrade (fun id hid => ⟨rfl, rfl⟩) (upgradeAlone ["a"] "a")
    (along_of_undisturbed (undisturbed_upgradeAlone ["a"] "a") beforeUpgrade_asked)
    (by decide +kernel)).mpr rfl

/-- The second node finds that it has a predecessor and stays as it is. -/
theorem second_node_waits :
    let members := ["a", "b"]
    let actions := upgradeAlone members "a" ++ List.replicate 3 (deliverFirst members "b")
    let run := runAll (rollingStep trustingNet) beforeUpgrade actions
    beforeUpgrade.Awaits members rollingUpgrade ∧
      Along (rollingStep trustingNet) (RollingAction.Clean trustingNet members) beforeUpgrade
        actions ∧
      (∀ id ∈ members, (run.nodes id).Quiet) ∧ (run.nodes "a").Upgraded rollingUpgrade ∧
      ¬ (run.nodes "b").Upgraded rollingUpgrade := by
  intro members actions run
  refine ⟨fun id hid => ⟨rfl, rfl⟩, along_of_undisturbed ?_ beforeUpgrade_asked, by decide +kernel⟩
  intro a ha
  rcases mem_append.mp ha with ha | ha
  · exact undisturbed_upgradeAlone members "a" a ha
  · exact ⟨"b", .inl (eq_of_mem_replicate ha)⟩

end WasmCloud
