import WasmCloud.Storage.Lifecycle

/-!
# Redelivered Deployments

Deployments and removals reach a node through a durable consumer, in the order of
publication. An event whose handler fails comes again later, up to three times in all, and
by then later events may have been handled.

The handlers look at the store and not at what was handled before, so an old event that
comes again undoes what a later one did. If no event is delivered after a later one was
handled, the last event decides how things end. It must not be a deployment that does
nothing because its artifact is neither in the cache nor to be fetched by this node, nor
one with the configuration of another identifier.
-/

namespace WasmCloud

/-- A deployment names the nodes that may fetch the artifact. -/
inductive LifecycleEvent where
  | deployApp (config : AppConfig) (expectedHash : Option String) (audience : List String)
  | removeApp
  deriving DecidableEq

/-- The supervisor's limits, the download, the compiler, the time, whether the supervisor forgets
    the application, and how many transactions get through. -/
structure DeliveryEnv where
  withinLimits : Bool
  fetched : Option (List UInt8)
  compile : List UInt8 → Option (List UInt8)
  now : Nat
  forgotten : Bool
  committed : Nat

/-- The artifact of a deployment is not in the cache and not for this node to fetch. -/
def deploySkipped (nodeId : String) (s : Store) (d : DeployRequest) : Bool :=
  d.withinLimits && (validateLocalPlacement nodeId s d.config).toOption.isSome &&
    match d.expectedHash with
    | none => false
    | some sha256 => (s.rawWasm.get? sha256).isNone && !d.targeted

def deployRequest (nodeId : String) (appId : AppId) (config : AppConfig)
    (expectedHash : Option String) (audience : List String) (env : DeliveryEnv) :
    DeployRequest where
  appId := appId
  config := config
  expectedHash := expectedHash
  withinLimits := env.withinLimits
  targeted := audience.contains nodeId
  fetched := env.fetched
  compile := env.compile

/-- A node handles an event, and reports whether it succeeded. -/
def handleLifecycle (nodeId : String) (appId : AppId) (s : Store) (event : LifecycleEvent)
    (env : DeliveryEnv) : Store × Bool :=
  match event with
  | .deployApp config expectedHash audience =>
    let d := deployRequest nodeId appId config expectedHash audience env
    let p := deployPlan nodeId s d
    -- A deployment that is not for this node is reported as done.
    (commitAll (p.writes.take env.committed) s,
      p.completed env.committed || deploySkipped nodeId s d)
  | .removeApp =>
    let p := removePlan s appId env.now env.forgotten
    (commitAll (p.writes.take env.committed) s, p.completed env.committed)

/-- The store, and the deliveries: the position of an event, and whether it was handled. -/
structure Consumer where
  store : Store
  log : List (Nat × Bool)

/-- Not handled yet, delivered less than three times, and all before it delivered. -/
def Consumer.deliverable (c : Consumer) (i : Nat) : Bool :=
  decide ((i, true) ∉ c.log) && (List.range i).all (fun j => (c.log.map Prod.fst).contains j) &&
    decide (c.log.countP (fun d => d.1 = i) < 3)

/-- An event is delivered, with the answers the handler gets. -/
def deliveryStep (nodeId : String) (appId : AppId) (events : List LifecycleEvent) (c : Consumer)
    (delivery : Nat × DeliveryEnv) : Consumer :=
  match events[delivery.1]? with
  | none => c
  | some event =>
    if c.deliverable delivery.1 then
      let handled := handleLifecycle nodeId appId c.store event delivery.2
      ⟨handled.1, (delivery.1, handled.2) :: c.log⟩
    else c

/-- No later event was handled before, and a deployment that is the last event has its own
    configuration and an artifact it can get. -/
def InOrder (nodeId : String) (appId : AppId) (events : List LifecycleEvent) (c : Consumer)
    (delivery : Nat × DeliveryEnv) : Prop :=
  (∀ d ∈ c.log, d.2 = true → d.1 ≤ delivery.1) ∧
    (delivery.1 + 1 = events.length → ∀ event ∈ events[delivery.1]?,
      match event with
      | .removeApp => True
      | .deployApp config expectedHash audience => config.id = appId ∧
          (audience.contains nodeId = true ∨
            ∃ sha256 ∈ expectedHash, (c.store.rawWasm.get? sha256).isSome = true))

/-- What an event asks for. -/
def Settled (appId : AppId) (s : Store) : LifecycleEvent → Prop
  | .deployApp config expectedHash _ => appId ∈ s.listDeployedApps ∧
      (s.configs.get? appId.text).map Prod.snd = some config ∧
      (s.artifactHashes.get? appId.text).map Prod.snd = expectedHash
  | .removeApp => appId ∉ s.listDeployedApps

variable {nodeId : String} {s : Store} {d : DeployRequest} {appId : AppId} {env : DeliveryEnv}

theorem deployPlan_completes (h : (deployPlan nodeId s d).completes = true) :
    ∃ cached sha256 artifact, d.expectedHash = some sha256 ∧
      (deployPlan nodeId s d).writes = cached ++ deployWrites d sha256 artifact := by
  unfold deployPlan at h ⊢
  split at h
  · rename_i hchecks
    rw [if_pos hchecks]
    split at h
    · nomatch h
    · rename_i sha256 hhash
      split at h
      · nomatch h
      · rename_i cached bytes hwasm
        split at h
        · nomatch h
        · rename_i artifact hcompile
          exact ⟨cached, sha256, artifact, hhash, rfl⟩
  · nomatch h

theorem settled_deployWrites (cached : List (Store → Store)) (s : Store)
    (hid : d.config.id = d.appId) (sha256 : String) (artifact : List UInt8)
    (audience : List String) :
    Settled d.appId (commitAll (cached ++ deployWrites d sha256 artifact) s)
      (.deployApp d.config (some sha256) audience) := by
  rw [commitAll_append]
  have hconfigs : ((commitAll (deployWrites d sha256 artifact) (commitAll cached s)).configs.get?
      d.appId.text) = some (d.appId.text, d.config) := by
    change OrdTable.get? (OrdTable.insert _ (d.config.id.text, d.config)) d.appId.text = _
    rw [hid, OrdTable.get?_insert, if_pos rfl]
  refine ⟨Store.mem_listDeployedApps.mpr ⟨⟨d.config, ?_⟩, ?_⟩, ?_, ?_⟩
  · exact (OrdTable.get?_eq_some_iff.mp hconfigs).1
  · change Store.isUndeployed (Store.markDeployed _ d.appId.text) d.appId.text = false
    rw [isUndeployed_markDeployed, decide_eq_false (not_not.mpr rfl), Bool.false_and]
  · rw [hconfigs]
    rfl
  · change (OrdTable.get? (OrdTable.insert _ (d.appId.text, sha256)) d.appId.text).map Prod.snd = _
    rw [OrdTable.get?_insert, if_pos rfl]
    rfl

theorem commitAll_take {p : Plan} {committed : Nat} (h : p.completed committed = true) (s : Store) :
    commitAll (p.writes.take committed) s = commitAll p.writes s := by
  rw [Plan.completed, Bool.and_eq_true, decide_eq_true_eq] at h
  rw [List.take_of_length_le h.2]

theorem handled_deploy {config : AppConfig} {expectedHash : Option String} {audience : List String}
    (hok : (handleLifecycle nodeId appId s (.deployApp config expectedHash audience) env).2 = true)
    (hid : config.id = appId) (hfetch : audience.contains nodeId = true ∨
      ∃ sha256 ∈ expectedHash, (s.rawWasm.get? sha256).isSome = true) :
    Settled appId (handleLifecycle nodeId appId s (.deployApp config expectedHash audience) env).1
      (.deployApp config expectedHash audience) := by
  have hskip : deploySkipped nodeId s
      (deployRequest nodeId appId config expectedHash audience env) = false := by
    rw [← Bool.not_eq_true]
    intro h
    rw [deploySkipped, Bool.and_eq_true] at h
    rcases expectedHash with _ | sha256
    · nomatch h.2
    · have hcache := h.2
      grind [deployRequest, Option.isNone_iff_eq_none]
  have hdone : (deployPlan nodeId s (deployRequest nodeId appId config expectedHash audience
      env)).completed env.committed = true := by
    change (Plan.completed _ _ || deploySkipped nodeId s _) = true at hok
    rwa [hskip, Bool.or_false] at hok
  change Settled appId (commitAll ((deployPlan nodeId s (deployRequest nodeId appId config
    expectedHash audience env)).writes.take env.committed) s) _
  rw [commitAll_take hdone]
  rw [Plan.completed, Bool.and_eq_true] at hdone
  rcases deployPlan_completes hdone.1 with ⟨cached, sha256, artifact, hhash, hwrites⟩
  have hexpected : expectedHash = some sha256 := hhash
  rw [hwrites, hexpected]
  exact settled_deployWrites cached s (d := deployRequest nodeId appId config expectedHash audience
    env) hid sha256 artifact audience

theorem handled_remove (hok : (handleLifecycle nodeId appId s .removeApp env).2 = true) :
    Settled appId (handleLifecycle nodeId appId s .removeApp env).1 .removeApp := by
  have hdone : (removePlan s appId env.now env.forgotten).completed env.committed = true := hok
  change appId ∉ Store.listDeployedApps (commitAll ((removePlan s appId env.now
    env.forgotten).writes.take env.committed) s)
  rw [commitAll_take hdone, removePlan, commitAll_append]
  intro hmem
  have hno := (Store.mem_listDeployedApps.mp hmem).2
  change Store.isUndeployed (Store.markUndeployed _ appId.text env.now) appId.text = false at hno
  rw [isUndeployed_markUndeployed, decide_eq_true rfl, Bool.true_or] at hno
  cases hno

/-- Once the last event was handled, what it asks for is how things are. -/
def LastSettled (appId : AppId) (events : List LifecycleEvent) (c : Consumer) : Prop :=
  ∀ i, i + 1 = events.length → (i, true) ∈ c.log →
    ∀ event ∈ events[i]?, Settled appId c.store event

theorem lastSettled_step (nodeId : String) (appId : AppId) (events : List LifecycleEvent)
    (c : Consumer) (delivery : Nat × DeliveryEnv)
    (hgood : InOrder nodeId appId events c delivery) (h : LastSettled appId events c) :
    LastSettled appId events (deliveryStep nodeId appId events c delivery) := by
  rcases delivery with ⟨k, env⟩
  unfold deliveryStep
  rcases hevent : events[k]? with _ | event
  · exact h
  · dsimp only
    split_ifs with hdeliverable
    · intro i hi hmem last hlast
      have hk : k < events.length := (List.getElem?_eq_some_iff.mp hevent).1
      have hfresh : (k, true) ∉ c.log := by
        rw [Consumer.deliverable, Bool.and_eq_true, Bool.and_eq_true, decide_eq_true_eq]
          at hdeliverable
        exact hdeliverable.1.1
      rcases List.mem_cons.mp hmem with heq | hold
      · -- The last event itself was handled.
        rw [Prod.mk.injEq] at heq
        rcases heq with ⟨rfl, hok⟩
        have hsame : event = last := Option.some.inj (hevent.symm.trans hlast)
        rw [← hsame]
        have hcond := hgood.2 hi event hevent
        grind [handled_remove, handled_deploy]
      · -- It was handled before, so no event can be delivered in order any more.
        have hle := hgood.1 _ hold rfl
        have hik : i = k := by
          dsimp only at hle
          omega
        rw [hik] at hold
        exact absurd hold hfresh
    · exact h

/-- If no event is delivered after a later one was handled, then once all are handled the
    application is deployed exactly if the last event is a deployment, with the
    configuration and the hash of that event. -/
theorem deliveries_converge {nodeId : String} {appId : AppId} {events : List LifecycleEvent}
    {last : LifecycleEvent} (hlast : events.getLast? = some last) {store : Store}
    {deliveries : List (Nat × DeliveryEnv)} {c : Consumer}
    (hrun : Along (deliveryStep nodeId appId events) (InOrder nodeId appId events) ⟨store, []⟩
      deliveries) (hc : c = runAll (deliveryStep nodeId appId events) ⟨store, []⟩ deliveries)
    (hdone : ∀ i < events.length, (i, true) ∈ c.log) :
    (appId ∈ c.store.listDeployedApps ↔
      ∃ config expectedHash audience, last = .deployApp config expectedHash audience) ∧
    ∀ config expectedHash audience, last = .deployApp config expectedHash audience →
      (c.store.configs.get? appId.text).map Prod.snd = some config ∧
        (c.store.artifactHashes.get? appId.text).map Prod.snd = expectedHash := by
  have hsettled : LastSettled appId events c := by
    rw [hc]
    exact invariant_along (lastSettled_step nodeId appId events) hrun (fun i _ hmem => nomatch hmem)
  have hne : events ≠ [] := by
    rintro rfl
    nomatch hlast.symm
  have hpos : 0 < events.length := List.length_pos_iff.mpr hne
  have hget : events[events.length - 1]? = some last := by
    rw [← List.getLast?_eq_getElem?]
    exact hlast
  have hend : Settled appId c.store last :=
    hsettled (events.length - 1) (by omega) (hdone _ (by omega)) last hget
  cases last with
  | removeApp =>
    refine ⟨iff_of_false hend ?_, ?_⟩
    · rintro ⟨config, expectedHash, audience, heq⟩
      nomatch heq
    · intro config expectedHash audience heq
      nomatch heq
  | deployApp config expectedHash audience =>
    refine ⟨iff_of_true hend.1 ⟨config, expectedHash, audience, rfl⟩, ?_⟩
    intro config' expectedHash' audience' heq
    rw [LifecycleEvent.deployApp.injEq] at heq
    rw [← heq.1, ← heq.2.1]
    exact hend.2

def publishedDeploy (ns sha256 : String) : LifecycleEvent :=
  .deployApp ⟨⟨"default/api:v1"⟩, ns, []⟩ (some sha256) ["node-1"]

def deliveryEnv (committed : Nat) : DeliveryEnv := ⟨true, some [0], some, 0, true, committed⟩

def redeployed : List LifecycleEvent :=
  [publishedDeploy "default" "hash-1", .removeApp, publishedDeploy "team" "hash-2"]

def orderedDeliveries : List (Nat × DeliveryEnv) :=
  [(0, deliveryEnv 0), (0, deliveryEnv 8), (1, deliveryEnv 8), (2, deliveryEnv 2),
    (2, deliveryEnv 8)]

theorem inOrder_redeployed {c : Consumer} {delivery : Nat × DeliveryEnv}
    (h : ∀ d ∈ c.log, d.2 = true → d.1 ≤ delivery.1) :
    InOrder "node-1" ⟨"default/api:v1"⟩ redeployed c delivery := by
  refine ⟨h, fun hi event hevent => ?_⟩
  have hlast : delivery.1 = 2 := by
    change delivery.1 + 1 = 3 at hi
    omega
  rw [hlast] at hevent
  rw [← Option.some.inj hevent]
  exact ⟨rfl, .inl rfl⟩

theorem deliveries_converge_orderedDeliveries :
    let store := (runAll (deliveryStep "node-1" ⟨"default/api:v1"⟩ redeployed) ⟨emptyStore, []⟩
      orderedDeliveries).store
    (⟨"default/api:v1"⟩ : AppId) ∈ store.listDeployedApps ∧
      (store.configs.get? "default/api:v1").map Prod.snd =
        some ⟨⟨"default/api:v1"⟩, "team", []⟩ := by
  have hrun : Along (deliveryStep "node-1" ⟨"default/api:v1"⟩ redeployed)
      (InOrder "node-1" ⟨"default/api:v1"⟩ redeployed) ⟨emptyStore, []⟩ orderedDeliveries := by
    refine ⟨inOrder_redeployed ?_, inOrder_redeployed ?_, inOrder_redeployed ?_,
      inOrder_redeployed ?_, inOrder_redeployed ?_, trivial⟩
    · decide
    · decide
    · decide +kernel
    · decide +kernel
    · decide +kernel
  have hlast : redeployed.getLast? = some (publishedDeploy "team" "hash-2") := rfl
  have hend := deliveries_converge hlast hrun rfl (by decide +kernel)
  exact ⟨hend.1.mpr ⟨_, _, _, rfl⟩, (hend.2 _ _ _ rfl).1⟩

/-- A deployment fails and comes again after the removal, and the application is deployed. With
    two deployments the first one's configuration stays. A deployment for other nodes does
    nothing. -/
theorem redelivery_diverges :
    let redelivered := fun published =>
      runAll (deliveryStep "node-1" ⟨"default/api:v1"⟩ published) ⟨emptyStore, []⟩
        [(0, deliveryEnv 0), (1, deliveryEnv 8), (0, deliveryEnv 8)]
    (let c := redelivered [publishedDeploy "default" "hash-1", .removeApp];
      (∀ i < 2, (i, true) ∈ c.log) ∧ (⟨"default/api:v1"⟩ : AppId) ∈ c.store.listDeployedApps) ∧
    (let c := redelivered [publishedDeploy "default" "hash-1", publishedDeploy "team" "hash-2"];
      (∀ i < 2, (i, true) ∈ c.log) ∧
        (c.store.configs.get? "default/api:v1").map Prod.snd =
          some ⟨⟨"default/api:v1"⟩, "default", []⟩ ∧
        (c.store.artifactHashes.get? "default/api:v1").map Prod.snd = some "hash-1") ∧
    (let c := runAll (deliveryStep "node-2" ⟨"default/api:v1"⟩
        [publishedDeploy "default" "hash-1"]) ⟨emptyStore, []⟩ [(0, deliveryEnv 8)];
      (∀ i < 1, (i, true) ∈ c.log) ∧ c.store.listDeployedApps = []) := by
  decide

end WasmCloud
