import WasmCloud.Supervisor.Fleet

/-!
# Service Discovery

An instance that is ready is found in two registries: the upstreams of its application, and the
services of a namespace. A spawn enters it in both, and a shutdown takes it out of both. In the
second it is entered under an identifier made from the configured namespace, and taken out under
the namespace of the application's own identifier. If these are not the same, the entry stays.

A `Listing` is a registry together with the phases in which an instance may be, and must be,
listed in it. All steps except the moves that change a registry are treated once for both.
-/

namespace WasmCloud

open List Phase Text

/-- The instance may be among the upstreams of its application. -/
def Phase.routed : Phase → Bool
  | .spawning .routed | .spawning .listed | .spawning .bound | .pooled .ready
  | .shutdown _ .taken => true
  | .spawning _ | .pooled _ | .shutdown _ _ => false

/-- The instance may be among the services of its namespace. -/
def Phase.listed : Phase → Bool
  | .spawning .listed | .spawning .bound | .pooled .ready | .shutdown _ .taken
  | .shutdown _ .unrouted => true
  | .spawning _ | .pooled _ | .shutdown _ _ => false

def Phase.live : Phase → Bool
  | .spawning _ | .pooled _ => true
  | .shutdown _ _ => false

/-- A registry with the phases that may be listed in it; one that may be and is not shut down
    must be. -/
structure Listing (E : Type) where
  register : Registries → List E
  entry : Tracked → E
  may : Phase → Bool
  entry_phase : ∀ (inst : Tracked) (phase : Phase), entry { inst with phase := phase } = entry inst
  entry_port : ∀ x y : Tracked, entry x = entry y → x.port = y.port
  early : ∀ point : SpawnPoint, point = .started ∨ point = .polling →
    may (.spawning point) = false
  inserted : may (.spawning .bound) = may (.pooled .ready)
  fenced : ∀ state : InstanceState, state ≠ .ready → may (.pooled state) = false
  late : ∀ (killer : Killer) (point : ShutdownPoint),
    point = .signalled ∨ point = .timedOut → may (.shutdown killer point) = false
  ends : ∀ phase : Phase, phase.ends = true → may phase = false
  publish_ends : ∀ (r : Registries) (inst : Tracked), inst.phase.ends = true →
    register (r.publish inst) = register r

def Listing.must {E : Type} (l : Listing E) (phase : Phase) : Bool := l.may phase && phase.live

/-- The registry lists whom it may and must. -/
def Listing.Shows {E : Type} (l : Listing E) (s : Fleet) : Prop :=
  Mirrors l.entry (fun inst => l.may inst.phase = true) (fun inst => l.must inst.phase = true)
    s.instances (l.register s.registries)

section Listing

variable {E : Type} (l : Listing E) {inst : Tracked} {s : Fleet}

theorem Listing.entry_unique (hinv : FleetInv s) (hinst : inst ∈ s.instances) :
    ∀ y ∈ s.instances, l.entry y = l.entry inst → y = inst :=
  fun y hy heq => hinv.eq_of_port hy hinst (l.entry_port y inst heq)

variable {phase : Phase} {r : Registries}

theorem Listing.Shows.update (h : l.Shows s) (hinv : FleetInv s) (hinst : inst ∈ s.instances)
    (hothers : ∀ e, e ≠ l.entry inst → (e ∈ l.register r ↔ e ∈ l.register s.registries))
    (hmay : l.entry inst ∈ l.register r → l.may phase = true)
    (hmust : l.must phase = true → l.entry inst ∈ l.register r) :
    l.Shows { s.moveTo inst.id phase with registries := r } :=
  Mirrors.update h hinv.ids hinst (l.entry_phase inst phase) (l.entry_unique hinv hinst) hothers
    hmay hmust

theorem Listing.Shows.keep (h : l.Shows s) (hinv : FleetInv s) (hinst : inst ∈ s.instances)
    (hregister : l.register r = l.register s.registries)
    (hmay : l.may inst.phase = true → l.may phase = true)
    (hmust : l.must phase = true → l.must inst.phase = true) :
    l.Shows { s.moveTo inst.id phase with registries := r } := by
  rw [Listing.Shows, hregister]
  exact Mirrors.keep h hinv.ids hinst (l.entry_phase inst phase) (l.entry_unique hinv hinst) hmay
    hmust

theorem Listing.Shows.discard (h : l.Shows s) (hinv : FleetInv s) (hinst : inst ∈ s.instances)
    (hmay : l.may inst.phase = false) :
    Mirrors l.entry (fun inst => l.may inst.phase = true) (fun inst => l.must inst.phase = true)
      (s.discard inst.id).instances (l.register s.registries) := by
  refine Mirrors.sublist h (Roster.drop_sublist _ _) fun x hx hlisted => ?_
  refine Fleet.mem_discard.mpr ⟨hx, fun hid => ?_⟩
  rw [inj_on_of_nodup_map hinv.ids hx hinst hid, hmay] at hlisted
  cases hlisted

theorem Listing.step {env : SpawnEnv} {t : Fleet} {a : FleetAction}
    (heffect : FleetEffect env s a t) (hinv : FleetInv s) (h : l.Shows s)
    (hmoves : ∀ inst ∈ s.instances, ∀ phase, Moves s a inst phase →
      l.Shows { s.moveTo inst.id phase with registries := s.registries.publish inst }) :
    l.Shows t := by
  have hmust : ∀ {phase : Phase}, l.may phase = false → l.must phase = false := by
    intro phase hmay
    rw [Listing.must, hmay, Bool.false_and]
  cases heffect with
  | keeps running hrunning => exact h
  | allocates inst available free ha hprepare hallocate hid hphase =>
    have hnot := hmust (l.ends (.spawning .allocated) rfl)
    refine Mirrors.cons h ?_
    rw [hphase, hnot]
    exact Bool.false_ne_true
  | launches inst hinst hphase point hpoint =>
    have hbefore := l.ends (.spawning .allocated) rfl
    have hafter := hmust (l.early point hpoint)
    refine h.keep l hinv hinst rfl ?_ ?_
    · rw [hphase, hbefore]
      exact nofun
    · rw [hafter]
      exact nofun
  | moves inst hinst phase hmove => exact hmoves inst hinst phase hmove
  | inserts inst hinst hphase =>
    refine h.keep l hinv hinst rfl ?_ ?_
    · rw [hphase, l.inserted]
      exact fun hc => hc
    · rw [hphase, Listing.must, Listing.must, l.inserted]
      exact fun hc => hc
  | bills inst hinst killer hphase =>
    have hbefore := l.late killer .signalled (.inl rfl)
    refine h.keep l hinv hinst rfl ?_ ?_
    · rw [hphase, hbefore]
      exact nofun
    · rw [Listing.must, live, Bool.and_false]
      exact nofun
  | gives inst hinst hends =>
    rw [Listing.Shows, l.publish_ends _ _ hends]
    exact h.discard l hinv hinst (l.ends _ hends)
  | loses inst hinst hlost =>
    refine h.discard l hinv hinst ?_
    rcases hlost with ⟨-, hphase⟩ | ⟨-, htimedOut, -⟩
    · rw [hphase]
      exact l.early _ (.inl rfl)
    · rcases timedOut_iff.mp htimedOut with ⟨killer, hphase⟩
      rw [hphase]
      exact l.late killer _ (.inr rfl)
  | forgets appId ha hactive =>
    refine Mirrors.sublist h filter_sublist fun x hx hlisted => ?_
    refine mem_filter.mpr ⟨hx, ?_⟩
    rw [Bool.not_eq_true', ← Bool.not_eq_true]
    intro hpool
    -- No instance of the pool was ready.
    rcases Tracked.inPool_iff.mp hpool with ⟨happ, state, hphase⟩
    by_cases hready : state = .ready
    · refine countP_eq_zero.mp hactive x hx (decide_eq_true ⟨happ, ?_⟩)
      rw [hphase, hready]
    · rw [hphase, l.fenced state hready] at hlisted
      cases hlisted

end Listing

def routedListing : Listing (AppId × Nat) where
  register := Registries.upstreams
  entry := fun inst => (inst.appId, inst.port)
  may := routed
  entry_phase := fun _ _ => rfl
  entry_port := fun _ _ h => congrArg Prod.snd h
  early := by rintro point (rfl | rfl) <;> rfl
  inserted := rfl
  fenced := fun state _ => by cases state <;> grind [routed]
  late := by rintro killer point (rfl | rfl) <;> rfl
  ends := fun phase h => by grind [ends_iff, routed]
  publish_ends := fun r inst h => by unfold Registries.publish; split <;> grind [ends]

/-- The services by namespace and name. -/
def serviceListing : Listing ((String × String) × Nat) where
  register := Registries.services
  entry := fun inst => (inst.qualified.serviceKey, inst.port)
  may := listed
  entry_phase := fun _ _ => rfl
  entry_port := fun _ _ h => congrArg Prod.snd h
  early := by rintro point (rfl | rfl) <;> rfl
  inserted := rfl
  fenced := fun state _ => by cases state <;> grind [listed]
  late := by rintro killer point (rfl | rfl) <;> rfl
  ends := fun phase h => by grind [ends_iff, listed]
  publish_ends := fun r inst h => by unfold Registries.publish; split <;> grind [ends]

variable {appId : AppId}

theorem UpstreamRegistry.mem_add {upstreams : UpstreamRegistry} {port : Nat} {e : AppId × Nat} :
    e ∈ upstreams.add appId port ↔ e = (appId, port) ∨ e ∈ upstreams := by
  unfold UpstreamRegistry.add
  split <;> simp_all [or_comm]

variable {env : SpawnEnv} {inst : Tracked} {a : FleetAction} {s : Fleet}

theorem Moves.routed (h : Moves s a inst phase) : inst.phase = .spawning .connected ∧
      phase = .spawning .routed ∨ (∃ killer, inst.phase = .shutdown killer .taken ∧
        phase = .shutdown killer .unrouted) ∨
      (s.registries.publish inst).upstreams = s.registries.upstreams ∧
        (inst.phase.routed = true → phase.routed = true) ∧
        ((phase.routed && phase.live) = true → (inst.phase.routed && inst.phase.live) = true) := by
  unfold Moves at h
  split at h <;> grind [Registries.publish, Phase.routed, live]

/-- Entering and removing an instance concern its own entry only. -/
theorem routedListing_moves (hinv : FleetInv s) (h : routedListing.Shows s) (inst : Tracked)
    (hinst : inst ∈ s.instances) (phase : Phase) (hmove : Moves s a inst phase) :
    routedListing.Shows
      { s.moveTo inst.id phase with registries := s.registries.publish inst } := by
  rcases hmove.routed with ⟨hphase, rfl⟩ | ⟨killer, hphase, rfl⟩ | ⟨hsame, hmay, hmust⟩
  · refine h.update routedListing hinv hinst ?_ (fun _ => rfl) (fun _ => ?_)
    all_goals simp only [Registries.publish, hphase, routedListing, UpstreamRegistry.mem_add]
    · exact fun e he => or_iff_right he
    · exact .inl trivial
  · refine h.update routedListing hinv hinst ?_ (fun hmem => ?_) nofun
    all_goals simp_all [Registries.publish, routedListing, UpstreamRegistry.remove]
  · exact h.keep routedListing hinv hinst hsame hmay hmust

theorem routedListing_step (env : SpawnEnv) (s : Fleet) (a : FleetAction) (hinv : FleetInv s)
    (h : routedListing.Shows s) : routedListing.Shows (fleetStep env s a) :=
  routedListing.step (fleetStep_effect env s a) hinv h (routedListing_moves hinv h)

theorem Moves.listed (h : Moves s a inst phase) : inst.phase = .spawning .routed ∧
      phase = .spawning .listed ∨
      (s.registries.publish inst).services = s.registries.services.deregister inst.appId inst.port ∧
        phase.live = false ∨
      (s.registries.publish inst).services = s.registries.services ∧
        (inst.phase.listed = true → phase.listed = true) ∧
        ((phase.listed && phase.live) = true → (inst.phase.listed && inst.phase.live) = true) := by
  unfold Moves at h
  split at h <;> grind [Registries.publish, Phase.listed, live]

/-- An instance is taken out by the name it was entered under. -/
theorem serviceListing_moves (hinv : FleetInv s) (h : serviceListing.Shows s)
    (hkeys : ∀ inst ∈ s.instances, inst.qualified.serviceKey = inst.appId.serviceKey)
    (inst : Tracked) (hinst : inst ∈ s.instances) (phase : Phase) (hmove : Moves s a inst phase) :
    serviceListing.Shows
      { s.moveTo inst.id phase with registries := s.registries.publish inst } := by
  rcases hmove.listed with ⟨hphase, rfl⟩ | ⟨hderegister, hlive⟩ | ⟨hsame, hmay, hmust⟩
  · refine h.update serviceListing hinv hinst ?_ (fun _ => rfl) (fun _ => ?_)
    all_goals simp_all [Registries.publish, serviceListing, NamespaceRegistry.registerEndpoint]
  · refine h.update serviceListing hinv hinst ?_ (fun hmem => ?_) (fun hmust => ?_)
    · simp_all [serviceListing, NamespaceRegistry.deregister]
    · simp_all [serviceListing, NamespaceRegistry.deregister]
    · simp_all [Listing.must]
  · exact h.keep serviceListing hinv hinst hsame hmay hmust

/-- Instances are entered in the services under the key they are taken out by. -/
def KeysAgree (env : SpawnEnv) : Prop :=
  ∀ appId config qualified, env.config appId = some config →
    qualifiedId config appId = some qualified → qualified.serviceKey = appId.serviceKey

theorem AppId.slash_not_mem_ns (id : AppId) : '/' ∉ id.ns.toList := by
  rw [AppId.ns]
  by_cases h : id.text.toList.contains '/' = true
  · rw [if_pos h]
    rcases hsplit : split id.text '/' with _ | ⟨first, rest⟩
    · exact absurd hsplit (split_ne_nil _ _)
    · exact fun hmem => (of_mem_split (hsplit ▸ mem_cons_self) hmem).2 rfl
  · rw [if_neg h]
    decide

theorem AppId.slash_not_mem_bareName (id : AppId) : '/' ∉ id.bareName.toList := by
  rw [AppId.bareName]
  by_cases h : id.text.toList.contains '/' = true
  · rw [if_pos h]
    rcases split_of_mem (contains_iff_mem.mp h) with ⟨first, second, rest, hsplit⟩
    rw [hsplit]
    exact fun hmem => (of_mem_split (hsplit ▸ mem_cons_of_mem _ (.head _)) hmem).2 rfl
  · rw [if_neg h]
    exact fun hmem => h (contains_iff_mem.mpr hmem)

theorem AppId.bareAppName_chars (id : AppId) {x : Char} (hx : x ∈ id.bareAppName.toList) :
    x ∈ id.bareName.toList ∧ x ≠ ':' := by
  rcases hsplit : split id.bareName ':' with _ | ⟨first, rest⟩
  · exact absurd hsplit (split_ne_nil _ _)
  · have hfirst : first ∈ split id.bareName ':' := hsplit ▸ mem_cons_self
    rw [AppId.bareAppName, hsplit] at hx
    exact of_mem_split hfirst hx

theorem slash_not_mem_version (id : AppId) :
    '/' ∉ ((split id.bareName ':').getD 1 "v1").toList := by
  intro hmem
  rcases hsplit : split id.bareName ':' with _ | ⟨first, _ | ⟨second, rest⟩⟩
  · exact absurd hsplit (split_ne_nil _ _)
  · have hdefault : '/' ∉ "v1".toList := by decide
    exact hdefault (by rwa [hsplit] at hmem)
  · rw [hsplit] at hmem
    exact id.slash_not_mem_bareName (of_mem_split (hsplit ▸ mem_cons_of_mem _ (.head _)) hmem).1

theorem AppId.serviceKey_of_text {id : AppId} {ns name version : String}
    (htext : id.text = ns ++ "/" ++ name ++ ":" ++ version) (hns : '/' ∉ ns.toList)
    (hname : '/' ∉ name.toList ∧ ':' ∉ name.toList) (hversion : '/' ∉ version.toList) :
    id.serviceKey = (ns, name) := by
  have hrest : '/' ∉ (name ++ ":" ++ version).toList := by
    simp [String.toList_append, hname.1, hversion]
  have hsplit : split id.text '/' = [ns, name ++ ":" ++ version] := by
    have htext : id.text = ns ++ "/" ++ (name ++ ":" ++ version) := by
      simp only [htext, String.append_assoc]
    rw [htext, split_append hns (by decide), split_of_not_mem hrest]
  have hslash : '/' ∈ id.text.toList := by simp [htext, String.toList_append]
  simp [AppId.serviceKey, AppId.ns, AppId.bareAppName, AppId.bareName, hslash, hsplit,
    split_append hname.2]

theorem serviceKey_qualifiedId {config : PoolConfig} {qualified : AppId}
    (hns : config.ns = appId.ns) (h : qualifiedId config appId = some qualified) :
    qualified.serviceKey = appId.serviceKey := by
  refine AppId.serviceKey_of_text (AppId.newNamespaced_text h |>.trans (by rw [hns]))
    appId.slash_not_mem_ns ⟨fun hmem => ?_, fun hmem => ?_⟩ (slash_not_mem_version appId)
  · exact appId.slash_not_mem_bareName (appId.bareAppName_chars hmem).1
  · exact (appId.bareAppName_chars hmem).2 rfl

theorem keysAgree_of_ns
    (h : ∀ appId config, env.config appId = some config → config.ns = appId.ns) : KeysAgree env :=
  fun appId config _ hconfig hqualified =>
    serviceKey_qualifiedId (h appId config hconfig) hqualified

variable {t : Fleet} {phase : Phase}

/-- What holds of an instance when it is spawned, whatever its phase, stays true. -/
theorem FleetEffect.forall_instances (heffect : FleetEffect env s a t) (hinv : FleetInv s)
    {P : Tracked → Prop} (hphase : ∀ inst phase, P inst → P { inst with phase := phase })
    (hnew : ∀ inst available, prepareSpawn env available inst.appId =
      .ok (inst.qualified, inst.model) → P inst) (h : ∀ inst ∈ s.instances, P inst) :
    ∀ inst ∈ t.instances, P inst := by
  intro inst hinst
  rcases heffect.origin hinv hinst with ⟨-, -, available, -, hprepare⟩ | ⟨old, hold, hsame, -⟩
  · exact hnew inst available hprepare
  · rw [hsame]
    exact hphase old inst.phase (h old hold)

theorem FleetEffect.registries (heffect : FleetEffect env s a t) : t.registries = s.registries ∨
      ∃ inst ∈ s.instances, t.registries = s.registries.publish inst := by
  cases heffect with
  | moves inst hinst phase hmove | gives inst hinst hends => exact .inr ⟨inst, hinst, rfl⟩
  | _ => exact .inl rfl

theorem nodup_publish (hinv : FleetInv s) (hservices : serviceListing.Shows s)
    (hnodup : s.registries.upstreams.Nodup ∧ s.registries.services.Nodup)
    (hinst : inst ∈ s.instances) :
    (s.registries.publish inst).upstreams.Nodup ∧ (s.registries.publish inst).services.Nodup := by
  have hconcat : ∀ {E : Type} {l : List E} {e : E}, l.Nodup → e ∉ l → (l ++ [e]).Nodup :=
    fun hl he => (perm_append_singleton _ _).nodup_iff.mpr (nodup_cons.mpr ⟨he, hl⟩)
  have hnew := hservices.may_of_mem (serviceListing.entry_unique hinv hinst)
  unfold Registries.publish
  split
  · grind [UpstreamRegistry.add]
  · next hphase =>
    rw [hphase] at hnew
    exact ⟨hnodup.1, hconcat hnodup.2 fun hmem => by cases hnew hmem⟩
  · exact hnodup
  · exact ⟨hnodup.1.filter _, hnodup.2⟩
  · exact ⟨hnodup.1, hnodup.2.filter _⟩
  · exact ⟨hnodup.1, hnodup.2.filter _⟩
  all_goals exact hnodup

/-- The instance may have its source port bound. -/
def Phase.bound : Phase → Bool
  | .spawning .bound | .pooled _ | .shutdown _ _ => true
  | .spawning _ => false

/-- Spawns and kills, without the removal of a pool. -/
def SpawnOrKill : FleetAction → Prop
  | .allocate _ _ | .proceed _ _ | .take _ _ _ | .workerExits _ => True
  | .forgetApp _ => False

instance : ∀ a, Decidable (SpawnOrKill a)
  | .allocate _ _ | .proceed _ _ | .take _ _ _ | .workerExits _ =>
    instDecidableTrue
  | .forgetApp _ => instDecidableFalse

/-- Ready and closing instances have a pool, and bound ports belong to such instances. -/
structure SourceInv (s : Fleet) : Prop where
  pools : ∀ inst ∈ s.instances, inst.phase.stage = .ready ∨ inst.phase.stage = .closing →
    inst.appId ∈ s.pools
  sources : ∀ binding ∈ s.registries.sources,
    ∃ inst ∈ s.instances, (inst.port, inst.qualified) = binding ∧ inst.phase.bound = true

theorem Moves.bound (h : Moves s a inst phase)
    (hbound : inst.phase.bound = true ∨ inst.phase = .spawning .listed) : phase.bound = true := by
  unfold Moves at h
  split at h <;> grind [Phase.bound]

/-- The old bindings, and perhaps the call's own, which its last step removes. -/
theorem mem_publish_sources {r : Registries} {binding : Nat × AppId}
    (h : binding ∈ (r.publish inst).sources) :
    (binding ∈ r.sources ∧ (inst.phase.ends = true → inst.phase.bound = true →
      binding.1 ≠ inst.port)) ∨
      (inst.phase = .spawning .listed ∧ (inst.port, inst.qualified) = binding) := by
  unfold Registries.publish at h
  split at h <;> grind [Phase.ends, Phase.bound, SourcePorts.bind, SourcePorts.release]

theorem SourceInv.moveTo (h : SourceInv s) (hinv : FleetInv s) (hinst : inst ∈ s.instances)
    (hbound : inst.phase.bound = true → phase.bound = true) :
    ∀ binding ∈ s.registries.sources, ∃ x ∈ (s.moveTo inst.id phase).instances,
      (x.port, x.qualified) = binding ∧ x.phase.bound = true := by
  intro binding hbinding
  rcases h.sources binding hbinding with ⟨x, hx, hport, hxbound⟩
  by_cases hid : x.id = inst.id
  · have hsame : x = inst := inj_on_of_nodup_map hinv.ids hx hinst hid
    subst hsame
    exact ⟨_, (hinv.mem_moveTo hx).mpr (.inl rfl), hport, hbound hxbound⟩
  · exact ⟨x, (hinv.mem_moveTo hinst).mpr (.inr ⟨hx, hid⟩), hport, hxbound⟩

theorem SourceInv.pools_step (h : SourceInv s) (heffect : FleetEffect env s a t)
    (ha : SpawnOrKill a) (hinv : FleetInv s) : ∀ x ∈ t.instances,
      x.phase.stage = .ready ∨ x.phase.stage = .closing → x.appId ∈ t.pools := by
  intro x hx hstage
  have hold : x ∈ s.instances → x.appId ∈ s.pools := fun hmem => h.pools x hmem hstage
  have hsame : ∀ id phase, (s.moveTo id phase).pools = s.pools := fun _ _ => rfl
  cases heffect with
  | keeps => exact hold hx
  | allocates => grind [Phase.stage]
  | launches inst hinst | inserts inst hinst | bills inst hinst =>
    grind [hinv.mem_moveTo hinst, Phase.stage]
  | moves inst hinst phase hmove =>
    have hbefore := h.pools inst hinst
    grind [hinv.mem_moveTo hinst, hmove.stage]
  | gives | loses => exact hold (Fleet.mem_discard.mp hx).1
  | forgets appId ha' => exact (ha' ▸ ha).elim

theorem sourceInv_step (heffect : FleetEffect env s a t) (ha : SpawnOrKill a) (hinv : FleetInv s)
    (h : SourceInv s) : SourceInv t := by
  refine ⟨h.pools_step heffect ha hinv, fun binding hbinding => ?_⟩
  -- An instance without a source port is let go of.
  have hdiscard : ∀ inst ∈ s.instances, binding ∈ s.registries.sources →
      (inst.phase.bound = true → binding.1 ≠ inst.port) →
      ∃ x ∈ (s.discard inst.id).instances, (x.port, x.qualified) = binding ∧
        x.phase.bound = true := by
    intro inst hinst hbinding hother
    rcases h.sources binding hbinding with ⟨x, hx, hport, hxbound⟩
    refine ⟨x, Fleet.mem_discard.mpr ⟨hx, fun hid => ?_⟩, hport, hxbound⟩
    obtain rfl := inj_on_of_nodup_map hinv.ids hx hinst hid
    exact hother hxbound (congrArg Prod.fst hport).symm
  cases heffect with
  | keeps => exact h.sources binding hbinding
  | allocates =>
    rcases h.sources binding hbinding with ⟨x, hx, hplace⟩
    exact ⟨x, mem_cons_of_mem _ hx, hplace⟩
  | launches inst hinst hphase =>
    refine h.moveTo hinv hinst (fun hbound => ?_) binding hbinding
    rw [hphase] at hbound
    cases hbound
  | moves inst hinst phase hmove =>
    rcases mem_publish_sources hbinding with ⟨hold, -⟩ | ⟨hlisted, hport⟩
    · exact h.moveTo hinv hinst (fun hb => hmove.bound (.inl hb)) binding hold
    · exact ⟨_, (hinv.mem_moveTo hinst).mpr (.inl rfl), hport, hmove.bound (.inr hlisted)⟩
  | inserts inst hinst | bills inst hinst =>
    exact h.moveTo hinv hinst (fun _ => rfl) binding hbinding
  | gives inst hinst hends =>
    rcases mem_publish_sources hbinding with ⟨hold, hother⟩ | ⟨hlisted, -⟩
    · exact hdiscard inst hinst hold (hother hends)
    · rw [hlisted] at hends
      cases hends
  | loses inst hinst hlost =>
    refine hdiscard inst hinst hbinding fun hbound => ?_
    rcases hlost with ⟨-, hphase⟩ | ⟨-, htimedOut, hpool⟩
    · rw [hphase] at hbound
      cases hbound
    · -- Its pool is still there.
      exact absurd (h.pools inst hinst (.inr (stage_of_timedOut htimedOut))) hpool
  | forgets appId ha' => exact (ha' ▸ ha).elim

/-- What the registries and the fleet have in common. -/
structure DiscoveryInv (s : Fleet) : Prop extends FleetInv s, SourceInv s where
  keys : ∀ inst ∈ s.instances, inst.qualified.serviceKey = inst.appId.serviceKey
  routed : routedListing.Shows s
  listed : serviceListing.Shows s
  nodup : s.registries.upstreams.Nodup ∧ s.registries.services.Nodup

theorem discoveryInv_step (hkeys : KeysAgree env) (s : Fleet) (a : FleetAction)
    (ha : SpawnOrKill a) (h : DiscoveryInv s) : DiscoveryInv (fleetStep env s a) := by
  have heffect := fleetStep_effect env s a
  refine ⟨heffect.inv h.toFleetInv, sourceInv_step heffect ha h.toFleetInv h.toSourceInv,
    heffect.forall_instances h.toFleetInv (fun _ _ hkey => hkey) ?_ h.keys,
    routedListing_step env s a h.toFleetInv h.routed,
    serviceListing.step heffect h.toFleetInv h.listed
      (serviceListing_moves h.toFleetInv h.listed h.keys), ?_⟩
  · intro inst available hprepare
    rcases prepareSpawn_ok hprepare with ⟨config, hconfig, -, hqualified⟩
    exact hkeys inst.appId config inst.qualified hconfig hqualified
  · rcases heffect.registries with hsame | ⟨inst, hinst, hpublish⟩
    · rw [hsame]
      exact h.nodup
    · rw [hpublish]
      exact nodup_publish h.toFleetInv h.listed h.nodup hinst

theorem discoveryInv_init (start finish : Nat) (restored : List AppId) :
    DiscoveryInv (.init start finish restored) where
  toFleetInv := fleetInv_init start finish restored
  pools := nofun
  sources := nofun
  keys := nofun
  routed := ⟨nofun, nofun⟩
  listed := ⟨nofun, nofun⟩
  nodup := ⟨nodup_nil, nodup_nil⟩

theorem Listing.Shows.mem_iff {E : Type} {l : Listing E} (hready : l.must (.pooled .ready) = true)
    (h : l.Shows s) (hquiet : ∀ inst ∈ s.instances, ∃ state, inst.phase = .pooled state) {e : E} :
    e ∈ l.register s.registries ↔
      ∃ inst ∈ s.instances, l.entry inst = e ∧ inst.phase = .pooled .ready := by
  grind [l.fenced, h.sound, h.complete]

/-- If every application's instances are entered in the services under the key they are
    taken out by, then between operations both registries list exactly the instances
    that are ready, each once, and source ports are bound for instances of pools only. -/
theorem discovery_exact {env : SpawnEnv} (hkeys : KeysAgree env) {start finish : Nat}
    {restored : List AppId} {run : List FleetAction} {s : Fleet}
    (hrun : Along (fleetStep env) (fun _ a => SpawnOrKill a) (.init start finish restored) run)
    (hs : s = runAll (fleetStep env) (.init start finish restored) run)
    (hquiet : ∀ inst ∈ s.instances, ∃ state, inst.phase = .pooled state) :
    (∀ appId port, (appId, port) ∈ s.registries.upstreams ↔ ∃ inst ∈ s.instances,
        inst.appId = appId ∧ inst.port = port ∧ inst.phase = .pooled .ready) ∧
      s.registries.upstreams.Nodup ∧
      (∀ port, port ∈ s.registries.services.map Prod.snd ↔ ∃ inst ∈ s.instances,
        inst.port = port ∧ inst.phase = .pooled .ready) ∧
      (s.registries.services.map Prod.snd).Nodup ∧
      ∀ binding ∈ s.registries.sources, ∃ inst ∈ s.instances,
        (inst.port, inst.qualified) = binding ∧ ∃ state, inst.phase = .pooled state := by
  subst hs
  have h := invariant_along (discoveryInv_step hkeys) hrun (discoveryInv_init start finish restored)
  generalize runAll (fleetStep env) (.init start finish restored) run = s at h hquiet
  have hservice : ∀ {e}, e ∈ s.registries.services ↔ ∃ inst ∈ s.instances,
      (inst.qualified.serviceKey, inst.port) = e ∧ inst.phase = .pooled .ready :=
    Listing.Shows.mem_iff rfl h.listed hquiet
  refine ⟨fun appId port => ?_, h.nodup.1, fun port => ?_, ?_, fun binding hbinding => ?_⟩
  · refine (Listing.Shows.mem_iff rfl h.routed hquiet).trans ?_
    constructor
    · rintro ⟨inst, hinst, heq, hphase⟩
      exact ⟨inst, hinst, congrArg Prod.fst heq, congrArg Prod.snd heq, hphase⟩
    · rintro ⟨inst, hinst, rfl, rfl, hphase⟩
      exact ⟨inst, hinst, rfl, hphase⟩
  · rw [mem_map]
    constructor
    · rintro ⟨e, he, rfl⟩
      rcases hservice.mp he with ⟨inst, hinst, rfl, hphase⟩
      exact ⟨inst, hinst, rfl, hphase⟩
    · rintro ⟨inst, hinst, rfl, hphase⟩
      exact ⟨_, hservice.mpr ⟨inst, hinst, rfl, hphase⟩, rfl⟩
  · -- Two entries with one port are those of one instance.
    refine h.nodup.2.map_on fun x hx y hy heq => ?_
    rcases hservice.mp hx with ⟨a, ha, rfl, -⟩
    rcases hservice.mp hy with ⟨b, hb, rfl, -⟩
    rw [h.toFleetInv.eq_of_port ha hb heq]
  · rcases h.sources binding hbinding with ⟨inst, hinst, hport, -⟩
    exact ⟨inst, hinst, hport, hquiet inst hinst⟩

theorem keysAgree_oneApp : KeysAgree (oneApp "default") := by
  refine keysAgree_of_ns fun appId config h => ?_
  simp only [oneApp, Option.ite_none_right_eq_some, Option.some.injEq] at h
  rcases h with ⟨rfl, rfl⟩
  decide

def fencedRun : List FleetAction :=
  spawnSteps 0 ++ spawnSteps 1 ++ signalSteps .request 0 ++ [.proceed 0 true, .proceed 0 true]

/-- The second one is listed, and each of the two has its source port. -/
theorem discovery_exact_fencedRun :
    let s := runAll (fleetStep (oneApp "default")) (.init 9000 9001 []) fencedRun
    ((portApp, 9001) ∈ s.registries.upstreams ↔ ∃ inst ∈ s.instances,
        inst.appId = portApp ∧ inst.port = 9001 ∧ inst.phase = .pooled .ready) ∧
      (s.registries.services.map Prod.snd).Nodup ∧
      s.registries.sources.map Prod.fst = [9001, 9000] ∧
      ∀ binding ∈ s.registries.sources, ∃ inst ∈ s.instances,
        (inst.port, inst.qualified) = binding ∧ ∃ state, inst.phase = .pooled state := by
  have hpooled : ∀ inst ∈ (runAll (fleetStep (oneApp "default")) (.init 9000 9001 [])
      fencedRun).instances, inst.phase = .pooled .ready ∨ inst.phase = .pooled .exitTimedOut := by
    decide +kernel
  have hrun : Along (fleetStep (oneApp "default")) (fun _ a => SpawnOrKill a) (.init 9000 9001 [])
      fencedRun := by decide
  rcases discovery_exact keysAgree_oneApp hrun rfl
      (fun inst hinst => (hpooled inst hinst).elim (fun h => ⟨_, h⟩) (fun h => ⟨_, h⟩)) with
    ⟨hupstreams, -, -, hservices, hsources⟩
  exact ⟨hupstreams portApp 9001, hservices, by decide +kernel, hsources⟩

/-- The namespace ends in a carriage return, which the check at deployment does not see. The
    entry of the killed instance stays. -/
theorem discovery_stale :
    let s := runAll (fleetStep (oneApp "default\r")) (.init 9000 9001 [])
      (spawnSteps 0 ++ [.workerExits 0] ++ signalSteps .request 0 ++
        [.proceed 0 true, .proceed 0 true, .proceed 0 true])
    trim "default\r" = portApp.ns ∧ s.instances = [] ∧
      s.registries.services = [(("default\r", "api"), 9000)] := by
  decide +kernel

end WasmCloud
