import WasmCloud.Gateway.EastWest

/-!
# Names of Services

A service is addressed as `app.namespace.internal`. A spawn writes such hosts into the
environment of an instance, and the internal gateway takes them apart. It drops every
`.internal` at the end and splits what is left at the last dot.

Nothing that accepts a name looks for dots, brackets or spaces. The gateway and a spawn build
an identifier of the parts, with a constructor that panics where a validation would refuse.
-/

namespace WasmCloud

open List Text

/-- A host without its port, as `parse_internal_host` takes it. -/
def hostnameOf (host : String) : String :=
  if startsWith host "[" then
    match host.toList.dropWhile (fun c => c != ']') with
    | [] => host
    | _ => String.ofList (host.toList.takeWhile (fun c => c != ']') ++ [']'])
  else match rsplitOnce host ':' with
    | some (name, _) => name
    | none => host

/-- The application and the namespace of an internal hostname. -/
def serviceOfHostname (hostname : String) : Option (String × String) :=
  if endsWith hostname ".internal" then
    some ((rsplitOnce (trimEndMatches hostname ".internal") '.').getD
      (trimEndMatches hostname ".internal", "default"))
  else none

theorem parseInternalHost_eq (host : String) :
    parseInternalHost host = serviceOfHostname (hostnameOf host) := by
  unfold parseInternalHost serviceOfHostname hostnameOf
  grind

/-- The host of the URL a spawn injects for a service behind the gateway. -/
def injectedHost (app ns : String) (gatewayPort : UInt16) : String :=
  app ++ "." ++ ns ++ ".internal:" ++ toString gatewayPort.toNat

theorem dot_internal (s : String) : s ++ ".internal" = s ++ String.singleton '.' ++ "internal" := by
  rw [String.append_assoc]
  rfl

variable {app ns : String}

/-- The namespace that is read is one label, and not `internal`. -/
theorem serviceOfHostname_ns {hostname : String}
    (h : serviceOfHostname hostname = some (app, ns)) : '.' ∉ ns.toList ∧ ns ≠ "internal" := by
  unfold serviceOfHostname at h
  split_ifs at h
  cases hsplit : rsplitOnce (trimEndMatches hostname ".internal") '.' with
  | none =>
    rw [hsplit, Option.getD_none, Option.some_inj, Prod.mk.injEq] at h
    rw [← h.2]
    decide
  | some found =>
    rw [hsplit, Option.getD_some, Option.some_inj] at h
    rw [h] at hsplit
    obtain ⟨htext, hdot⟩ := rsplitOnce_some hsplit
    refine ⟨hdot, fun hinternal => ?_⟩
    -- Every `.internal` at the end has been dropped.
    have hnone := endsWith_trimEndMatches hostname (by decide : ".internal" ≠ "")
    rw [htext, hinternal, ← dot_internal] at hnone
    simp [(endsWith_iff (app ++ ".internal") _).mpr ⟨app, rfl⟩] at hnone

theorem serviceOfHostname_written (hdot : '.' ∉ ns.toList) (hns : ns ≠ "internal") :
    serviceOfHostname (app ++ "." ++ ns ++ ".internal") = some (app, ns) := by
  have hsplit : rsplitOnce (app ++ "." ++ ns) '.' = some (app, ns) :=
    rsplitOnce_append app ns '.' hdot
  have honce : endsWith (app ++ "." ++ ns) ".internal" = false := by
    by_contra hmore
    obtain ⟨t, ht⟩ := (endsWith_iff _ _).mp (Bool.of_not_eq_false hmore)
    have hagain := rsplitOnce_append t "internal" '.' (by decide)
    rw [← dot_internal, ← ht, hsplit] at hagain
    exact hns (Prod.mk.inj (Option.some.inj hagain)).2
  have htrim := trimEndMatches_append_self (by decide : ".internal" ≠ "") honce
  have hends : endsWith (app ++ "." ++ ns ++ ".internal") ".internal" = true :=
    (endsWith_iff _ _).mpr ⟨_, rfl⟩
  rw [serviceOfHostname, if_pos hends, htrim, hsplit, Option.getD_some]

theorem hostnameOf_injected (port : UInt16) (h : startsWith app "[" = false) :
    hostnameOf (injectedHost app ns port) = app ++ "." ++ ns ++ ".internal" := by
  have hbracket : startsWith (injectedHost app ns port) "[" = false := by
    rcases hlist : app.toList with _ | ⟨c, cs⟩
    · simp [injectedHost, startsWith, hlist, List.isPrefixOf]
    · simpa [injectedHost, startsWith, hlist, List.isPrefixOf] using h
  have hsplit : rsplitOnce (injectedHost app ns port) ':' =
      some (app ++ "." ++ ns ++ ".internal", toString port.toNat) := by
    have hparts : injectedHost app ns port =
        app ++ "." ++ ns ++ ".internal" ++ String.singleton ':' ++ toString port.toNat := by
      simp only [injectedHost, String.append_assoc]
      rfl
    rw [hparts]
    exact rsplitOnce_append _ _ ':' (toString_no_colon _)
  simp only [hostnameOf, hbracket, hsplit, Bool.false_eq_true, if_false]

theorem parseInternalHost_bracket (port : UInt16) (h : startsWith app "[" = true) :
    parseInternalHost (injectedHost app ns port) = none := by
  have hbracket : startsWith (injectedHost app ns port) "[" = true := by
    unfold injectedHost
    simp only [String.append_assoc]
    exact startsWith_append h _
  have hends : endsWith (hostnameOf (injectedHost app ns port)) ".internal" = false := by
    by_contra hinternal
    obtain ⟨t, ht⟩ := (endsWith_iff _ _).mp (Bool.of_not_eq_false hinternal)
    have hlast : (hostnameOf (injectedHost app ns port)).toList.getLast? = some 'l' := by
      rw [ht, String.toList_append, List.getLast?_append]
      rfl
    simp only [hostnameOf, hbracket, if_true] at hlast
    split at hlast
    · have hport : (toString port.toNat).toList.getLast? = some 'l' := by
        have hne : (toString port.toNat).toList ≠ [] := by
          rw [toList_toString]
          exact Nat.toDigits_ne_nil
        rw [injectedHost, String.toList_append, List.getLast?_append_of_ne_nil _ hne] at hlast
        exact hlast
      have hdigit := isDigit_of_mem_toString (mem_of_getLast? hport)
      nomatch hdigit
    · simp at hlast
  simp only [parseInternalHost_eq, serviceOfHostname, hends, Bool.false_eq_true, if_false]

/-- A host is read as the service it was written for exactly if the name of the application
    does not begin with a bracket and the namespace is one label, and not `internal`. -/
theorem parse_injected_host_iff (app ns : String) (gatewayPort : UInt16) :
    parseInternalHost (injectedHost app ns gatewayPort) = some (app, ns) ↔
      startsWith app "[" = false ∧ '.' ∉ ns.toList ∧ ns ≠ "internal" := by
  cases hbracket : startsWith app "[" with
  | true => simp [parseInternalHost_bracket gatewayPort hbracket]
  | false =>
    rw [parseInternalHost_eq, hostnameOf_injected gatewayPort hbracket]
    refine ⟨fun h => ⟨rfl, serviceOfHostname_ns h⟩, fun h => ?_⟩
    exact serviceOfHostname_written h.2.1 h.2.2

/-- The part of the namespace before its dot is taken for the application's. -/
theorem injected_host_misread :
    parseInternalHost (injectedHost "api" "prod.eu" 9080) = some ("api.prod", "eu") ∧
      (AppId.newNamespaced "prod.eu" "api" "v1").isSome = true := by
  decide +kernel

/-- The text has none of the characters that `AppId::new_validate` refuses. -/
def cleanName (s : String) : Bool := s.toList.all (fun c => c ∉ [' ', '\n', '\t', '>', '*'])

theorem cleanName_append (s t : String) : cleanName (s ++ t) = (cleanName s && cleanName t) := by
  simp only [cleanName, String.toList_append, all_append]

theorem cleanName_of_chars {s t : String} (h : cleanName s = true)
    (hchars : ∀ c ∈ t.toList, c ∈ s.toList) : cleanName t = true :=
  all_eq_true.mpr fun c hc => all_eq_true.mp h c (hchars c hc)

theorem newNamespaced_isSome_iff (ns name version : String) :
    (AppId.newNamespaced ns name version).isSome = true ↔
      cleanName ns = true ∧ cleanName name = true ∧ cleanName version = true := by
  have hvalid (s : String) (hne : s ≠ "") :
      (AppId.newValidate s).toOption.isSome = true ↔ cleanName s = true := by
    unfold AppId.newValidate cleanName
    rw [if_neg hne]
    split_ifs with hspace hnats
    · simp only [Except.toOption, Option.isSome_none, Bool.false_eq_true, false_iff]
      grind
    · simp only [Except.toOption, Option.isSome_none, Bool.false_eq_true, false_iff]
      intro hall
      rw [all_eq_true] at hall
      simp only [Bool.or_eq_true, contains_iff_mem] at hnats
      rcases hnats with h | h <;> cases hall _ h
    · refine iff_of_true rfl (all_eq_true.mpr fun c hc => decide_eq_true fun hmem => ?_)
      simp only [Bool.or_eq_true, contains_iff_mem, not_or] at hspace hnats
      grind
  have hne : ns ++ "/" ++ name ++ ":" ++ version ≠ "" := by
    intro h
    have hlist := congrArg String.toList h
    simp [String.toList_append] at hlist
  rw [AppId.newNamespaced, hvalid _ hne]
  simp only [cleanName_append, Bool.and_eq_true]
  have hslash : cleanName "/" = true := by decide
  have hcolon : cleanName ":" = true := by decide
  simp only [hslash, hcolon, and_true, and_assoc]

/-- A step of the handler that does not panic. -/
def NoPanic {α : Type} (x : Except Halt α) : Prop := x ≠ .error .panicked

section NoPanic

variable {α β : Type}

theorem NoPanic.bind {x : Except Halt α} {f : α → Except Halt β} (hx : NoPanic x)
    (hf : ∀ a, x = .ok a → NoPanic (f a)) : NoPanic (x >>= f) := by
  cases x with
  | error e => exact fun h => hx (congrArg Except.error (Except.error.inj h))
  | ok a => exact hf a rfl

theorem NoPanic.pure (a : α) : NoPanic (Pure.pure a) := nofun

theorem NoPanic.check {c : Prop} [Decidable c] {x : Except Halt α} (status : Nat)
    (hx : NoPanic x) : NoPanic (if c then throw (.status status) else x) := by
  split_ifs
  · exact nofun
  · exact hx

theorem NoPanic.elim (o : Option α) (status : Nat) :
    NoPanic (o.elim (throw (.status status)) Pure.pure) := by
  cases o <;> exact nofun

end NoPanic

variable {http : HttpCrate} {sha256 : String → String} {gw : InternalGateway} {peer : SocketAddr}

theorem noPanic_namespaceDecision (headers : HeaderMap) :
    NoPanic (namespaceDecision http gw peer headers) := by
  have hcaller : NoPanic (resolveCaller gw peer) := by
    unfold resolveCaller
    split_ifs
    · split <;> exact nofun
    · exact nofun
    · exact nofun
  refine hcaller.bind fun caller _ => (NoPanic.elim _ 400).bind fun target _ => ?_
  simp only [throw_bind]
  exact .check 403 (.pure _)

theorem noPanic_resolveTarget (ns appName : String) (appId : AppId) :
    NoPanic (resolveTarget gw ns appName appId) := by
  unfold resolveTarget
  split
  · exact nofun
  · split <;> exact nofun

theorem noPanic_enforcePolicy (appId : AppId) (req : RequestHeader) :
    NoPanic (enforcePolicy http sha256 gw appId req) := by
  refine NoPanic.bind ?_ fun identity _ => ?_
  · rcases proxyHandlerAuth http sha256 gw.gatewayConfig appId _ _ _ _ with status | identity <;>
      exact nofun
  · simp only [throw_bind]
    exact .check 429 (.check 503 (.pure _))

def requestTarget (http : HttpCrate) (req : RequestHeader) : Option (String × String) :=
  parseInternalHost ((headerStr http req.headers "host").getD "")

variable {req : RequestHeader}

theorem noPanic_admitRequest (h : ∀ app ns,
      requestTarget http req = some (app, ns) → cleanName app = true ∧ cleanName ns = true) :
    NoPanic (admitRequest http sha256 gw peer req) := by
  rw [admitRequest_eq]
  simp only [throw_bind]
  refine .check 413 ((noPanic_namespaceDecision _).bind fun decision hdecision => ?_)
  refine .check 429 (NoPanic.bind ?_ fun appId _ => ?_)
  · obtain ⟨caller, app, ns⟩ := decision
    have htarget := (namespaceDecision_ok hdecision).2.1
    rw [headerStr_strip_host] at htarget
    obtain ⟨happ, hns⟩ := h app ns htarget
    have hsome := (newNamespaced_isSome_iff ns app "v1").mpr ⟨hns, happ, by decide⟩
    obtain ⟨appId, hid⟩ := Option.isSome_iff_exists.mp hsome
    simp only [hid, Option.elim_some]
    exact .pure appId
  · refine (noPanic_resolveTarget _ _ _).bind fun endpoint _ => ?_
    exact (noPanic_enforcePolicy _ _).bind fun identity _ => .pure _

/-- A gateway that lets a caller of a namespace in, whatever the size of the request. -/
def admittingGateway (ns : String) (maxBodySizeBytes : Nat) : InternalGateway :=
  { passingGateway oneTokenGateway with
    resolveIdentity := some (fun _ => some ⟨ns, ns ++ "/web:v1", 7⟩)
    maxBodySizeBytes := maxBodySizeBytes }

theorem panicked_of_target {app ns : String} (htarget : requestTarget http req = some (app, ns))
    (hbad : AppId.newNamespaced ns app "v1" = none) :
    ∃ gw, admitRequest http sha256 gw localPeer req = .error .panicked := by
  let size := ((headerStr http req.headers "content-length").bind parseU64).getD 0
  refine ⟨admittingGateway ns size, ?_⟩
  have hsize : bodyTooLarge http size req.headers = false := by
    unfold bodyTooLarge
    split
    · rename_i n hn
      simp [size, hn]
    · rfl
  have hdecision : namespaceDecision http (admittingGateway ns size) localPeer
      (stripInternalIdentityHeaders req.headers) = .ok (⟨ns, ns ++ "/web:v1", 7⟩, app, ns) := by
    rw [requestTarget, ← headerStr_strip_host] at htarget
    simp only [namespaceDecision, throw_bind, check_ok_iff, bind_ok_iff, elim_throw_ok_iff,
      pure_ok_iff]
    exact ⟨_, rfl, (app, ns), htarget, by simp, rfl⟩
  have hsmall : bodyTooLarge http (admittingGateway ns size).maxBodySizeBytes req.headers = false :=
    hsize
  rw [admitRequest_eq]
  simp only [hsmall, hdecision, throw_bind, Bool.false_eq_true, if_false]
  -- The caller's rate passes, and then the constructor is reached.
  change ((AppId.newNamespaced ns app "v1").elim (throw .panicked) pure : Except Halt AppId) >>= _ =
    _
  rw [hbad]
  rfl

/-- The version of a qualified identifier. -/
def AppId.version (id : AppId) : String := (split id.bareName ':').getD 1 "v1"

theorem AppId.bareName_chars (id : AppId) {c : Char} (hc : c ∈ id.bareName.toList) :
    c ∈ id.text.toList := by
  unfold AppId.bareName at hc
  split_ifs at hc with hslash
  · obtain ⟨first, second, rest, hsplit⟩ := split_of_mem (contains_iff_mem.mp hslash)
    rw [hsplit] at hc
    have hmem : second ∈ split id.text '/' := by simp [hsplit]
    exact (of_mem_split hmem hc).1
  · exact hc

theorem cleanName_serviceKey {id : AppId} (h : cleanName id.text = true) :
    cleanName id.ns = true ∧ cleanName id.bareAppName = true := by
  constructor
  · unfold AppId.ns
    split_ifs with hslash
    · obtain ⟨first, second, rest, hsplit⟩ := split_of_mem (contains_iff_mem.mp hslash)
      refine cleanName_of_chars h fun c hc => ?_
      rw [hsplit] at hc
      have hmem : first ∈ split id.text '/' := by simp [hsplit]
      exact (of_mem_split hmem hc).1
    · decide
  · exact cleanName_of_chars h fun c hc => id.bareName_chars (id.bareAppName_chars hc).1

theorem cleanName_qualifiedId {config : PoolConfig} {appId qualified : AppId}
    (h : qualifiedId config appId = some qualified) : cleanName qualified.text = true := by
  have hclean := (newNamespaced_isSome_iff config.ns appId.bareAppName appId.version).mp
    (Option.isSome_iff_exists.mpr ⟨qualified, h⟩)
  rw [AppId.newNamespaced_text h]
  simp only [cleanName_append, Bool.and_eq_true]
  exact ⟨⟨⟨⟨hclean.1, by decide⟩, hclean.2.1⟩, by decide⟩, hclean.2.2⟩

/-- Every instance and every service is known under a clean name. -/
structure CleanFleet (s : Fleet) : Prop where
  fleet : FleetInv s
  instances : ∀ inst ∈ s.instances, cleanName inst.qualified.text = true
  services : ∀ entry ∈ s.registries.services,
    cleanName entry.1.1 = true ∧ cleanName entry.1.2 = true

theorem cleanFleet_step (env : SpawnEnv) (s : Fleet) (a : FleetAction) (h : CleanFleet s) :
    CleanFleet (fleetStep env s a) := by
  have heffect := fleetStep_effect env s a
  refine ⟨fleetInv_step env s a h.fleet, ?_, ?_⟩
  · refine heffect.forall_instances h.fleet (fun _ _ hinst => hinst) (fun inst _ hprepare => ?_)
      h.instances
    obtain ⟨config, -, -, hqualified⟩ := prepareSpawn_ok hprepare
    exact cleanName_qualifiedId hqualified
  · intro entry hentry
    rcases heffect.registries with hsame | ⟨inst, hinst, hpublish⟩
    · exact h.services entry (hsame ▸ hentry)
    · rw [hpublish] at hentry
      -- Only a spawn that registers its endpoint adds an entry.
      have hadded : entry ∈ s.registries.services ∨
          entry = (inst.qualified.serviceKey, inst.port) := by
        unfold Registries.publish at hentry
        split at hentry
        case h_2 => exact mem_append.mp hentry |>.imp id mem_singleton.mp
        case h_5 | h_6 => exact .inl (mem_filter.mp hentry).1
        all_goals exact .inl hentry
      rcases hadded with hold | rfl
      · exact h.services entry hold
      · exact cleanName_serviceKey (h.instances inst hinst)

/-- The handler does not panic, whatever gateway the request comes to, exactly if the names in
    its host are clean. A spawn does not panic at the identifier of its own exactly if the
    namespace of the configuration and the parts of the identifier are clean. At those of the
    services it finds it never does. -/
theorem identifiers_built_iff (http : HttpCrate) (sha256 : String → String) (req : RequestHeader)
    (config : PoolConfig) (appId : AppId) (env : SpawnEnv) (start finish : Nat)
    (restored : List AppId) (run : List FleetAction) :
    ((∀ gw peer, admitRequest http sha256 gw peer req ≠ .error .panicked) ↔
      ∀ app ns, requestTarget http req = some (app, ns) →
        cleanName app = true ∧ cleanName ns = true) ∧
    ((qualifiedId config appId).isSome = true ↔ cleanName config.ns = true ∧
      cleanName appId.bareAppName = true ∧ cleanName appId.version = true) ∧
    ∀ entry ∈ (runAll (fleetStep env) (.init start finish restored) run).registries.services,
      (AppId.newNamespaced entry.1.1 entry.1.2 "v1").isSome = true := by
  refine ⟨⟨fun h app ns htarget => ?_, fun h gw peer => noPanic_admitRequest h⟩,
    newNamespaced_isSome_iff _ _ _, fun entry hentry => ?_⟩
  · cases hid : AppId.newNamespaced ns app "v1" with
    | none =>
      obtain ⟨gw, hpanics⟩ := @panicked_of_target http sha256 req app ns htarget hid
      exact absurd hpanics (h gw localPeer)
    | some id =>
      obtain ⟨hns, happ, -⟩ := (newNamespaced_isSome_iff ns app "v1").mp (by simp [hid])
      exact ⟨happ, hns⟩
  · have hclean : CleanFleet (runAll (fleetStep env) (.init start finish restored) run) :=
      invariant_run (cleanFleet_step env) run ⟨fleetInv_init start finish restored, nofun, nofun⟩
    obtain ⟨hns, hname⟩ := hclean.services entry hentry
    exact (newNamespaced_isSome_iff _ _ _).mpr ⟨hns, hname, by decide⟩

/-- A host with a star, and a namespace with a space behind it, which the validation of a
    deployment does not see. -/
theorem identifier_panics :
    admitRequest .documented (fun _ => "") (passingGateway oneTokenGateway) localPeer
        { userRequest with
          headers := MultiMap.empty.insert ⟨"host"⟩ ⟨utf8 "*.default.internal"⟩ } =
      .error .panicked ∧
    trim "shop " = (⟨"shop/api:v1"⟩ : AppId).ns ∧
    qualifiedId ⟨⟨⟨"shop/api:v1"⟩, "shop ", []⟩, 1000, 16, 1⟩ ⟨"shop/api:v1"⟩ = none := by
  refine ⟨rfl, ?_⟩
  decide +kernel

end WasmCloud
