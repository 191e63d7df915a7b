import WasmCloud.Artifact.Fetch
import WasmCloud.Lib.Run

/-!
# Hot Configuration

Some sections of a node's configuration can be changed while it runs. An update names the
fields it sets; it is merged into the sections in force, and the result is saved whole. A
node that starts takes what is saved, and its configuration file only if nothing is.

So a field that no update has set is saved all the same, with the value it had then, and a
file that says something else at the next start is not heard. The first update after a reset
fixes the file that counts. What the store and the text format do is given from outside;
`Faithful` asks for stores that are read and texts that are read back as written.
-/

namespace WasmCloud

namespace HotReload

/-- A 64-bit float by its bits. -/
structure F64 where
  bits : UInt64
  deriving DecidableEq, Repr

namespace F64

def magnitude (x : F64) : Nat := x.bits.toNat % 0x8000000000000000

def isNegative (x : F64) : Bool := 0x8000000000000000 ≤ x.bits.toNat

def isNaN (x : F64) : Bool := 0x7FF0000000000000 < x.magnitude

/-- `x <= 0.0`. -/
def leZero (x : F64) : Bool := !x.isNaN && (x.isNegative || x.magnitude == 0)

/-- `x > 1.0`. -/
def gtOne (x : F64) : Bool := !x.isNaN && !x.isNegative && 0x3FF0000000000000 < x.magnitude

end F64

structure RateLimitSection where
  defaultRequestsPerSecond : UInt32
  defaultBurstCapacity : UInt32
  defaultPerIpLimit : UInt32
  deriving DecidableEq, Repr

structure EbpfSection where
  fdSoftLimit : UInt32
  fdHardLimit : UInt32
  memLowThresholdPages : UInt64
  memCriticalThresholdPages : UInt64
  diskSlowThresholdNs : UInt64
  tcpConnLimitPerPid : UInt32
  syscallRateLimit : UInt64
  deriving DecidableEq, Repr

structure GcSection where
  artifactKeepVersions : UInt64
  gcIntervalSecs : UInt64
  diskWarningThreshold : F64
  deriving DecidableEq, Repr

structure HealthSection where
  checkIntervalSecs : UInt64
  defaultIdleTimeoutSecs : UInt64
  defaultMaxInstances : UInt64
  defaultFuelQuota : UInt64
  defaultMemoryPages : UInt32
  minDiskFreeBytes : UInt64
  minDiskFreeInodes : UInt64
  maxMemoryBytes : UInt64
  deriving DecidableEq, Repr

structure LoggingSection where
  level : String
  deriving DecidableEq, Repr

/-- Fields that no update sets and no check looks at are together in `others`. -/
structure HotConfig (ρ : Type) where
  rateLimit : RateLimitSection
  ebpf : EbpfSection
  gc : GcSection
  health : HealthSection
  logging : LoggingSection
  others : ρ
  deriving DecidableEq, Repr

structure HotConfigUpdate where
  rateLimitDefaultRps : Option UInt32
  rateLimitDefaultBurst : Option UInt32
  rateLimitDefaultPerIp : Option UInt32
  ebpfFdSoftLimit : Option UInt32
  ebpfFdHardLimit : Option UInt32
  ebpfMemLowThresholdPages : Option UInt64
  ebpfMemCriticalThresholdPages : Option UInt64
  ebpfDiskSlowThresholdNs : Option UInt64
  ebpfTcpConnLimitPerPid : Option UInt32
  ebpfSyscallRateLimit : Option UInt64
  gcIntervalSecs : Option UInt64
  gcDiskWarningThreshold : Option F64
  healthCheckIntervalSecs : Option UInt64
  healthDefaultIdleTimeoutSecs : Option UInt64
  loggingLevel : Option String
  deriving DecidableEq, Repr

variable {ρ : Type}

def mergeHotConfigUpdate (base : HotConfig ρ) (update : HotConfigUpdate) : HotConfig ρ :=
  { base with
    rateLimit := {
      defaultRequestsPerSecond :=
        update.rateLimitDefaultRps.getD base.rateLimit.defaultRequestsPerSecond
      defaultBurstCapacity :=
        update.rateLimitDefaultBurst.getD base.rateLimit.defaultBurstCapacity
      defaultPerIpLimit := update.rateLimitDefaultPerIp.getD base.rateLimit.defaultPerIpLimit }
    ebpf := {
      fdSoftLimit := update.ebpfFdSoftLimit.getD base.ebpf.fdSoftLimit
      fdHardLimit := update.ebpfFdHardLimit.getD base.ebpf.fdHardLimit
      memLowThresholdPages :=
        update.ebpfMemLowThresholdPages.getD base.ebpf.memLowThresholdPages
      memCriticalThresholdPages :=
        update.ebpfMemCriticalThresholdPages.getD base.ebpf.memCriticalThresholdPages
      diskSlowThresholdNs := update.ebpfDiskSlowThresholdNs.getD base.ebpf.diskSlowThresholdNs
      tcpConnLimitPerPid := update.ebpfTcpConnLimitPerPid.getD base.ebpf.tcpConnLimitPerPid
      syscallRateLimit := update.ebpfSyscallRateLimit.getD base.ebpf.syscallRateLimit }
    gc := { base.gc with
      gcIntervalSecs := update.gcIntervalSecs.getD base.gc.gcIntervalSecs
      diskWarningThreshold := update.gcDiskWarningThreshold.getD base.gc.diskWarningThreshold }
    health := { base.health with
      checkIntervalSecs := update.healthCheckIntervalSecs.getD base.health.checkIntervalSecs
      defaultIdleTimeoutSecs :=
        update.healthDefaultIdleTimeoutSecs.getD base.health.defaultIdleTimeoutSecs }
    logging := { level := update.loggingLevel.getD base.logging.level } }

def validLevels : List String := ["trace", "debug", "info", "warn", "error"]

/-- The errors of `validate_hot_config`, in its order. -/
def hotConfigErrors (config : HotConfig ρ) : List String :=
  let poolBytes :=
    config.health.defaultMemoryPages.toNat * 65536 * config.health.defaultMaxInstances.toNat
  ([(config.logging.level ∉ validLevels, "invalid log level '" ++ config.logging.level ++
      "', must be one of: " ++ ", ".intercalate validLevels),
    (config.gc.diskWarningThreshold.leZero || config.gc.diskWarningThreshold.gtOne,
      "disk_warning_threshold must be between 0.0 and 1.0"),
    (config.gc.artifactKeepVersions == 0, "artifact_keep_versions must be > 0"),
    (config.ebpf.fdSoftLimit ≥ config.ebpf.fdHardLimit,
      "fd_soft_limit must be less than fd_hard_limit"),
    (config.ebpf.memLowThresholdPages ≤ config.ebpf.memCriticalThresholdPages,
      "mem_low_threshold_pages must be greater than mem_critical_threshold_pages"),
    (config.health.checkIntervalSecs == 0, "check_interval_secs must be > 0"),
    (config.health.defaultFuelQuota == 0, "default_fuel_quota must be > 0"),
    (config.health.defaultMemoryPages == 0, "default_memory_pages must be > 0"),
    (config.health.defaultMaxInstances == 0, "default_max_instances must be > 0"),
    (config.health.minDiskFreeBytes == 0, "min_disk_free_bytes must be > 0"),
    (config.health.minDiskFreeInodes == 0, "min_disk_free_inodes must be > 0"),
    (config.health.maxMemoryBytes == 0, "max_memory_bytes must be > 0"),
    (poolBytes ≥ UInt64.size || poolBytes > config.health.maxMemoryBytes.toNat,
      "default_memory_pages * default_max_instances must fit within max_memory_bytes"),
    (config.rateLimit.defaultRequestsPerSecond == 0,
      "default_requests_per_second must be > 0")] : List (Bool × String)).filterMap
    (fun check => if check.1 then some check.2 else none)

def validateHotConfig (config : HotConfig ρ) : Except PlatformError Unit :=
  match hotConfigErrors config with
  | [] => .ok ()
  | errors => .error (.configValidation
      ("hot configuration validation failed:\n  - " ++ "\n  - ".intercalate errors))

/-- The text format. -/
structure Codec (ρ : Type) where
  encode : HotConfig ρ → Except String String
  decode : String → Except String (HotConfig ρ)

/-- The sections of the file the node was started with, and those in force. -/
structure HotConfigHandle (ρ : Type) where
  coldConfig : HotConfig ρ
  inner : HotConfig ρ
  deriving DecidableEq, Repr

def mergeHotConfig (_base overlay : HotConfig ρ) : HotConfig ρ := overlay

variable (codec : Codec ρ)

/-- `HotConfigHandle::new`, with what the store answers. -/
def HotConfigHandle.new (cold : HotConfig ρ)
    (stored : Except String (Option String)) : Except PlatformError (HotConfigHandle ρ) :=
  match stored with
  | .ok (some json) =>
    match codec.decode json with
    | .error e => .error (.storage e)
    | .ok overrides => .ok ⟨cold, mergeHotConfig cold overrides⟩
  | _ => .ok ⟨cold, cold⟩

/-- `apply_update`, with the answer of the store to a save. -/
def HotConfigHandle.applyUpdate (handle : HotConfigHandle ρ)
    (update : HotConfigUpdate) (saved : Except String Unit) :
    Except PlatformError (String × HotConfigHandle ρ) :=
  let updated := mergeHotConfigUpdate handle.inner update
  match validateHotConfig updated with
  | .error e => .error e
  | .ok () =>
    match codec.encode updated with
    | .error e => .error (.storage e)
    | .ok json =>
      match saved with
      | .error e => .error (.storage e)
      | .ok () => .ok (json, { handle with inner := updated })

/-- `reset`, with the answer of the store to the deletion. -/
def HotConfigHandle.reset (handle : HotConfigHandle ρ) (deleted : Except String Unit) :
    Except PlatformError (HotConfigHandle ρ) :=
  match deleted with
  | .error e => .error (.storage e)
  | .ok () => .ok { handle with inner := handle.coldConfig }

/-- What is stored under `hot_config_overrides`, and the handle of a started node. -/
structure State (ρ : Type) where
  stored : Option String
  handle : Option (HotConfigHandle ρ)
  deriving DecidableEq, Repr

/-- A node that has started for the first time. -/
def State.fresh (cold : HotConfig ρ) : State ρ := ⟨none, some ⟨cold, cold⟩⟩

/-- With the answers of the store. A start that can read it finds what is there. -/
inductive Action (ρ : Type) where
  | applyUpdate (update : HotConfigUpdate) (saved : Except String Unit)
  | reset (deleted : Except String Unit)
  | restart (cold : HotConfig ρ) (readable : Except String Unit)

inductive Entry (ρ : Type) where
  | updated (update : HotConfigUpdate)
  | reset
  | started (cold : HotConfig ρ)

/-- One step, and what took effect in it. -/
def stepEntry (s : State ρ) : Action ρ → State ρ × Option (Entry ρ)
  | .applyUpdate update saved =>
    match s.handle with
    | none => (s, none)
    | some handle =>
      match handle.applyUpdate codec update saved with
      | .error _ => (s, none)
      | .ok (json, handle) => (⟨some json, some handle⟩, some (.updated update))
  | .reset deleted =>
    match s.handle with
    | none => (s, none)
    | some handle =>
      match handle.reset deleted with
      | .error _ => (s, none)
      | .ok handle => (⟨none, some handle⟩, some .reset)
  | .restart cold readable =>
    match HotConfigHandle.new codec cold (readable.map (fun _ => s.stored)) with
    | .error _ => ({ s with handle := none }, none)
    | .ok handle => ({ s with handle := some handle }, some (.started cold))

def step (s : State ρ) (a : Action ρ) : State ρ := (stepEntry codec s a).1

/-- What took effect in a run, in order. -/
def journal (codec : Codec ρ) : State ρ → List (Action ρ) → List (Entry ρ)
  | _, [] => []
  | s, a :: as => (stepEntry codec s a).2.toList ++ journal codec (step codec s a) as

def lastSet {α : Type} (field : HotConfigUpdate → Option α) (updates : List HotConfigUpdate) :
    Option α :=
  updates.reverse.findSome? field

/-- Every field that was set, with its last value. -/
def HotConfigUpdate.last (updates : List HotConfigUpdate) : HotConfigUpdate where
  rateLimitDefaultRps := lastSet rateLimitDefaultRps updates
  rateLimitDefaultBurst := lastSet rateLimitDefaultBurst updates
  rateLimitDefaultPerIp := lastSet rateLimitDefaultPerIp updates
  ebpfFdSoftLimit := lastSet ebpfFdSoftLimit updates
  ebpfFdHardLimit := lastSet ebpfFdHardLimit updates
  ebpfMemLowThresholdPages := lastSet ebpfMemLowThresholdPages updates
  ebpfMemCriticalThresholdPages := lastSet ebpfMemCriticalThresholdPages updates
  ebpfDiskSlowThresholdNs := lastSet ebpfDiskSlowThresholdNs updates
  ebpfTcpConnLimitPerPid := lastSet ebpfTcpConnLimitPerPid updates
  ebpfSyscallRateLimit := lastSet ebpfSyscallRateLimit updates
  gcIntervalSecs := lastSet gcIntervalSecs updates
  gcDiskWarningThreshold := lastSet gcDiskWarningThreshold updates
  healthCheckIntervalSecs := lastSet healthCheckIntervalSecs updates
  healthDefaultIdleTimeoutSecs := lastSet healthDefaultIdleTimeoutSecs updates
  loggingLevel := lastSet loggingLevel updates

/-- The file at the start, the file that counts, and the updates since the last reset. -/
structure Overlay (ρ : Type) where
  cold : HotConfig ρ
  baseline : HotConfig ρ
  updates : List HotConfigUpdate

/-- A new file counts unless there are updates. -/
def Overlay.step (o : Overlay ρ) : Entry ρ → Overlay ρ
  | .updated update => { o with updates := o.updates ++ [update] }
  | .reset => ⟨o.cold, o.cold, []⟩
  | .started cold =>
    { o with cold := cold, baseline := if o.updates = [] then cold else o.baseline }

/-- What should be in force after a run. -/
def overlayOf (cold : HotConfig ρ) (entries : List (Entry ρ)) : Overlay ρ :=
  runAll Overlay.step ⟨cold, cold, []⟩ entries

/-- A text that is written for these sections is read back as them. -/
def Codec.ReadsBack (config : HotConfig ρ) : Prop :=
  ∀ json, codec.encode config = .ok json → codec.decode json = .ok config

/-- A start can read the store, and what passes the check is read back. -/
def Faithful (s : State ρ) : Action ρ → Prop
  | .applyUpdate update _ => ∀ handle ∈ s.handle,
      validateHotConfig (mergeHotConfigUpdate handle.inner update) = .ok () →
        codec.ReadsBack (mergeHotConfigUpdate handle.inner update)
  | .reset _ => True
  | .restart _ readable => readable = .ok ()

theorem lastSet_append {α : Type} (field : HotConfigUpdate → Option α)
    (updates : List HotConfigUpdate) (update : HotConfigUpdate) (x : α) :
    (lastSet field (updates ++ [update])).getD x =
      (field update).getD ((lastSet field updates).getD x) := by
  grind [lastSet]

theorem merge_last_nil (base : HotConfig ρ) :
    mergeHotConfigUpdate base (HotConfigUpdate.last []) = base := rfl

theorem merge_last (base : HotConfig ρ) (updates : List HotConfigUpdate)
    (update : HotConfigUpdate) :
    mergeHotConfigUpdate (mergeHotConfigUpdate base (HotConfigUpdate.last updates)) update =
      mergeHotConfigUpdate base (HotConfigUpdate.last (updates ++ [update])) := by
  simp [mergeHotConfigUpdate, HotConfigUpdate.last, lastSet_append]

theorem applyUpdate_ok {codec : Codec ρ} {handle handle' : HotConfigHandle ρ}
    {update : HotConfigUpdate} {saved : Except String Unit} {json : String}
    (h : handle.applyUpdate codec update saved = .ok (json, handle')) :
    validateHotConfig (mergeHotConfigUpdate handle.inner update) = .ok () ∧
      codec.encode (mergeHotConfigUpdate handle.inner update) = .ok json ∧
      handle' = ⟨handle.coldConfig, mergeHotConfigUpdate handle.inner update⟩ := by
  grind [HotConfigHandle.applyUpdate]

/-- The overlay is in force, and saved if there are updates. -/
structure Agrees (codec : Codec ρ) (s : State ρ) (o : Overlay ρ) : Prop where
  handle : s.handle =
    some ⟨o.cold, mergeHotConfigUpdate o.baseline (HotConfigUpdate.last o.updates)⟩
  unchanged : o.updates = [] → o.baseline = o.cold ∧ s.stored = none
  saved : o.updates ≠ [] → ∃ json, s.stored = some json ∧ codec.decode json =
    .ok (mergeHotConfigUpdate o.baseline (HotConfigUpdate.last o.updates))

theorem agrees_fresh (cold : HotConfig ρ) : Agrees codec (State.fresh cold) ⟨cold, cold, []⟩ :=
  ⟨rfl, fun _ => ⟨rfl, rfl⟩, fun h => absurd rfl h⟩

variable {codec} {s : State ρ} {o : Overlay ρ}

theorem Agrees.applyUpdate (h : Agrees codec s o) (update : HotConfigUpdate)
    (saved : Except String Unit) (hfaithful : Faithful codec s (.applyUpdate update saved)) :
    Agrees codec (step codec s (.applyUpdate update saved))
      (runAll Overlay.step o (stepEntry codec s (.applyUpdate update saved)).2.toList) := by
  generalize hinner : mergeHotConfigUpdate o.baseline (HotConfigUpdate.last o.updates) = inner
  have hhandle : s.handle = some ⟨o.cold, inner⟩ := by rw [h.handle, hinner]
  have hmerged : mergeHotConfigUpdate inner update =
      mergeHotConfigUpdate o.baseline (HotConfigUpdate.last (o.updates ++ [update])) := by
    rw [← hinner, merge_last]
  cases happlied : HotConfigHandle.applyUpdate codec ⟨o.cold, inner⟩ update saved with
  | error e =>
    simp only [step, stepEntry, hhandle, happlied, Option.toList_none, runAll_nil]
    exact h
  | ok result =>
    obtain ⟨json, handle⟩ := result
    obtain ⟨hvalid, hencode, rfl⟩ := applyUpdate_ok happlied
    simp only [step, stepEntry, hhandle, happlied, Option.toList_some, runAll_cons, runAll_nil]
    have hread := hfaithful _ hhandle hvalid json hencode
    dsimp only at hread
    rw [hmerged] at hread
    refine ⟨?_, ?_, fun _ => ⟨json, rfl, hread⟩⟩
    · dsimp only [Overlay.step]
      rw [hmerged]
    · intro hnil
      exact absurd (List.append_eq_nil_iff.mp hnil).2 (List.cons_ne_nil _ _)

theorem Agrees.reset (h : Agrees codec s o) (deleted : Except String Unit) :
    Agrees codec (step codec s (.reset deleted))
      (runAll Overlay.step o (stepEntry codec s (.reset deleted)).2.toList) := by
  cases deleted with
  | error e =>
    simp only [step, stepEntry, h.handle, HotConfigHandle.reset, Option.toList_none, runAll_nil]
    exact h
  | ok _ =>
    simp only [step, stepEntry, h.handle, HotConfigHandle.reset, Option.toList_some,
      runAll_cons, runAll_nil]
    exact ⟨rfl, fun _ => ⟨rfl, rfl⟩, fun hne => absurd rfl hne⟩

theorem stepEntry_restart {cold : HotConfig ρ} {handle : HotConfigHandle ρ}
    (h : HotConfigHandle.new codec cold (.ok s.stored) = .ok handle) :
    stepEntry codec s (.restart cold (.ok ())) =
      ({ s with handle := some handle }, some (.started cold)) := by
  have hread : (Except.ok () : Except String Unit).map (fun _ => s.stored) = .ok s.stored := rfl
  simp [stepEntry, hread, h]

theorem Agrees.restart (h : Agrees codec s o) (cold : HotConfig ρ)
    {readable : Except String Unit} (hreadable : readable = .ok ()) :
    Agrees codec (step codec s (.restart cold readable))
      (runAll Overlay.step o (stepEntry codec s (.restart cold readable)).2.toList) := by
  rw [hreadable, step]
  by_cases hupdates : o.updates = []
  · obtain ⟨-, hstored⟩ := h.unchanged hupdates
    have hnew : HotConfigHandle.new codec cold (.ok s.stored) = .ok ⟨cold, cold⟩ := by
      rw [hstored]
      rfl
    rw [stepEntry_restart hnew]
    simp only [Option.toList_some, runAll_cons, runAll_nil, Overlay.step, if_pos hupdates]
    refine ⟨?_, fun _ => ⟨rfl, hstored⟩, fun hne => absurd hupdates hne⟩
    dsimp only
    rw [hupdates, merge_last_nil]
  · obtain ⟨json, hstored, hdecode⟩ := h.saved hupdates
    have hnew : HotConfigHandle.new codec cold (.ok s.stored) =
        .ok ⟨cold, mergeHotConfigUpdate o.baseline (HotConfigUpdate.last o.updates)⟩ := by
      rw [hstored]
      simp [HotConfigHandle.new, hdecode, mergeHotConfig]
    rw [stepEntry_restart hnew]
    simp only [Option.toList_some, runAll_cons, runAll_nil, Overlay.step, if_neg hupdates]
    exact ⟨rfl, fun hnil => absurd hnil hupdates, fun _ => ⟨json, hstored, hdecode⟩⟩

theorem agrees_step (a : Action ρ) (hfaithful : Faithful codec s a) (h : Agrees codec s o) :
    Agrees codec (step codec s a) (runAll Overlay.step o (stepEntry codec s a).2.toList) := by
  cases a with
  | applyUpdate update saved => exact h.applyUpdate update saved hfaithful
  | reset deleted => exact h.reset deleted
  | restart cold readable => exact h.restart cold hfaithful

theorem agrees_run (as : List (Action ρ)) (hfaithful : Along (step codec) (Faithful codec) s as)
    (h : Agrees codec s o) :
    Agrees codec (runAll (step codec) s as) (runAll Overlay.step o (journal codec s as)) := by
  induction as generalizing s o with
  | nil => exact h
  | cons a as ih =>
    rw [runAll_cons, journal, runAll_append]
    exact ih hfaithful.2 (agrees_step a hfaithful.1 h)

/-- In every state of every run the node is up, and what it has in force are the
    sections of the file that counts with the fields replaced that were set
    since the last reset, each by the last value. -/
theorem hot_overlays_pinned (codec : Codec ρ) (cold : HotConfig ρ) (as : List (Action ρ))
    (hfaithful : Along (step codec) (Faithful codec) (State.fresh cold) as) :
    (runAll (step codec) (State.fresh cold) as).handle.map HotConfigHandle.inner =
      some (mergeHotConfigUpdate (overlayOf cold (journal codec (State.fresh cold) as)).baseline
        (HotConfigUpdate.last (overlayOf cold (journal codec (State.fresh cold) as)).updates)) := by
  have hagrees := agrees_run as hfaithful (agrees_fresh codec cold)
  rw [hagrees.handle]
  rfl

def fileWithRate (rate : UInt32) : HotConfig Unit :=
  ⟨⟨rate, 200, 10⟩, ⟨8192, 9728, 65536, 16384, 50000000, 10000, 100000⟩,
    ⟨5, 3600, ⟨0x3FECCCCCCCCCCCCD⟩⟩,
    ⟨10, 300, 10, 10000000, 2048, 1073741824, 10000, 4294967296⟩, ⟨"info"⟩, ()⟩

def levelCodec : Codec Unit where
  encode := fun config => .ok config.logging.level
  decode := fun level => .ok { fileWithRate 100 with logging := ⟨level⟩ }

def setLevel (level : String) : HotConfigUpdate :=
  { HotConfigUpdate.last [] with loggingLevel := some level }

def levelThenRate : List (Action Unit) :=
  [.applyUpdate (setLevel "debug") (.ok ()), .restart (fileWithRate 50) (.ok ())]

theorem hot_overlays_levelThenRate :
    (runAll (step levelCodec) (State.fresh (fileWithRate 100)) levelThenRate).handle.map
      HotConfigHandle.inner = some (mergeHotConfigUpdate (fileWithRate 100)
          (HotConfigUpdate.last [setLevel "debug"])) := by
  refine hot_overlays_pinned levelCodec (fileWithRate 100) levelThenRate ⟨?_, rfl, trivial⟩
  intro handle hhandle _ json hencode
  rw [← Option.some.inj hhandle] at hencode ⊢
  rw [← Except.ok.inj hencode]
  rfl

/-- The rate of the file at the start is not in force, though no update has set it. -/
theorem later_file_ignored :
    let start := State.fresh (fileWithRate 100)
    let overlay := overlayOf (fileWithRate 100) (journal levelCodec start levelThenRate)
    (runAll (step levelCodec) start levelThenRate).handle.map HotConfigHandle.inner ≠
      some (mergeHotConfigUpdate overlay.cold (HotConfigUpdate.last overlay.updates)) := by
  decide +kernel

end HotReload

end WasmCloud
