import WasmCloud.Storage.Collect

/-!
# What a Collection Keeps

Pruning is to keep the newest versions of every name, and asks before each deletion whether
the version is in use. The answer is read from the configurations, and a version that has
one of its own always counts as used, so nothing is pruned that was not deleted already.

The other two collectors compare times, and subtract what they read from the clock. A
marker from the future, or a period that is longer than the clock has run, takes the
difference below zero. Text that is no number counts as the time zero.
-/

namespace WasmCloud

def versionKey (name : String) (number : UInt64) : String :=
  name ++ ":v" ++ toString number.toNat

namespace Store

def versionsOf (s : Store) (name : String) : List (String × List UInt8) :=
  s.artifacts.entries.filter (fun entry =>
    decide ((Text.rsplitOnce entry.1 ':').map Prod.fst = some name))

/-- Every artifact is a numbered version and has a configuration. -/
def Versioned (s : Store) : Prop :=
  ∀ entry ∈ s.artifacts, (∃ name number, entry.1 = versionKey name number) ∧
    ∃ config, (entry.1, config) ∈ s.configs

/-- The newest versions of every name are left, each with its configuration. -/
structure KeepsNewest (s after : Store) (keep : Nat) : Prop where
  stored : ∀ entry ∈ after.artifacts, entry ∈ s.artifacts
  count : ∀ name, (after.versionsOf name).length = min keep (s.versionsOf name).length
  newest : ∀ name (old new : UInt64), (∃ bytes, (versionKey name old, bytes) ∈ s.artifacts) →
    (∀ bytes, (versionKey name old, bytes) ∉ after.artifacts) →
    (∃ bytes, (versionKey name new, bytes) ∈ after.artifacts) → old < new
  configs : ∀ entry ∈ s.artifacts, ∀ config, (entry.1, config) ∈ s.configs →
    ((entry.1, config) ∈ after.configs ↔ entry ∈ after.artifacts)

variable {s : Store} {accepted : String → Deletions} {keep : Nat} {apps : List String}

theorem gcVersions_of_active {keys : List String}
    (h : ∀ key ∈ keys, s.hasActiveInstances key = true) (stats : GcStats) :
    gcVersions accepted s stats keys = (s, some stats) := by
  induction keys with
  | nil => rfl
  | cons key keys ih =>
    rw [gcVersions, if_pos (h key (.head _))]
    exact ih fun key hkey => h key (.tail _ hkey)

/-- A version with a configuration is not deleted. -/
theorem gcArtifacts_eq (h : s.Versioned) : (s.gcArtifacts accepted keep apps).1 = s := by
  rw [gcArtifacts, gcVersions_of_active]
  intro key hkey
  rcases stored_of_candidate hkey with ⟨hcolon, entry, hentry, rfl⟩
  rcases (h entry hentry).2 with ⟨config, hconfig⟩
  by_contra hidle
  rw [← no_config_of_inactive hcolon (Bool.eq_false_iff.mpr hidle)] at hconfig
  exact (OrdTable.mem_remove.mp hconfig).2 rfl

/-- Pruning a store whose versions have configurations deletes none of them, so it keeps
    the newest ones exactly if no name has more than it is to keep. -/
theorem keeps_newest_iff (s : Store) (h : s.Versioned) (accepted : String → Deletions)
    (keep : Nat) (apps : List String) :
    (s.KeepsNewest (s.gcArtifacts accepted keep apps).1 keep ↔
        ∀ name, (s.versionsOf name).length ≤ keep) ∧
      ∀ entry ∈ s.artifacts, entry ∈ (s.gcArtifacts accepted keep apps).1.artifacts := by
  rw [gcArtifacts_eq h]
  refine ⟨⟨fun hkeeps name => ?_, fun hfew => ?_⟩, fun entry hentry => hentry⟩
  · rw [hkeeps.count name]
    exact Nat.min_le_left _ _
  · refine ⟨fun entry hentry => hentry, fun name => ?_, ?_, ?_⟩
    · exact (Nat.min_eq_right (hfew name)).symm
    · intro name old new ⟨bytes, hstored⟩ hgone _
      exact absurd hstored (hgone bytes)
    · exact fun entry hentry config hconfig => iff_of_true hconfig hentry

def withVersions : List (String × UInt64) → Store
  | [] => emptyStore
  | (name, number) :: versions =>
    ((withVersions versions).storeArtifact ⟨versionKey name number⟩ [0]).saveConfig
      ⟨⟨versionKey name number⟩, "default", []⟩

theorem versioned_withVersions (versions : List (String × UInt64)) :
    (withVersions versions).Versioned := by
  induction versions with
  | nil => exact nofun
  | cons version versions ih =>
    intro entry hentry
    rcases OrdTable.mem_insert.mp hentry with rfl | ⟨hold, hother⟩
    · exact ⟨⟨_, _, rfl⟩, _, OrdTable.mem_insert.mpr (.inl rfl)⟩
    · obtain ⟨hnumbered, config, hconfig⟩ := ih entry hold
      exact ⟨hnumbered, config, OrdTable.mem_insert.mpr (.inr ⟨hconfig, hother⟩)⟩

/-- Two versions of a name and one of another are kept, as they should be. -/
theorem keeps_few_versions :
    let s := withVersions [("default/api", 1), ("default/web", 1), ("default/api", 2)]
    s.Versioned ∧ s.KeepsNewest (s.gcArtifacts (fun _ => ⟨true, true, true⟩) 2
      ["default/api", "default/web"]).1 2 := by
  intro s
  have hversioned : s.Versioned := versioned_withVersions _
  refine ⟨hversioned, ((keeps_newest_iff _ hversioned _ 2 _).1).mpr fun name => ?_⟩
  have hnames : s.artifacts.entries.map (fun entry => (Text.rsplitOnce entry.1 ':').map Prod.fst) =
      [some "default/api", some "default/api", some "default/web"] := by
    decide +kernel
  have hcount : (s.versionsOf name).length =
      [some "default/api", some "default/api", some "default/web"].count (some name) := by
    rw [← hnames, List.count, List.countP_map, List.countP_eq_length_filter]
    exact congrArg List.length (List.filter_congr fun _ _ => (beq_eq_decide _ _).symm)
  rw [hcount]
  by_cases hweb : name = "default/web"
  · rw [hweb]
    decide
  · grind

/-- Of two versions one is to be kept, and both are. -/
theorem old_version_stays :
    let s := withVersions [("default/api", 1), ("default/api", 2)]
    (s.versionsOf "default/api").map Prod.fst = ["default/api:v1", "default/api:v2"] ∧
      ((s.gcArtifacts (fun _ => ⟨true, true, true⟩) 1 ["default/api"]).1.versionsOf
        "default/api").map Prod.fst = ["default/api:v1", "default/api:v2"] := by
  decide +kernel

def metricTime (key : String) : Option Nat :=
  (Text.rsplitOnce key ':').bind (fun pair => Text.parseU64 pair.2)

/-- No difference of times is below zero, and nothing is deleted before its time. -/
structure CutoffsExact (s : Store) (now graceSecs retainDays : Nat) : Prop where
  markers : ∀ name value, (undeployKey name, value) ∈ s.schemaMeta →
    (Text.parseU64 value).getD 0 ≤ now
  cutoff : retainDays * 86400 ≤ now
  purged : ∀ name ∈ s.expiredApps now graceSecs, ∀ value, (undeployKey name, value) ∈ s.schemaMeta →
    ∃ time, Text.parseU64 value = some time ∧ time + graceSecs < now
  deleted : ∀ entry ∈ s.metrics, entry ∉ (s.gcMetrics now retainDays).metrics →
    ∃ time, metricTime entry.1 = some time ∧ time + retainDays * 86400 < now

theorem wrapped_sub {a b : Nat} (hle : b ≤ a) (ha : a < 2 ^ 64) :
    (a + 2 ^ 64 - b) % 2 ^ 64 = a - b := by
  omega

theorem mem_expiredApps {now graceSecs : Nat} {name : String} :
    name ∈ s.expiredApps now graceSecs ↔ ∃ value, (undeployKey name, value) ∈ s.schemaMeta ∧
      graceSecs < (now + 2 ^ 64 - (Text.parseU64 value).getD 0) % 2 ^ 64 := by
  rw [expiredApps, List.mem_filterMap]
  constructor
  · rintro ⟨entry, hentry, hexpired⟩
    rcases hstrip : Text.stripPrefix entry.1 "_undeploy:" with _ | appName
    · simp [hstrip] at hexpired
    · simp only [hstrip, Option.ite_none_right_eq_some, Option.some.injEq] at hexpired
      rw [Text.stripPrefix_eq_some_iff, hexpired.2] at hstrip
      refine ⟨entry.2, ?_, hexpired.1⟩
      rw [undeployKey, ← hstrip]
      exact hentry
  · rintro ⟨value, hmarker, hexpired⟩
    refine ⟨(undeployKey name, value), hmarker, ?_⟩
    simp only [undeployKey, Text.stripPrefix_append, if_pos hexpired]

/-- Both cut-offs are exact exactly if no marker is from the future, the period of the
    metrics is not longer than the clock has run, and text that is no time is not old enough
    to be deleted as if it were the time zero. -/
theorem cutoffs_exact_iff (s : Store) (now graceSecs : UInt64) (retainDays : UInt32) :
    s.CutoffsExact now.toNat graceSecs.toNat retainDays.toNat ↔
      (∀ name value, (undeployKey name, value) ∈ s.schemaMeta → match Text.parseU64 value with
        | some time => time ≤ now.toNat
        | none => now ≤ graceSecs) ∧
      retainDays.toNat * 86400 ≤ now.toNat ∧
      ∀ entry ∈ s.metrics, metricTime entry.1 = none → now.toNat = retainDays.toNat * 86400 := by
  have hnow := now.toNat_lt
  have hkept : ∀ entry ∈ s.metrics, retainDays.toNat * 86400 ≤ now.toNat →
      (entry ∉ (s.gcMetrics now.toNat retainDays.toNat).metrics ↔
        (metricTime entry.1).getD 0 < now.toNat - retainDays.toNat * 86400) := by
    intro entry hentry hle
    rw [gcMetrics, wrapped_sub hle hnow, OrdTable.mem_filter, decide_eq_true_eq, ← Nat.not_le]
    exact not_congr (and_iff_right hentry)
  constructor
  · intro h
    refine ⟨fun name value hmarker => ?_, h.cutoff, fun entry hentry hnone => ?_⟩
    · have hmarkers := h.markers name value hmarker
      rcases htime : Text.parseU64 value with _ | time
      · by_contra hold
        -- The marker counts as one from the time zero.
        have hexpired : name ∈ s.expiredApps now.toNat graceSecs.toNat := by
          refine mem_expiredApps.mpr ⟨value, hmarker, ?_⟩
          rw [wrapped_sub hmarkers hnow, htime]
          exact UInt64.lt_iff_toNat_lt.mp (UInt64.not_le.mp hold)
        rcases h.purged name hexpired value hmarker with ⟨time, hsome, -⟩
        cases htime.symm.trans hsome
      · rwa [htime] at hmarkers
    · by_contra hlater
      have hlt := Nat.lt_of_le_of_ne h.cutoff (Ne.symm hlater)
      have hdeleted := (hkept entry hentry h.cutoff).mpr (by
        rw [hnone]
        exact Nat.sub_pos_of_lt hlt)
      rcases h.deleted entry hentry hdeleted with ⟨time, hsome, -⟩
      cases hnone.symm.trans hsome
  · intro ⟨hmarkers, hcutoff, hmetrics⟩
    have hpast : ∀ name value, (undeployKey name, value) ∈ s.schemaMeta →
        (Text.parseU64 value).getD 0 ≤ now.toNat := by
      intro name value hmarker
      have htime := hmarkers name value hmarker
      split at htime
      next time hsome => exact hsome ▸ htime
      next hnone => exact hnone ▸ Nat.zero_le _
    refine ⟨hpast, hcutoff, fun name hname value hmarker => ?_, fun entry hentry hgone => ?_⟩
    · rcases mem_expiredApps.mp hname with ⟨value', hmarker', hexpired⟩
      cases OrdTable.eq_of_key_eq hmarker' hmarker rfl
      rw [wrapped_sub (hpast name value hmarker) hnow] at hexpired
      have htime := hmarkers name value hmarker
      split at htime
      next time hsome =>
        rw [hsome, Option.getD_some] at hexpired
        exact ⟨time, hsome, by omega⟩
      next hnone =>
        rw [hnone, Option.getD_none] at hexpired
        have hle := UInt64.le_iff_toNat_le.mp htime
        omega
    · have hold := (hkept entry hentry hcutoff).mp hgone
      rcases htime : metricTime entry.1 with _ | time
      · have hnever := hmetrics entry hentry htime
        omega
      · rw [htime, Option.getD_some] at hold
        exact ⟨time, rfl, by omega⟩

def aheadStore : Store :=
  { emptyStore.markUndeployed "default/api:v1" 1000 with
    metrics := emptyStore.metrics.insert ("default/api:v1:960", "") }

/-- It is purged within its grace period, and so is the metric of this minute. -/
theorem purged_too_early : aheadStore.expiredApps 999 3600 = ["default/api:v1"] ∧
      (aheadStore.gcMetrics 999 1).metrics.entries = [] := by
  decide +kernel

end Store

end WasmCloud
