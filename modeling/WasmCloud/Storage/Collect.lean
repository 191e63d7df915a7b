import WasmCloud.Artifact.Contents
import WasmCloud.Storage.Lifecycle

/-!
# Collecting Raw Artifacts

A collection prunes old versions, drops old metrics and purges the applications whose grace
period is over. Both collectors delete raw artifacts by version, but these have their hash as
key. A hash has no colon in it and every version has one, so no raw artifact is ever deleted.

So the artifact recorded for a version that is still stored is there; that nothing else is
holds after a collection exactly if there was nothing to collect. Pruning deletes a
configuration only where the application has none, so it leaves configurations alone.
-/

namespace WasmCloud

open List OrdTable

structure VersionEntry where
  key : String
  appName : String
  version : String
  deriving DecidableEq, Repr

structure GcStats where
  artifactsDeleted : Nat
  rawWasmDeleted : Nat
  configsDeleted : Nat
  deriving DecidableEq, Repr

/-- Which deletions of a version the database accepts. -/
structure Deletions where
  artifact : Bool
  rawWasm : Bool
  config : Bool
  deriving DecidableEq, Repr

/-- `version_sort_key`: versions that are not numbers come last. -/
def versionSortKey (version : String) : Nat :=
  (Text.parseU64 (Text.trimStartMatches version "v")).getD 18446744073709551615

namespace Store

/-- `inventory_versions`, for one application. -/
def inventoryVersions (s : Store) (appName : String) : List VersionEntry :=
  let versions := s.artifacts.entries.filterMap (fun entry =>
    match Text.rsplitOnce entry.1 ':' with
    | none => none
    | some (name, version) => if name = appName then some ⟨entry.1, name, version⟩ else none)
  versions.insertionSort (fun a b => versionSortKey a.version ≤ versionSortKey b.version)

/-- All but the last `keep` versions of every application. `apps` is the order of the map. -/
def candidatesToDelete (s : Store) (keep : Nat) (apps : List String) : List String :=
  apps.flatMap (fun appName =>
    ((s.inventoryVersions appName).take ((s.inventoryVersions appName).length - keep)).map
      VersionEntry.key)

/-- `has_active_instances`: any configuration of the application counts. -/
def hasActiveInstances (s : Store) (artifactKey : String) : Bool :=
  s.listApps.any (fun app =>
    Text.startsWith app.text ((Text.split artifactKey ':').headD "" ++ ":"))

def deleteArtifactByKey (s : Store) (key : String) : Store :=
  { s with artifacts := s.artifacts.remove key }

def deleteRawWasmByKey (s : Store) (key : String) : Store :=
  { s with rawWasm := s.rawWasm.remove key }

def deleteConfigByKey (s : Store) (key : String) : Store :=
  { s with configs := s.configs.remove key }

/-- Only a refusal of the first deletion is an error. -/
def deleteVersion (s : Store) (accepted : Deletions) (key : String) (stats : GcStats) :
    Store × Option GcStats :=
  if accepted.artifact then
    let s := s.deleteArtifactByKey key
    let s := if accepted.rawWasm then s.deleteRawWasmByKey key else s
    let s := if accepted.config then s.deleteConfigByKey key else s
    (s, some ⟨stats.artifactsDeleted + 1, stats.rawWasmDeleted + accepted.rawWasm.toNat,
      stats.configsDeleted + accepted.config.toNat⟩)
  else (s, none)

/-- The loop of `gc_artifacts`. -/
def gcVersions (accepted : String → Deletions) :
    Store → GcStats → List String → Store × Option GcStats
  | s, stats, [] => (s, some stats)
  | s, stats, key :: keys =>
    if s.hasActiveInstances key then gcVersions accepted s stats keys
    else
      match s.deleteVersion (accepted key) key stats with
      | (t, none) => (t, none)
      | (t, some stats) => gcVersions accepted t stats keys

def gcArtifacts (s : Store) (accepted : String → Deletions) (keep : Nat) (apps : List String) :
    Store × Option GcStats :=
  gcVersions accepted s ⟨0, 0, 0⟩ (s.candidatesToDelete keep apps)

/-- `gc_metrics` at the time `now`. The cutoff is taken modulo `2 ^ 64`. -/
def gcMetrics (s : Store) (now retainDays : Nat) : Store :=
  let cutoff := (now + 2 ^ 64 - retainDays * 86400) % 2 ^ 64
  { s with
    metrics := s.metrics.filter (fun entry =>
      cutoff ≤ ((Text.rsplitOnce entry.1 ':').bind (fun pair => Text.parseU64 pair.2)).getD 0) }

end Store

/-- A tick's configuration, the time, and what the database accepts. -/
structure GcRun where
  keep : Nat
  apps : List String
  retainDays : Nat
  graceSecs : Nat
  now : Nat
  accepted : String → Deletions
  metrics : Bool
  purged : Nat

namespace GcRun

/-- The first two collectors. An error of one does not keep the next from running. -/
def prune (run : GcRun) (s : Store) : Store :=
  let t := (s.gcArtifacts run.accepted run.keep run.apps).1
  if run.metrics then t.gcMetrics run.now run.retainDays else t

def perform (run : GcRun) (s : Store) : Store :=
  commitAll ((gcPlan (run.prune s) run.now run.graceSecs).writes.take run.purged) (run.prune s)

/-- Nothing is refused. -/
def Completes (run : GcRun) (s : Store) : Prop :=
  (∀ key, run.accepted key = ⟨true, true, true⟩) ∧
    (gcPlan (run.prune s) run.now run.graceSecs).writes.length ≤ run.purged

/-- Versions that pruning leaves, unless their application's grace period is over. -/
def Keeps (run : GcRun) (s : Store) (version : String) : Prop :=
  (version ∈ s.candidatesToDelete run.keep run.apps → s.hasActiveInstances version = true) ∧
    ∀ name ∈ s.expiredApps run.now run.graceSecs, Text.startsWith version (name ++ ":") = false

end GcRun

/-- A deploy event to which the network gives this answer. -/
def DeployRequest.answered (digest : List UInt8 → List UInt8) (d : DeployRequest)
    (answer : Except String HttpResponse) : DeployRequest :=
  { d with fetched := d.expectedHash.bind (fun sha256 =>
      (fetchArtifact digest sha256 answer).toOption) }

/-- An operation. `committed` is how many of its transactions get through. -/
inductive CollectAction where
  | deploy (d : DeployRequest) (answer : Except String HttpResponse) (committed : Nat)
  | remove (appId : AppId) (now : Nat) (forgotten : Bool) (committed : Nat)
  | gc (run : GcRun)

def collectStep (digest : List UInt8 → List UInt8) (nodeId : String) (s : Store) :
    CollectAction → Store
  | .deploy d answer committed =>
    commitAll ((deployPlan nodeId s (d.answered digest answer)).writes.take committed) s
  | .remove appId now forgotten committed =>
    commitAll ((removePlan s appId now forgotten).writes.take committed) s
  | .gc run => run.perform s

/-- The hash is recorded for a version that is stored. -/
def Store.Recorded (s : Store) (sha256 : String) : Prop :=
  ∃ entry ∈ s.artifacts, (entry.1, sha256) ∈ s.artifactHashes

/-- Raw artifacts are those of the stored versions. -/
def Store.Collected (s : Store) : Prop :=
  ∀ sha256, (∃ bytes, (sha256, bytes) ∈ s.rawWasm) ↔ s.Recorded sha256

/-- Raw artifacts have their hash as key, and recorded ones are there. -/
structure CollectInv (digest : List UInt8 → List UInt8) (s : Store) : Prop where
  addressed : ∀ entry ∈ s.rawWasm, Addressed digest entry.1 entry.2
  present : ∀ entry ∈ s.artifactHashes, ∃ bytes, (entry.2, bytes) ∈ s.rawWasm

/-- No key of the table is a version. -/
def NoVersions (table : RawTable) : Prop := ∀ entry ∈ table, ':' ∉ entry.1.toList

theorem colon_not_mem_hexEncode (bytes : List UInt8) : ':' ∉ (Bytes.hexEncode bytes).toList := by
  intro hmem
  rcases Bytes.hexDigit_of_mem_hexEncode hmem with ⟨n, hn, hdigit⟩
  have hnone : ∀ n < 16, ':' ≠ Bytes.hexDigit n := by decide
  exact hnone n hn hdigit

variable {s : Store}

theorem CollectInv.noVersions {digest : List UInt8 → List UInt8} (h : CollectInv digest s) :
    NoVersions s.rawWasm := by
  intro entry hentry
  rw [← h.addressed entry hentry]
  exact colon_not_mem_hexEncode _

variable {key : String}

theorem remove_of_noVersions {table : RawTable} (h : NoVersions table) (hkey : ':' ∈ key.toList) :
    table.remove key = table := by
  refine filter_eq_self fun entry hentry => decide_eq_true fun heq => ?_
  rw [← heq] at hkey
  exact h entry hentry hkey

theorem dropVersions_of_noVersions {table : RawTable} (h : NoVersions table) (appName : String) :
    Store.dropVersions table appName = table := by
  refine filter_eq_self fun entry hentry => ?_
  rw [Bool.not_eq_true', Bool.eq_false_iff]
  intro hstarts
  rcases (Text.startsWith_iff _ _).mp hstarts with ⟨rest, heq⟩
  refine h entry hentry ?_
  rw [heq, String.toList_append, String.toList_append]
  exact mem_append_left _ (mem_append_right _ (.head _))

theorem stored_of_candidate {keep : Nat} {apps : List String}
    (h : key ∈ s.candidatesToDelete keep apps) :
    ':' ∈ key.toList ∧ ∃ entry ∈ s.artifacts, entry.1 = key := by
  rcases mem_flatMap.mp h with ⟨appName, -, hkey⟩
  rcases mem_map.mp hkey with ⟨entry, hentry, rfl⟩
  have hmem := (perm_insertionSort _ _).mem_iff.mp (mem_of_mem_take hentry)
  rcases mem_filterMap.mp hmem with ⟨stored, hstored, hversion⟩
  rcases hsplit : Text.rsplitOnce stored.1 ':' with _ | ⟨name, version⟩
  · simp only [hsplit, reduceCtorEq] at hversion
  · simp only [hsplit, Option.ite_none_right_eq_some, Option.some.injEq] at hversion
    rw [← hversion.2]
    exact ⟨Text.mem_of_rsplitOnce hsplit, stored, hstored, rfl⟩

theorem no_config_of_inactive (hkey : ':' ∈ key.toList) (h : s.hasActiveInstances key = false) :
    s.configs.remove key = s.configs := by
  refine filter_eq_self fun entry hentry => decide_eq_true fun heq => ?_
  have hlisted : (⟨entry.1⟩ : AppId) ∈ s.listApps := mem_map_of_mem hentry
  have hnot := any_eq_false.mp h _ hlisted
  rcases Text.split_head_separator hkey with ⟨first, rest, t, hsplit, hcut⟩
  refine hnot ?_
  rw [hsplit, headD_cons, Text.startsWith_iff]
  exact ⟨t, heq.trans hcut⟩

/-- Deleting an idle version changes the compiled artifacts only. -/
theorem deleteVersion_eq (hkey : ':' ∈ key.toList) (hraw : NoVersions s.rawWasm)
    (hidle : s.hasActiveInstances key = false) (accepted : Deletions) (stats : GcStats) :
    ∃ stats', s.deleteVersion accepted key stats =
      if accepted.artifact then (s.deleteArtifactByKey key, some stats') else (s, none) := by
  refine ⟨⟨stats.artifactsDeleted + 1, stats.rawWasmDeleted + accepted.rawWasm.toNat,
    stats.configsDeleted + accepted.config.toNat⟩, ?_⟩
  have hrawWasm := remove_of_noVersions hraw hkey
  have hconfigs := no_config_of_inactive hkey hidle
  grind [Store.deleteVersion, Store.deleteArtifactByKey, Store.deleteRawWasmByKey,
    Store.deleteConfigByKey]

theorem gcVersions_frame {accepted : String → Deletions} {keys : List String}
    (hkeys : ∀ key ∈ keys, ':' ∈ key.toList) {s : Store} (hraw : NoVersions s.rawWasm)
    (stats : GcStats) :
    ∃ table, (Store.gcVersions accepted s stats keys).1 = { s with artifacts := table } := by
  induction keys generalizing s stats with
  | nil => exact ⟨s.artifacts, rfl⟩
  | cons key keys ih =>
    have hrest := fun k hk => hkeys k (mem_cons_of_mem key hk)
    rw [Store.gcVersions]
    split
    · exact ih hrest hraw stats
    · rename_i hidle
      rcases deleteVersion_eq (hkeys key (.head _)) hraw (Bool.eq_false_iff.mpr hidle)
        (accepted key) stats with ⟨stats', heq⟩
      cases haccepted : (accepted key).artifact with
      | false =>
        rw [heq, haccepted]
        exact ⟨s.artifacts, rfl⟩
      | true =>
        rw [heq, haccepted]
        exact @ih hrest (s.deleteArtifactByKey key) hraw stats'

/-- Pruning leaves a version unless it looks at it and finds it idle. -/
theorem mem_gcVersions {accepted : String → Deletions}
    (haccepted : ∀ key, accepted key = ⟨true, true, true⟩) {keys : List String}
    (hkeys : ∀ key ∈ keys, ':' ∈ key.toList) {s : Store} (hraw : NoVersions s.rawWasm)
    (stats : GcStats) (entry : String × List UInt8) :
    entry ∈ (Store.gcVersions accepted s stats keys).1.artifacts ↔
      entry ∈ s.artifacts ∧ (entry.1 ∈ keys → s.hasActiveInstances entry.1 = true) := by
  induction keys generalizing s stats with
  | nil => simp [Store.gcVersions]
  | cons key keys ih =>
    have hrest := fun k hk => hkeys k (mem_cons_of_mem key hk)
    rw [Store.gcVersions]
    split
    · rename_i hactive
      grind
    · rename_i hidle
      rcases deleteVersion_eq (hkeys key (.head _)) hraw (Bool.eq_false_iff.mpr hidle)
        (accepted key) stats with ⟨stats', heq⟩
      rw [heq, haccepted key]
      change
        entry ∈ (Store.gcVersions accepted (s.deleteArtifactByKey key) stats' keys).1.artifacts ↔ _
      have hsame : (s.deleteArtifactByKey key).hasActiveInstances entry.1 =
          s.hasActiveInstances entry.1 := rfl
      have hremoved : entry ∈ (s.deleteArtifactByKey key).artifacts ↔
          entry ∈ s.artifacts ∧ entry.1 ≠ key := mem_remove
      rw [@ih hrest (s.deleteArtifactByKey key) hraw stats', hsame, hremoved, mem_cons]
      grind

theorem prune_frame (run : GcRun) (hraw : NoVersions s.rawWasm) :
    ∃ table metrics, run.prune s = { s with artifacts := table, metrics := metrics } := by
  have hkeys : ∀ key ∈ s.candidatesToDelete run.keep run.apps, ':' ∈ key.toList :=
    fun _ hkey => (stored_of_candidate hkey).1
  have hframe : ∃ table, (s.gcArtifacts run.accepted run.keep run.apps).1 =
      { s with artifacts := table } := gcVersions_frame hkeys hraw ⟨0, 0, 0⟩
  rcases hframe with ⟨table, htable⟩
  rw [GcRun.prune, htable]
  split
  · exact ⟨table, _, rfl⟩
  · exact ⟨table, s.metrics, rfl⟩

theorem mem_artifacts_prune {run : GcRun} (haccepted : ∀ key, run.accepted key = ⟨true, true, true⟩)
    (hraw : NoVersions s.rawWasm) (entry : String × List UInt8) :
    entry ∈ (run.prune s).artifacts ↔
      entry ∈ s.artifacts ∧ (entry.1 ∈ s.candidatesToDelete run.keep run.apps →
        s.hasActiveInstances entry.1 = true) := by
  rw [← mem_gcVersions haccepted (fun _ hkey => (stored_of_candidate hkey).1) hraw ⟨0, 0, 0⟩,
    GcRun.prune]
  split
  · exact Iff.rfl
  · exact Iff.rfl

theorem purges_frame {t : Store} {writes : List (Store → Store)} {names : List String}
    (hwrites : ∀ w ∈ writes, w ∈ names.flatMap s.purgeTables) (hraw : NoVersions t.rawWasm) :
    (commitAll writes t).rawWasm = t.rawWasm ∧
      (commitAll writes t).artifactHashes = t.artifactHashes := by
  refine commitAll_induct (fun u => u.rawWasm = t.rawWasm ∧ u.artifactHashes = t.artifactHashes)
    (fun w hw u hu => ?_) ⟨rfl, rfl⟩
  rcases mem_flatMap.mp (hwrites w hw) with ⟨name, -, hw⟩
  rcases purge_write_cases hw with rfl | rfl | rfl | rfl | ⟨host, rfl⟩ | rfl
  · exact hu
  · refine ⟨?_, hu.2⟩
    change Store.dropVersions u.rawWasm name = _
    rw [hu.1]
    exact dropVersions_of_noVersions hraw name
  · exact hu
  · exact hu
  · exact hu
  · exact hu

theorem mem_artifacts_purge (s t : Store) (appName : String) (entry : String × List UInt8) :
    entry ∈ (commitAll (s.purgeTables appName) t).artifacts ↔
      entry ∈ t.artifacts ∧ Text.startsWith entry.1 (appName ++ ":") = false := by
  have hrest : (commitAll (s.purgeTables appName) t).artifacts =
      Store.dropVersions t.artifacts appName := by
    rw [Store.purgeTables, commitAll_append]
    -- What follows the four tables touches routes and the marker.
    refine commitAll_induct (fun u => u.artifacts = Store.dropVersions t.artifacts appName)
      (fun w hw u hu => ?_) rfl
    rcases mem_append.mp hw with hw | hw
    · rcases mem_map.mp hw with ⟨route, -, rfl⟩
      exact hu
    · rw [mem_singleton.mp hw]
      exact hu
  rw [hrest, mem_dropVersions]

theorem mem_artifacts_purges (s t : Store) (names : List String) (entry : String × List UInt8) :
    entry ∈ (commitAll (names.flatMap s.purgeTables) t).artifacts ↔ entry ∈ t.artifacts ∧
        ∀ name ∈ names, Text.startsWith entry.1 (name ++ ":") = false := by
  induction names generalizing t with
  | nil => simp [commitAll]
  | cons name names ih =>
    rw [flatMap_cons, commitAll_append, ih, mem_artifacts_purge, forall_mem_cons, and_assoc]

theorem perform_frame (run : GcRun) (hraw : NoVersions s.rawWasm) :
    (run.perform s).rawWasm = s.rawWasm ∧ (run.perform s).artifactHashes = s.artifactHashes := by
  rcases prune_frame run hraw with ⟨table, metrics, hprune⟩
  have hwrites : ∀ w ∈ (gcPlan (run.prune s) run.now run.graceSecs).writes.take run.purged,
      w ∈ ((run.prune s).expiredApps run.now run.graceSecs).flatMap (run.prune s).purgeTables :=
    fun w hw => mem_of_mem_take hw
  have hkept : NoVersions (run.prune s).rawWasm := by
    rw [hprune]
    exact hraw
  have hframe := purges_frame hwrites hkept
  rw [GcRun.perform]
  rw [hprune] at hframe ⊢
  exact hframe

theorem mem_artifacts_perform {run : GcRun} (hraw : NoVersions s.rawWasm) (hwhole : run.Completes s)
    (entry : String × List UInt8) :
    entry ∈ (run.perform s).artifacts ↔ entry ∈ s.artifacts ∧ run.Keeps s entry.1 := by
  rcases prune_frame run hraw with ⟨table, metrics, hprune⟩
  have hexpired : (run.prune s).expiredApps run.now run.graceSecs =
      s.expiredApps run.now run.graceSecs := by
    rw [hprune]
    rfl
  rw [GcRun.perform, take_of_length_le hwhole.2, gcPlan, mem_artifacts_purges,
    mem_artifacts_prune hwhole.1 hraw, hexpired, and_assoc, GcRun.Keeps]

section Runs

variable {digest : List UInt8 → List UInt8} {sha256 : String}

theorem obtainWasm_answered {d : DeployRequest} {answer : Except String HttpResponse}
    (hhash : d.expectedHash = some sha256) {cached : List (Store → Store)} {bytes : List UInt8}
    (h : obtainWasm s (d.answered digest answer) sha256 = some (cached, bytes)) :
    (cached = [] ∧ ∃ stored, (sha256, stored) ∈ s.rawWasm) ∨
      ∃ stored, cached = [fun t => t.saveRawWasm sha256 stored] ∧
        Addressed digest sha256 stored := by
  unfold obtainWasm at h
  split at h
  · rename_i entry hget
    rcases OrdTable.get?_eq_some_iff.mp hget with ⟨hmem, hkey⟩
    simp only [Option.some.injEq, Prod.mk.injEq] at h
    refine .inl ⟨h.1.symm, entry.2, ?_⟩
    rw [← hkey]
    exact hmem
  · split at h
    · rcases Option.map_eq_some_iff.mp h with ⟨stored, hfetched, heq⟩
      simp only [Prod.mk.injEq] at heq
      refine .inr ⟨stored, heq.1.symm, ?_⟩
      simp only [DeployRequest.answered, hhash, Option.bind_some] at hfetched
      rcases hfetch : fetchArtifact digest sha256 answer with e | received
      · rw [hfetch] at hfetched
        exact absurd hfetched (by simp only [Except.toOption, reduceCtorEq, not_false_eq_true])
      · rw [hfetch] at hfetched
        cases hfetched
        exact verifiedBody_ok hfetch
    · cases h

section Keeps

variable (h : CollectInv digest s)
include h

theorem collectInv_saveRawWasm {bytes : List UInt8}
    (hbytes : Addressed digest sha256 bytes) : CollectInv digest (s.saveRawWasm sha256 bytes) := by
  refine ⟨fun entry hentry => ?_, fun entry hentry => ?_⟩
  · rcases mem_insert.mp hentry with rfl | ⟨hold, -⟩
    · exact hbytes
    · exact h.addressed entry hold
  · rcases h.present entry hentry with ⟨stored, hstored⟩
    by_cases hsame : entry.2 = sha256
    · exact ⟨bytes, mem_insert.mpr (.inl (by rw [hsame]))⟩
    · exact ⟨stored, mem_insert.mpr (.inr ⟨hstored, hsame⟩)⟩

theorem collectInv_deployWrites (hpresent : ∃ stored, (sha256, stored) ∈ s.rawWasm)
    (d : DeployRequest) (artifact : List UInt8) (committed : Nat) :
    CollectInv digest (commitAll ((deployWrites d sha256 artifact).take committed) s) := by
  refine (commitAll_induct (fun t => CollectInv digest t ∧ ∃ stored, (sha256, stored) ∈ t.rawWasm)
    (fun w hw t ht => ?_) ⟨h, hpresent⟩).1
  have hw := mem_of_mem_take hw
  simp only [deployWrites, mem_cons, not_mem_nil, or_false] at hw
  rcases hw with rfl | rfl | rfl | rfl
  · exact ⟨⟨ht.1.addressed, ht.1.present⟩, ht.2⟩
  · exact ⟨⟨ht.1.addressed, ht.1.present⟩, ht.2⟩
  · refine ⟨⟨ht.1.addressed, fun entry hentry => ?_⟩, ht.2⟩
    rcases mem_insert.mp hentry with rfl | ⟨hold, -⟩
    · exact ht.2
    · exact ht.1.present entry hold
  · exact ⟨⟨ht.1.addressed, ht.1.present⟩, ht.2⟩

theorem collectInv_cached {cached : List (Store → Store)}
    (hcached : (cached = [] ∧ ∃ stored, (sha256, stored) ∈ s.rawWasm) ∨
      ∃ stored, cached = [fun t => t.saveRawWasm sha256 stored] ∧ Addressed digest sha256 stored) :
    (∀ committed, CollectInv digest (commitAll (cached.take committed) s)) ∧
      ∃ stored, (sha256, stored) ∈ (commitAll cached s).rawWasm := by
  rcases hcached with ⟨rfl, hpresent⟩ | ⟨stored, rfl, hstored⟩
  · refine ⟨fun committed => ?_, hpresent⟩
    rw [take_nil]
    exact h
  · refine ⟨fun committed => ?_, stored, mem_insert.mpr (.inl rfl)⟩
    cases committed with
    | zero => exact h
    | succ n =>
      rw [take_succ_cons, take_nil]
      exact collectInv_saveRawWasm h hstored

theorem collectInv_deploy (nodeId : String) (d : DeployRequest)
    (answer : Except String HttpResponse) (committed : Nat) :
    CollectInv digest (collectStep digest nodeId s (.deploy d answer committed)) := by
  rw [collectStep]
  rcases deployPlan_obtained nodeId s (d.answered digest answer) with
    hplan | ⟨sha256, cached, bytes, hhash, hwasm, hplan⟩
  · rw [hplan, take_nil]
    exact h
  · rcases collectInv_cached h (obtainWasm_answered hhash hwasm) with ⟨hcached, hpresent⟩
    rcases hplan with hplan | ⟨artifact, hplan⟩
    · rw [hplan]
      exact hcached committed
    · simp only [hplan, take_append]
      -- Cut short in the download, or after it.
      by_cases hle : committed ≤ cached.length
      · rw [Nat.sub_eq_zero_of_le hle, take_zero, append_nil]
        exact hcached committed
      · rw [take_of_length_le (Nat.le_of_not_le hle), commitAll_append]
        have hall := hcached cached.length
        rw [take_length] at hall
        exact collectInv_deployWrites hall hpresent _ artifact _

theorem collectInv_remove (nodeId : String) (appId : AppId) (now : Nat)
    (forgotten : Bool) (committed : Nat) :
    CollectInv digest (collectStep digest nodeId s (.remove appId now forgotten committed)) := by
  refine commitAll_induct (CollectInv digest) (fun w hw t ht => ?_) h
  rcases mem_append.mp (mem_of_mem_take hw) with hw | hw
  · rcases mem_map.mp hw with ⟨route, -, rfl⟩
    exact ⟨ht.addressed, ht.present⟩
  · rw [mem_singleton.mp hw]
    exact ⟨ht.addressed, ht.present⟩

end Keeps

theorem collectInv_step (nodeId : String) (s : Store) (a : CollectAction)
    (h : CollectInv digest s) : CollectInv digest (collectStep digest nodeId s a) := by
  cases a with
  | deploy d answer committed => exact collectInv_deploy h nodeId d answer committed
  | remove appId now forgotten committed =>
    exact collectInv_remove h nodeId appId now forgotten committed
  | gc run =>
    rcases perform_frame run h.noVersions with ⟨hraw, hhashes⟩
    change CollectInv digest (run.perform s)
    refine ⟨?_, ?_⟩
    · rw [hraw]
      exact h.addressed
    · rw [hraw, hhashes]
      exact h.present

theorem collectInv_empty : CollectInv digest emptyStore :=
  ⟨fun entry hentry => absurd hentry (not_mem_empty entry),
    fun entry hentry => absurd hentry (not_mem_empty entry)⟩

/-- After a collection the raw artifacts are those of the stored versions exactly if
    every raw artifact that was there before it is recorded for a version it keeps. -/
theorem raw_collected_iff (nodeId : String) (actions : List CollectAction) (run : GcRun)
    (hwhole : run.Completes (runAll (collectStep digest nodeId) emptyStore actions)) :
    (run.perform (runAll (collectStep digest nodeId) emptyStore actions)).Collected ↔
      ∀ raw ∈ (runAll (collectStep digest nodeId) emptyStore actions).rawWasm,
        ∃ version ∈ (runAll (collectStep digest nodeId) emptyStore actions).artifacts,
          (version.1, raw.1) ∈
              (runAll (collectStep digest nodeId) emptyStore actions).artifactHashes ∧
            run.Keeps (runAll (collectStep digest nodeId) emptyStore actions) version.1 := by
  have hinv := invariant_run (collectInv_step nodeId) actions (@collectInv_empty digest)
  generalize runAll (collectStep digest nodeId) emptyStore actions = s at hwhole hinv ⊢
  rcases perform_frame run hinv.noVersions with ⟨hraw, hhashes⟩
  have hrecorded : ∀ sha256, (run.perform s).Recorded sha256 ↔
      ∃ version ∈ s.artifacts, (version.1, sha256) ∈ s.artifactHashes ∧ run.Keeps s version.1 := by
    intro sha256
    simp only [Store.Recorded, mem_artifacts_perform hinv.noVersions hwhole, hhashes]
    constructor
    · rintro ⟨version, ⟨hmem, hkeeps⟩, hhash⟩
      exact ⟨version, hmem, hhash, hkeeps⟩
    · rintro ⟨version, hmem, hhash, hkeeps⟩
      exact ⟨version, ⟨hmem, hkeeps⟩, hhash⟩
  simp only [Store.Collected, hraw, hrecorded]
  constructor
  · intro h raw hmem
    exact (h raw.1).mp ⟨raw.2, hmem⟩
  · intro h sha256
    constructor
    · rintro ⟨bytes, hmem⟩
      exact h (sha256, bytes) hmem
    · -- What is recorded was never removed.
      rintro ⟨version, -, hhash, -⟩
      exact hinv.present _ hhash

end Runs

def deployBytes (bytes : List UInt8) : CollectAction :=
  .deploy
    { appId := ⟨"default/api:v1"⟩
      config := ⟨⟨"default/api:v1"⟩, "default", []⟩
      expectedHash := some (Bytes.hexEncode bytes)
      withinLimits := true
      targeted := true
      fetched := none
      compile := some }
    (.ok ⟨true, "200 OK", none, [.ok bytes]⟩) 5

def wholeTick : GcRun :=
  ⟨3, ["default/api"], 30, 60, 1000, fun _ => ⟨true, true, true⟩, true, 100⟩

/-- Nothing is to be collected of what was deployed once. -/
theorem raw_collected_deployed :
    (wholeTick.perform (runAll (collectStep id "node-0") emptyStore [deployBytes [1]])).Collected :=
  (raw_collected_iff "node-0" [deployBytes [1]] wholeTick ⟨fun _ => rfl, by decide⟩).mpr (by
    intro raw hraw
    have hone : raw = ("01", [1]) := mem_singleton.mp hraw
    refine ⟨("default/api:v1", [1]), mem_singleton.mpr rfl, ?_, ?_⟩
    · rw [hone]
      exact mem_singleton.mpr rfl
    · exact ⟨fun _ => rfl, fun name hname => nomatch hname⟩)

def replacedRun : List CollectAction :=
  [deployBytes [1], deployBytes [2], .remove ⟨"default/api:v1"⟩ 100 true 1]

/-- After the collection the first artifact is still there, and no version has it. -/
theorem raw_stays_behind :
    let st := runAll (collectStep id "node-0") emptyStore replacedRun
    wholeTick.Completes st ∧
      (∀ marker ∈ st.schemaMeta, ∃ name ∈ st.expiredApps wholeTick.now wholeTick.graceSecs,
        marker.1 = Store.undeployKey name) ∧
      ("01", [1]) ∈ (wholeTick.perform st).rawWasm ∧
      ¬ (wholeTick.perform st).Recorded "01" := by
  refine ⟨⟨fun _ => rfl, by decide⟩, fun marker hmarker => ?_, ?_, ?_⟩
  · have hone : marker = ("_undeploy:default/api:v1", "100") := mem_singleton.mp hmarker
    refine ⟨"default/api:v1", mem_singleton.mpr rfl, ?_⟩
    rw [hone]
    rfl
  · exact .head _
  · rintro ⟨entry, -, hhash⟩
    have hone : (entry.1, "01") = ("default/api:v1", "02") := mem_singleton.mp hhash
    have hhashes : "01" = "02" := congrArg Prod.snd hone
    nomatch hhashes

end WasmCloud
