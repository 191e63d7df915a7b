import Mathlib.Algebra.BigOperators.Group.List.Basic
import Mathlib.Algebra.Order.Ring.Nat
import WasmCloud.Billing.Store

/-!
# Billing Reports

A report goes through the records of a tenant in a period once, and adds what a record says
to the totals and to the usage of the record's application. The usages are kept in a hash
map, so they come out in any order before they are sorted.

Four of the figures are sums, and are treated as one by a `UsageColumn`. As long as a sum fits
it does not matter how the records are grouped, nor where a period is cut in two.
-/

namespace WasmCloud

open List

structure AppUsage where
  appId : String
  requestCount : UInt64
  fuelConsumed : UInt64
  avgFuelPerRequest : UInt64
  wallClockMs : UInt64
  trapCount : UInt64
  deriving DecidableEq, Repr

structure TenantBillingReport where
  tenantId : String
  periodStartMs : UInt64
  periodEndMs : UInt64
  totalRequests : UInt64
  totalFuelConsumed : UInt64
  totalWallClockMs : UInt64
  peakRamBytes : UInt64
  trapCount : UInt64
  perApp : List AppUsage
  deriving DecidableEq, Repr

structure ReportLoop where
  perApp : List AppUsage
  totalFuel : UInt64
  totalWall : UInt64
  peakRam : UInt64
  trapCount : UInt64

namespace BillingReport

/-- What a record adds to the usage of its application. -/
def addRecord (r : BillingRecord) (app : AppUsage) : AppUsage :=
  { app with
    requestCount := app.requestCount + 1
    fuelConsumed := app.fuelConsumed + r.fuelConsumed
    wallClockMs := app.wallClockMs + r.wallClockMs
    trapCount := if r.isTrap then app.trapCount + 1 else app.trapCount }

/-- The entry of the record's application, which is made if there is none. -/
def addToApp (r : BillingRecord) : List AppUsage → List AppUsage
  | [] => [addRecord r ⟨r.appId, 0, 0, 0, 0, 0⟩]
  | app :: apps => if app.appId = r.appId then addRecord r app :: apps else app :: addToApp r apps

def loopStep (s : ReportLoop) (r : BillingRecord) : ReportLoop where
  perApp := addToApp r s.perApp
  totalFuel := s.totalFuel + r.fuelConsumed
  totalWall := s.totalWall + r.wallClockMs
  peakRam := max s.peakRam r.ramBytes
  trapCount := if r.isTrap then s.trapCount + 1 else s.trapCount

/-- The record is one of the tenant in the period. -/
def selects (tenantId : String) (startMs endMs : UInt64) (r : BillingRecord) : Bool :=
  r.tenantId == tenantId && decide (startMs ≤ r.timestampMs) && decide (r.timestampMs < endMs)

/-- `checked_div`, or zero. -/
def withAverage (app : AppUsage) : AppUsage :=
  { app with avgFuelPerRequest := app.fuelConsumed / app.requestCount }

/-- `generate_report`, where `order` is the order the map is gone through. -/
def generateReport (order : List AppUsage → List AppUsage) (records : List BillingRecord)
    (tenantId : String) (startMs endMs : UInt64) : TenantBillingReport :=
  let tenantRecords := records.filter (selects tenantId startMs endMs)
  let s := tenantRecords.foldl loopStep ⟨[], 0, 0, 0, 0⟩
  let apps := (order s.perApp).map withAverage
  { tenantId := tenantId
    periodStartMs := startMs
    periodEndMs := endMs
    totalRequests := .ofNat tenantRecords.length
    totalFuelConsumed := s.totalFuel
    totalWallClockMs := s.totalWall
    peakRamBytes := s.peakRam
    trapCount := s.trapCount
    perApp := apps.mergeSort (fun a b => decide (b.fuelConsumed ≤ a.fuelConsumed)) }

def generateTenantBillingReport (order : List AppUsage → List AppUsage) (store : BillingStore)
    (tenantId : String) (startMs endMs : UInt64) : TenantBillingReport :=
  generateReport order (store.getAllBillingRecords.filter (selects tenantId startMs endMs))
    tenantId startMs endMs

inductive UsageColumn where
  | requests
  | fuel
  | wallClock
  | traps
  deriving DecidableEq, Repr

namespace UsageColumn

def ofRecord : UsageColumn → BillingRecord → Nat
  | .requests, _ => 1
  | .fuel, r => r.fuelConsumed.toNat
  | .wallClock, r => r.wallClockMs.toNat
  | .traps, r => r.isTrap.toNat

def ofApp : UsageColumn → AppUsage → UInt64
  | .requests, app => app.requestCount
  | .fuel, app => app.fuelConsumed
  | .wallClock, app => app.wallClockMs
  | .traps, app => app.trapCount

def ofReport : UsageColumn → TenantBillingReport → UInt64
  | .requests, report => report.totalRequests
  | .fuel, report => report.totalFuelConsumed
  | .wallClock, report => report.totalWallClockMs
  | .traps, report => report.trapCount

def sumOf (column : UsageColumn) (records : List BillingRecord) : Nat :=
  (records.map column.ofRecord).sum

/-- The sum over the applications of a report. -/
def sumOfApps (column : UsageColumn) (apps : List AppUsage) : Nat :=
  (apps.map (fun app => (column.ofApp app).toNat)).sum

end UsageColumn

variable {column : UsageColumn} {r : BillingRecord}

theorem toNat_add_of_fits {a b : UInt64} (h : a.toNat + b.toNat < 2 ^ 64) :
    (a + b).toNat = a.toNat + b.toNat := by
  rw [UInt64.toNat_add, Nat.mod_eq_of_lt h]

theorem toNat_countTrap {a : UInt64} {isTrap : Bool} (h : a.toNat + isTrap.toNat < 2 ^ 64) :
    (if isTrap then a + 1 else a).toNat = a.toNat + isTrap.toNat := by
  cases isTrap with
  | true => exact toNat_add_of_fits h
  | false => rfl

theorem ofApp_addRecord {app : AppUsage}
    (h : (column.ofApp app).toNat + column.ofRecord r < 2 ^ 64) :
    (column.ofApp (addRecord r app)).toNat = (column.ofApp app).toNat + column.ofRecord r := by
  cases column with
  | requests | fuel | wallClock => exact toNat_add_of_fits h
  | traps => exact toNat_countTrap h

variable {apps : List AppUsage}

theorem sumOfApps_addToApp (h : column.sumOfApps apps + column.ofRecord r < 2 ^ 64) :
    column.sumOfApps (addToApp r apps) = column.sumOfApps apps + column.ofRecord r := by
  induction apps with
  | nil =>
    have hzero : (column.ofApp ⟨r.appId, 0, 0, 0, 0, 0⟩).toNat = 0 := by
      cases column with
      | requests | fuel | wallClock | traps => rfl
    have hadded := @ofApp_addRecord column r ⟨r.appId, 0, 0, 0, 0, 0⟩ (by rw [hzero]; exact h)
    rw [hzero] at hadded
    simp [addToApp, UsageColumn.sumOfApps, hadded]
  | cons app apps ih =>
    grind [UsageColumn.sumOfApps, ofApp_addRecord, addToApp]

/-- A figure that grows by what a record adds is a sum in the end. -/
theorem foldl_sum {figure : ReportLoop → Nat} (hstep : ∀ s r,
      figure s + column.ofRecord r < 2 ^ 64 → figure (loopStep s r) = figure s + column.ofRecord r)
    (records : List BillingRecord) {s : ReportLoop} (h : figure s + column.sumOf records < 2 ^ 64) :
    figure (records.foldl loopStep s) = figure s + column.sumOf records := by
  induction records generalizing s with
  | nil => rfl
  | cons r records ih =>
    simp only [UsageColumn.sumOf, map_cons, sum_cons] at h ih ⊢
    have hnext := hstep s r (by omega)
    rw [foldl_cons, ih (by omega), hnext]
    omega

theorem foldl_sum_zero (figure : ReportLoop → Nat) (hstep : ∀ s r,
      figure s + column.ofRecord r < 2 ^ 64 → figure (loopStep s r) = figure s + column.ofRecord r)
    (hzero : figure ⟨[], 0, 0, 0, 0⟩ = 0) {records : List BillingRecord}
    (h : column.sumOf records < 2 ^ 64) :
    figure (records.foldl loopStep ⟨[], 0, 0, 0, 0⟩) = column.sumOf records := by
  have hsum := foldl_sum hstep records (by rwa [hzero, Nat.zero_add])
  rwa [hzero, Nat.zero_add] at hsum

theorem foldl_peak (records : List BillingRecord) (s : ReportLoop) :
    (records.foldl loopStep s).peakRam.toNat =
      max s.peakRam.toNat ((records.map (fun r => r.ramBytes.toNat)).foldr max 0) := by
  induction records generalizing s with
  | nil => exact (Nat.max_zero _).symm
  | cons r records ih =>
    rw [foldl_cons, ih, loopStep, UInt64.toNat_max]
    exact max_assoc _ _ _

theorem mem_addToApp {id : String} :
    id ∈ (addToApp r apps).map AppUsage.appId ↔ id = r.appId ∨ id ∈ apps.map AppUsage.appId := by
  induction apps with
  | nil => simp [addToApp, addRecord]
  | cons app apps ih =>
    grind [addRecord, addToApp]

theorem nodup_addToApp (h : (apps.map AppUsage.appId).Nodup) :
    ((addToApp r apps).map AppUsage.appId).Nodup := by
  induction apps with
  | nil => simp [addToApp]
  | cons app apps ih =>
    grind [mem_addToApp, addToApp]

theorem foldl_apps (records : List BillingRecord) {s : ReportLoop}
    (h : (s.perApp.map AppUsage.appId).Nodup) :
    ((records.foldl loopStep s).perApp.map AppUsage.appId).Nodup ∧
      ∀ id, id ∈ (records.foldl loopStep s).perApp.map AppUsage.appId ↔
        (∃ r ∈ records, r.appId = id) ∨ id ∈ s.perApp.map AppUsage.appId := by
  induction records generalizing s with
  | nil => exact ⟨h, fun id => by simp⟩
  | cons r records ih =>
    obtain ⟨hnodup, hmem⟩ := @ih (loopStep s r) (nodup_addToApp h)
    refine ⟨hnodup, fun id => ?_⟩
    rw [foldl_cons, hmem, loopStep, mem_addToApp]
    rw [@eq_comm _ id]
    simp only [mem_cons, exists_eq_or_imp]
    exact or_left_comm.trans or_assoc.symm

variable {order : List AppUsage → List AppUsage} {records : List BillingRecord}
  {tenantId : String} {startMs middleMs endMs : UInt64}

theorem sumOf_filter_le (p : BillingRecord → Bool) :
    column.sumOf (records.filter p) ≤ column.sumOf records := by
  induction records with
  | nil => exact le_refl 0
  | cons r records ih =>
    grind [UsageColumn.sumOf]

theorem ofReport_eq (hfits : column.sumOf records < 2 ^ 64) :
    (column.ofReport (generateReport order records tenantId startMs endMs)).toNat =
      column.sumOf (records.filter (selects tenantId startMs endMs)) := by
  have hsum := (sumOf_filter_le (selects tenantId startMs endMs)).trans_lt hfits
  cases column with
  | requests =>
    have hlength : UsageColumn.requests.sumOf (records.filter (selects tenantId startMs endMs)) =
        (records.filter (selects tenantId startMs endMs)).length := by
      have hone : UsageColumn.requests.ofRecord = fun _ => 1 := rfl
      simp [UsageColumn.sumOf, hone]
    rw [hlength] at hsum ⊢
    exact UInt64.toNat_ofNat_of_lt' hsum
  | fuel =>
    exact foldl_sum_zero (fun s => s.totalFuel.toNat) (fun _ _ => toNat_add_of_fits) rfl hsum
  | wallClock =>
    exact foldl_sum_zero (fun s => s.totalWall.toNat) (fun _ _ => toNat_add_of_fits) rfl hsum
  | traps =>
    exact foldl_sum_zero (fun s => s.trapCount.toNat) (fun _ _ => toNat_countTrap) rfl hsum

/-- The loop over the records of a period. -/
def loopOf (records : List BillingRecord) (tenantId : String) (startMs endMs : UInt64) :
    ReportLoop :=
  (records.filter (selects tenantId startMs endMs)).foldl loopStep ⟨[], 0, 0, 0, 0⟩

theorem perApp_perm (horder : ∀ apps, (order apps).Perm apps) (records : List BillingRecord)
    (tenantId : String) (startMs endMs : UInt64) :
    (generateReport order records tenantId startMs endMs).perApp.Perm
      ((loopOf records tenantId startMs endMs).perApp.map withAverage) :=
  (mergeSort_perm _ _).trans ((horder _).map _)

theorem sumOfApps_eq (horder : ∀ apps, (order apps).Perm apps)
    (hfits : column.sumOf records < 2 ^ 64) :
    column.sumOfApps (generateReport order records tenantId startMs endMs).perApp =
      column.sumOf (records.filter (selects tenantId startMs endMs)) := by
  have hsum := (sumOf_filter_le (selects tenantId startMs endMs)).trans_lt hfits
  have hperm := ((perApp_perm horder records tenantId startMs endMs).map
    (fun app => (column.ofApp app).toNat)).sum_nat
  rw [map_map] at hperm
  have havg : (fun app => (column.ofApp app).toNat) ∘ withAverage =
      fun app => (column.ofApp app).toNat := by
    cases column with
    | requests | fuel | wallClock | traps => rfl
  rw [havg] at hperm
  exact hperm.trans (foldl_sum_zero (fun s => column.sumOfApps s.perApp)
    (fun _ _ => sumOfApps_addToApp) rfl hsum)

theorem selects_iff {r : BillingRecord} :
    selects tenantId startMs endMs r = true ↔ r.tenantId = tenantId ∧
      startMs.toNat ≤ r.timestampMs.toNat ∧ r.timestampMs.toNat < endMs.toNat := by
  simp [selects, UInt64.le_iff_toNat_le, UInt64.lt_iff_toNat_lt, and_assoc]

theorem split_perm (h₁ : startMs ≤ middleMs) (h₂ : middleMs ≤ endMs) :
    (records.filter (selects tenantId startMs middleMs) ++
      records.filter (selects tenantId middleMs endMs)).Perm
        (records.filter (selects tenantId startMs endMs)) := by
  rw [UInt64.le_iff_toNat_le] at h₁ h₂
  let early := fun r : BillingRecord => decide (r.timestampMs.toNat < middleMs.toNat)
  have hfirst : ∀ r, selects tenantId startMs middleMs r =
      (early r && selects tenantId startMs endMs r) := by
    intro r
    rw [Bool.eq_iff_iff, Bool.and_eq_true, selects_iff, selects_iff, decide_eq_true_eq]
    grind
  have hsecond : ∀ r, selects tenantId middleMs endMs r =
      (!early r && selects tenantId startMs endMs r) := by
    intro r
    rw [Bool.eq_iff_iff, Bool.and_eq_true, selects_iff, selects_iff, Bool.not_eq_true',
      decide_eq_false_iff_not]
    grind
  rw [funext hfirst, funext hsecond, ← filter_filter, ← filter_filter]
  exact filter_append_perm early _

/-- **Reports conserve usage**: the applications of a report make up its totals, which are
    those of the selected records, each with one entry and in the order of their fuel, and the
    parts of a period make up the whole. -/
theorem report_conserves (order order₁ order₂ : List AppUsage → List AppUsage)
    (horder : ∀ apps, (order apps).Perm apps) (records : List BillingRecord)
    (hfits : ∀ column : UsageColumn, column.sumOf records < 2 ^ 64) (tenantId : String)
    (startMs middleMs endMs : UInt64) (h₁ : startMs ≤ middleMs) (h₂ : middleMs ≤ endMs) :
    let report := generateReport order records tenantId startMs endMs
    let first := generateReport order₁ records tenantId startMs middleMs
    let second := generateReport order₂ records tenantId middleMs endMs
    (∀ column : UsageColumn, column.sumOfApps report.perApp = (column.ofReport report).toNat ∧
        (column.ofReport report).toNat =
          column.sumOf (records.filter (selects tenantId startMs endMs))) ∧
      (report.perApp.map AppUsage.appId).Nodup ∧
      (∀ id, id ∈ report.perApp.map AppUsage.appId ↔
        ∃ r ∈ records, selects tenantId startMs endMs r = true ∧ r.appId = id) ∧
      report.perApp.Pairwise (fun a b => b.fuelConsumed ≤ a.fuelConsumed) ∧
      (∀ column : UsageColumn, (column.ofReport report).toNat =
        (column.ofReport first).toNat + (column.ofReport second).toNat) ∧
      report.peakRamBytes.toNat = max first.peakRamBytes.toNat second.peakRamBytes.toNat := by
  intro report first second
  have hids : (report.perApp.map AppUsage.appId).Perm
      ((loopOf records tenantId startMs endMs).perApp.map AppUsage.appId) := by
    have hperm := (perApp_perm horder records tenantId startMs endMs).map AppUsage.appId
    rw [map_map] at hperm
    exact hperm
  obtain ⟨hnodup, hmem⟩ := @foldl_apps (records.filter (selects tenantId startMs endMs))
    ⟨[], 0, 0, 0, 0⟩ nodup_nil
  have hsplit := @split_perm records tenantId _ _ _ h₁ h₂
  refine ⟨fun column => ?_, hids.nodup_iff.mpr hnodup, fun id => ?_, ?_, fun column => ?_, ?_⟩
  · rw [sumOfApps_eq horder (hfits column), ofReport_eq (hfits column)]
    exact ⟨rfl, rfl⟩
  · rw [hids.mem_iff]
    refine (hmem id).trans ?_
    simp [and_assoc]
  · have hsorted := @List.pairwise_mergeSort AppUsage
      (fun a b => decide (b.fuelConsumed ≤ a.fuelConsumed))
      (fun a b c hab hbc => decide_eq_true
        (UInt64.le_trans (of_decide_eq_true hbc) (of_decide_eq_true hab)))
      (fun a b => by simp [UInt64.le_total])
      ((order (loopOf records tenantId startMs endMs).perApp).map withAverage)
    exact hsorted.imp fun h => of_decide_eq_true h
  · rw [ofReport_eq (hfits column), ofReport_eq (hfits column), ofReport_eq (hfits column)]
    refine ((hsplit.map column.ofRecord).sum_nat.symm).trans ?_
    rw [map_append, sum_append]
    rfl
  · have hpeak : ∀ selected : List BillingRecord,
        (selected.foldl loopStep ⟨[], 0, 0, 0, 0⟩).peakRam.toNat =
          (selected.map (fun r => r.ramBytes.toNat)).foldr max 0 :=
      fun selected => (foldl_peak selected _).trans (Nat.zero_max _)
    refine (hpeak _).trans (((hsplit.map _).foldr_eq 0).symm.trans ?_)
    rw [← hpeak, foldl_append, foldl_peak, ← hpeak]
    rfl

/-- `generate_tenant_billing_report` selects the records once more, which changes nothing. -/
theorem generateTenantBillingReport_eq (order : List AppUsage → List AppUsage)
    (store : BillingStore) (tenantId : String) (startMs endMs : UInt64) :
    generateTenantBillingReport order store tenantId startMs endMs =
      generateReport order store.getAllBillingRecords tenantId startMs endMs := by
  simp [generateTenantBillingReport, generateReport, filter_filter]

def fueledRecord (appId : String) (timestampMs fuel : UInt64) : BillingRecord :=
  ⟨0, "", "acme", appId, "", "", timestampMs, fuel, 0, 0, 0, 200, false, ""⟩

theorem report_conserves_acme :
    let records := [fueledRecord "web" 1 5, fueledRecord "api" 2 7, fueledRecord "web" 3 4]
    (∀ column : UsageColumn, column.sumOf records < 2 ^ 64) ∧
      (UsageColumn.fuel.ofReport (generateReport id records "acme" 0 9)).toNat =
        (UsageColumn.fuel.ofReport (generateReport id records "acme" 0 3)).toNat +
          (UsageColumn.fuel.ofReport (generateReport id records "acme" 3 9)).toNat := by
  intro records
  have hfits : ∀ column : UsageColumn, column.sumOf records < 2 ^ 64 := by
    intro column
    cases column with
    | requests | fuel | wallClock | traps => decide
  exact ⟨hfits, (report_conserves id id id (fun apps => List.Perm.refl apps) records hfits "acme"
    0 3 9 (by decide) (by decide)).2.2.2.2.1 .fuel⟩

end BillingReport

end WasmCloud
