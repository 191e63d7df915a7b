import WasmCloud.Lib.Commit
import WasmCloud.Secrets.Provider

/-!
# Updates of Secrets

Loading a bundle, comparing its version and storing it are transactions of their own. Two
calls that compare before either stores both store, and the second one writes over the first.

Where a check succeeds only while no other call is about to store, a call whose check succeeds
has loaded the bundle that is stored, and what is stored is what the calls that have returned
lead to one after the other. Versions are numbers of 64 bits and must not come around.
-/

namespace WasmCloud

open Function List

/-- The check of a call succeeds only while no other call is about to store. -/
def UncontestedCheck (s : ProviderState) (a : ProviderAction) : Prop :=
  ∀ bundle existing, a.storage = .ok () →
    s.points a.call = .checking bundle existing.version → s.bundle = some existing →
      ∀ j, j ≠ a.call → ∀ other, s.points j ≠ .writing other

section Serial

variable {p : LocalSecretProvider} {calls : List ProviderCall} {s s' : ProviderState}
  {a : ProviderAction} {dek : Except PlatformError SymmetricKey} {first : UInt64} {writes : Nat}

/-- Before its check a call's bundle is made from what was stored after `k` writes, and after its
    check from what is stored. -/
def SerialPoint (p : LocalSecretProvider) (calls : List ProviderCall)
    (dek : Except PlatformError SymmetricKey) (first : UInt64) (writes : Nat)
    (current : AppSecretBundle) (i : Nat) : CallPoint → Prop
  | .checking b expectedVersion => ∃ loaded k, applyCall p dek calls i loaded = b ∧
      b.version = expectedVersion + 1 ∧ k ≤ writes ∧
      expectedVersion = first + UInt64.ofNat k ∧ (k = writes → loaded = current)
  | .writing b => applyCall p dek calls i current = b ∧ b.version = current.version + 1
  | .start | .locked | .generating _ | .keyed _ | .returned _ => True

/-- What is stored is what the calls that have succeeded lead to one after the other. -/
structure SerialInv (p : LocalSecretProvider) (calls : List ProviderCall)
    (dek : Except PlatformError SymmetricKey) (start : AppSecretBundle) (writes : Nat)
    (s : ProviderState) : Prop where
  serial : Serial (applyCall p dek calls) start s.Succeeded (p.current s)
  version : (p.current s).version = start.version + UInt64.ofNat writes
  points : ∀ i, SerialPoint p calls dek start.version writes (p.current s) i (s.points i)
  one : ∀ i j b b', s.points i = .writing b → s.points j = .writing b' → i = j

variable {start : AppSecretBundle} {point : CallPoint} {b : AppSecretBundle} {i : Nat}

theorem not_succeeded (hat : s.points i = point) (hpoint : point ≠ .returned (.ok ())) :
    ¬ s.Succeeded i := by
  rw [ProviderState.Succeeded, hat]
  exact hpoint

variable {bundle : Option AppSecretBundle} {dekCache : Option SymmetricKey} {lock : Option Nat}

theorem succeeded_update (hpoint : point ≠ .returned (.ok ())) (hat : ¬ s.Succeeded i) (j : Nat) :
    (ProviderState.mk bundle dekCache lock (update s.points i point)).Succeeded j ↔
      s.Succeeded j := by
  by_cases hj : j = i
  · simp [ProviderState.Succeeded, hj, hpoint] at hat ⊢
    exact hat
  · simp [ProviderState.Succeeded, hj]

theorem succeeded_ret (j : Nat) : (s.ret i (.ok ())).Succeeded j ↔ s.Succeeded j ∨ j = i := by
  simp only [ProviderState.Succeeded, ProviderState.ret, update_apply]
  split_ifs with hj
  · exact iff_of_true rfl (.inr hj)
  · simp [hj]

theorem writing_of_update {j : Nat} (hpoint : ∀ b, point ≠ .writing b)
    (h : update s.points i point j = .writing b) : s.points j = .writing b := by
  by_cases hj : j = i
  · rw [hj, update_self] at h
    exact absurd h (hpoint b)
  · rwa [update_of_ne hj] at h

theorem serialInv_update (h : SerialInv p calls dek start writes s)
    (hcurrent : p.current ⟨bundle, dekCache, lock, update s.points i point⟩ = p.current s)
    (hat : ¬ s.Succeeded i) (hpoint : point.settling = false)
    (hserial : SerialPoint p calls dek start.version writes (p.current s) i point) :
    SerialInv p calls dek start writes ⟨bundle, dekCache, lock, update s.points i point⟩ := by
  have hreturned : point ≠ .returned (.ok ()) := by
    rintro rfl
    cases hpoint
  have hwriting : ∀ b, point ≠ .writing b := by
    rintro b rfl
    cases hpoint
  refine ⟨?_, ?_, fun j => ?_, fun j j' b b' hj hj' => ?_⟩
  · rw [hcurrent]
    exact h.serial.congr (succeeded_update hreturned hat)
  · rw [hcurrent]
    exact h.version
  · grind [h.points]
  · exact h.one j j' b b' (writing_of_update hwriting hj) (writing_of_update hwriting hj')

theorem applyCall_eq {call : ProviderCall} (hcall : calls[i]? = some call) (b : AppSecretBundle) :
    applyCall p dek calls i b = call.apply p dek b := by
  rw [applyCall, hcall]
  rfl

theorem current_eq (hbundle : s.bundle = some b) : p.current s = b := by
  rw [LocalSecretProvider.current, hbundle]
  rfl

theorem writes_of_version {k : Nat} (hk : k ≤ writes) (hwrites : writes < 2 ^ 64)
    (hversion : first + UInt64.ofNat k = first + UInt64.ofNat writes) : k = writes := by
  have hnat := congrArg UInt64.toNat ((UInt64.add_right_inj first).mp hversion)
  rwa [UInt64.toNat_ofNat_of_lt' (lt_of_le_of_lt hk hwrites),
    UInt64.toNat_ofNat_of_lt' hwrites] at hnat

section Keeps

variable (h : SerialInv p calls dek start writes s)
include h

theorem serialPoint_loaded {b' : AppSecretBundle} (hbundle : s.bundle = some b)
    (happly : applyCall p dek calls i b = b') (hversion : b'.version = b.version + 1) :
    SerialPoint p calls dek start.version writes (p.current s) i (.checking b' b.version) := by
  have hcurrent := @current_eq p s b hbundle
  refine ⟨b, writes, happly, hversion, le_refl writes, ?_, fun _ => hcurrent.symm⟩
  rw [← hcurrent]
  exact h.version

theorem serialInv_findsNone (hat : s.points i = .start)
    (happly : applyCall p dek calls i (p.current s) = p.current s) :
    SerialInv p calls dek start writes (s.ret i (.ok ())) := by
  refine ⟨?_, h.version, fun j => ?_, fun j j' b b' hj hj' => ?_⟩
  · have hcommit := h.serial.commit (not_succeeded hat (fun heq => by cases heq))
      (@succeeded_ret s i)
    rw [happly] at hcommit
    exact hcommit
  · change SerialPoint p calls dek start.version writes (p.current s) j
      (update s.points i (.returned (.ok ())) j)
    rw [update_apply]
    split_ifs
    · trivial
    · exact h.points j
  · exact h.one j j' b b' (writing_of_update (fun _ heq => by cases heq) hj)
      (writing_of_update (fun _ heq => by cases heq) hj')

theorem serialInv_checks {existing : AppSecretBundle} (hwrites : writes < 2 ^ 64)
    (hat : s.points i = .checking b existing.version) (hbundle : s.bundle = some existing)
    (halone : ∀ j, j ≠ i → ∀ other, s.points j ≠ .writing other) :
    SerialInv p calls dek start writes (s.move i (.writing b)) := by
  have hcurrent := @current_eq p s existing hbundle
  have hpoint := h.points i
  rw [hat] at hpoint
  rcases hpoint with ⟨loaded, k, happly, hnext, hk, hexpected, hloaded⟩
  -- the version says that nothing was written since the bundle was loaded
  have hlast : k = writes := by
    refine writes_of_version hk hwrites (hexpected.symm.trans ?_)
    rw [← hcurrent]
    exact h.version
  refine ⟨?_, h.version, fun j => ?_, fun j j' b' b'' hj hj' => ?_⟩
  · exact h.serial.congr (succeeded_update nofun (not_succeeded hat nofun))
  · simp only [ProviderState.move, update_apply]
    split_ifs with hj
    · rw [hj]
      refine ⟨hloaded hlast ▸ happly, ?_⟩
      change b.version = (p.current s).version + 1
      rw [hnext, hcurrent]
    · exact h.points j
  · simp only [ProviderState.move, update_apply] at hj hj'
    grind

theorem serialInv_writes (hat : s.points i = .writing b) :
    SerialInv p calls dek start (writes + 1) (saveBundle s i b) := by
  have hcurrent : p.current (saveBundle s i b) = b := rfl
  have hpoint := h.points i
  rw [hat] at hpoint
  rcases hpoint with ⟨happly, hnext⟩
  have hothers : ∀ j, j ≠ i → ∀ b', s.points j ≠ .writing b' :=
    fun j hj b' hj' => hj (h.one j i b' b hj' hat)
  refine ⟨?_, ?_, fun j => ?_, fun j j' b' b'' hj hj' => ?_⟩
  · have hcommit := h.serial.commit (not_succeeded hat (fun heq => by cases heq))
      (@succeeded_ret s i)
    rw [happly] at hcommit
    exact hcommit
  · rw [hcurrent, hnext, h.version, UInt64.ofNat_add, UInt64.add_assoc]
    rfl
  · rw [hcurrent]
    simp only [saveBundle, ProviderState.ret, update_apply]
    split_ifs with hj
    · trivial
    · have hpoint := h.points j
      cases hpt : s.points j with
      | checking b' expectedVersion =>
        rw [hpt] at hpoint
        rcases hpoint with ⟨loaded, k, happly', hnext', hk, hexpected, -⟩
        -- it was loaded before this write
        exact ⟨loaded, k, happly', hnext', by omega, hexpected, fun hlast => by omega⟩
      | writing b' => exact absurd hpt (hothers j hj b')
      | _ => trivial
  · exact h.one j j' b' b'' (writing_of_update (fun _ heq => by cases heq) hj)
      (writing_of_update (fun _ heq => by cases heq) hj')

end Keeps

theorem serialInv_step (hstep : CallStep p calls s a s') (huncontested : UncontestedCheck s a)
    (hdek : DekInv p dek s) (hwrites : writes < 2 ^ 64) (h : SerialInv p calls dek start writes s) :
    ∃ writes', writes' ≤ writes + 1 ∧ SerialInv p calls dek start writes' s' := by
  have hkey := hdek.points a.call
  have hrunning {point : CallPoint} (hat : s.points a.call = point)
      (hpoint : point.settling = false) : ¬ s.Succeeded a.call := by
    refine not_succeeded hat ?_
    rintro rfl
    cases hpoint
  cases hstep with
  | stays => exact ⟨writes, by omega, h⟩
  | fails e hpoint =>
    exact ⟨writes, by omega, serialInv_update h rfl (hpoint _) rfl trivial⟩
  | hits k hat hlock hcache | locks hat hlock hcache | decrypts b k hat hbundle hdecrypted
  | generates encryptedDek hat hbundle hencrypted =>
    exact ⟨writes, by omega, serialInv_update h rfl (hrunning hat rfl) rfl trivial⟩
  | creates encryptedDek hat =>
    rw [hat] at hkey
    rcases hkey with ⟨-, -, hbundle, hencrypted⟩
    refine ⟨writes, by omega, serialInv_update h ?_ (hrunning hat rfl) rfl trivial⟩
    simp only [LocalSecretProvider.current, hbundle, hencrypted]
    rfl
  | loadsSet call key value k blob b hcall hop hat hblob hbundle =>
    rw [hat] at hkey
    have hdek' : dek = .ok k := hkey
    have happly : applyCall p dek calls a.call b = b.insertSecret key blob call.nowSecs := by
      simp only [applyCall_eq hcall, ProviderCall.apply, hop, hdek', Except.bind, hblob]
    exact ⟨writes, by omega, serialInv_update h rfl (hrunning hat rfl) rfl
      (serialPoint_loaded h hbundle happly rfl)⟩
  | loadsDelete call key b hcall hop hat hbundle hpresent =>
    have happly : applyCall p dek calls a.call b = b.removeSecret key call.nowSecs := by
      simp [applyCall_eq hcall, ProviderCall.apply, hop, hpresent]
    exact ⟨writes, by omega, serialInv_update h rfl (hrunning hat rfl) rfl
      (serialPoint_loaded h hbundle happly rfl)⟩
  | findsNone call key b hcall hop hat hbundle habsent =>
    refine ⟨writes, by omega, serialInv_findsNone h hat ?_⟩
    rw [current_eq hbundle, applyCall_eq hcall]
    simp [ProviderCall.apply, hop, habsent]
  | checks b existing hstorage hat hbundle =>
    exact ⟨writes, by omega, serialInv_checks h hwrites hat hbundle
      (huncontested b existing hstorage hat hbundle)⟩
  | writes b hat => exact ⟨writes + 1, le_refl _, serialInv_writes h hat⟩

theorem serialInv_run {actions : List ProviderAction}
    (huncontested : Along (providerStep p calls) UncontestedCheck s actions)
    (hdek : DekInv p dek s) (hwrites : writes + actions.length ≤ 2 ^ 64)
    (h : SerialInv p calls dek start writes s) :
    ∃ writes', SerialInv p calls dek start writes' (runAll (providerStep p calls) s actions) := by
  induction actions generalizing s writes with
  | nil => exact ⟨writes, h⟩
  | cons a actions ih =>
    rw [length_cons] at hwrites
    have hstep := @callStep_step p calls s a
    rcases serialInv_step hstep huncontested.1 hdek (by omega) h with ⟨writes', hle, h'⟩
    exact ih huncontested.2 (dekInv_step hstep hdek) (by omega) h'

end Serial

structure ProviderState.Fresh (s : ProviderState) : Prop where
  lock : s.lock = none
  points : ∀ i, s.points i = .start

variable {s : ProviderState}

theorem serialInv_fresh (p : LocalSecretProvider) (calls : List ProviderCall) (hs : s.Fresh) :
    SerialInv p calls (p.dek s) (p.current s) 0 s := by
  refine ⟨serial_start fun i => ?_, (UInt64.add_zero _).symm, fun i => ?_, fun i j b b' hi => ?_⟩
  · exact not_succeeded (hs.points i) nofun
  · rw [hs.points i]
    trivial
  · rw [hs.points i] at hi
    cases hi

theorem dekInv_fresh (p : LocalSecretProvider) (hs : s.Fresh) : DekInv p (p.dek s) s := by
  refine ⟨rfl, fun i => ?_⟩
  rw [hs.points i]
  trivial

/-- In a run of uncontested checks, what is stored is what the calls that have returned
    without an error lead to in some order, from what was stored in the beginning. -/
theorem updates_serial (p : LocalSecretProvider) (calls : List ProviderCall) (s : ProviderState)
    (hs : s.Fresh) (actions : List ProviderAction) (hactions : actions.length ≤ 2 ^ 64)
    (huncontested : Along (providerStep p calls) UncontestedCheck s actions) :
    ∃ order : List Nat, order.Nodup ∧
      (∀ i, i ∈ order ↔ (runAll (providerStep p calls) s actions).Succeeded i) ∧
      p.current (runAll (providerStep p calls) s actions) =
        runCalls (applyCall p (p.dek s) calls) (p.current s) order := by
  have hwrites : 0 + actions.length ≤ 2 ^ 64 := by
    rw [Nat.zero_add]
    exact hactions
  rcases serialInv_run huncontested (dekInv_fresh p hs) hwrites (serialInv_fresh p calls hs) with
    ⟨writes, hinv⟩
  exact hinv.serial

variable {i : Nat}

theorem uncontested_alone {p : LocalSecretProvider} {calls : List ProviderCall}
    {actions : List ProviderAction} (hactions : ∀ a ∈ actions, a.call = i)
    (halone : ∀ j, j ≠ i → ∀ b, s.points j ≠ .writing b) :
    Along (providerStep p calls) UncontestedCheck s actions := by
  induction actions generalizing s with
  | nil => trivial
  | cons a actions ih =>
    have ha : a.call = i := hactions a mem_cons_self
    refine ⟨fun bundle existing _ _ _ j hj => halone j (ha ▸ hj), ih ?_ fun j hj => ?_⟩
    · exact fun b hb => hactions b (mem_cons_of_mem a hb)
    · rw [points_step s (ha ▸ hj)]
      exact halone j hj

def plainProvider : LocalSecretProvider where
  appId := "app"
  cipher := ⟨fun _ _ plaintext => .ok plaintext, fun _ _ ciphertext => .ok ciphertext⟩
  kek := ⟨List.replicate 32 0, List.length_replicate⟩
  newDek := ⟨List.replicate 32 1, List.length_replicate⟩
  newDekNonce := List.replicate 12 0
  newDekSecs := 0

def twoCalls : List ProviderCall := [⟨.set "A" "1", [], 1⟩, ⟨.set "B" "2", [], 2⟩]

def noBundle : ProviderState := ⟨none, none, none, fun _ => .start⟩

/-- A call goes on, and its transaction succeeds. -/
def goOn (i : Nat) : ProviderAction := ⟨i, .ok ()⟩

def oneAfterOther : List ProviderAction := List.replicate 6 (goOn 0) ++ List.replicate 4 (goOn 1)

theorem call_of_mem_replicate {n : Nat} {a : ProviderAction} (h : a ∈ List.replicate n (goOn i)) :
    a.call = i := by
  rw [eq_of_mem_replicate h]
  rfl

/-- Two calls one after the other. -/
theorem secrets_one_after_other :
    let run := runAll (providerStep plainProvider twoCalls) noBundle oneAfterOther
    run.Succeeded 0 ∧ run.Succeeded 1 ∧
      ∃ order : List Nat, order.Nodup ∧ (∀ i, i ∈ order ↔ run.Succeeded i) ∧
        plainProvider.current run =
          runCalls (applyCall plainProvider (plainProvider.dek noBundle) twoCalls)
            (plainProvider.current noBundle) order := by
  intro run
  refine ⟨rfl, rfl, updates_serial plainProvider twoCalls noBundle ⟨rfl, fun _ => rfl⟩
    oneAfterOther (by decide) ((along_append ..).mpr ⟨?_, ?_⟩)⟩
  · refine uncontested_alone (fun a ha => call_of_mem_replicate ha) fun j _ b heq => ?_
    cases heq
  · refine uncontested_alone (fun a ha => call_of_mem_replicate ha) fun j hj b heq => ?_
    -- the first call has returned, and there is no third
    by_cases hzero : j = 0
    · rw [hzero] at heq
      cases heq
    · rw [points_run (fun a ha => (call_of_mem_replicate ha).symm ▸ hzero)] at heq
      cases heq

def emptyBundle : ProviderState :=
  ⟨some (plainProvider.newBundle []), some plainProvider.newDek, none, fun _ => .start⟩

def checksFirst : List ProviderAction :=
  [goOn 0, goOn 0, goOn 0, goOn 1, goOn 1, goOn 1, goOn 0, goOn 1]

/-- Both return without an error, and the first secret is not there. -/
theorem update_is_lost :
    let run := runAll (providerStep plainProvider twoCalls) emptyBundle checksFirst
    run.Succeeded 0 ∧ run.Succeeded 1 ∧ (plainProvider.current run).secrets.get? "A" = none ∧
      ¬ ∃ order : List Nat, order.Nodup ∧ (∀ i, i ∈ order ↔ run.Succeeded i) ∧
        plainProvider.current run =
          runCalls (applyCall plainProvider (plainProvider.dek emptyBundle) twoCalls)
            (plainProvider.current emptyBundle) order := by
  intro run
  refine ⟨rfl, rfl, by decide, ?_⟩
  rintro ⟨order, hnodup, hmem, hcurrent⟩
  have hcalls : ∀ i, i ∈ order ↔ i ∈ [0, 1] := by
    intro i
    rw [hmem, mem_pair]
    constructor
    · intro hsucceeded
      by_contra hother
      have hnone : ∀ a ∈ checksFirst, i ≠ a.call := by
        have hpair : ∀ a ∈ checksFirst, a.call = 0 ∨ a.call = 1 := by decide
        rintro a ha rfl
        exact hother (hpair a ha)
      rw [ProviderState.Succeeded, points_run hnone] at hsucceeded
      cases hsucceeded
    · rintro (rfl | rfl) <;> rfl
  have hlength := ((perm_ext_iff_of_nodup hnodup (by decide)).mpr hcalls).length_eq
  rcases length_eq_two.mp hlength with ⟨i, j, rfl⟩
  have hi := mem_pair.mp ((hcalls i).mp (.head _))
  have hj := mem_pair.mp ((hcalls j).mp (mem_cons_of_mem i (.head _)))
  -- two calls one after the other count two versions
  have hversion := congrArg AppSecretBundle.version hcurrent
  rcases hi with rfl | rfl <;> rcases hj with rfl | rfl
  all_goals nomatch hversion

end WasmCloud
