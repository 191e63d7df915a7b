import Mathlib.Data.List.Count
import Mathlib.Data.List.Rotate
import WasmCloud.Routing.UpstreamHealth

/-!
# Round-Robin Selection

A call of `next` has the read lock of the registry from the lookup until it returns, and takes
its turn by adding to an atomic counter. Any number of calls can be under way, and what adds or
removes an instance waits until none is. So a call finds at its turn the list it has looked up,
and the turns of an application whose instances stay go round its list. What a call does behind
its turn is on its own data and part of that step.
-/

namespace WasmCloud

/-- How far a call of `next` is: it has the lock and the list, or it has returned. -/
inductive NextPoint where
  | locked (addrs : List UpstreamEndpoint)
  | returned (result : Option UpstreamEndpoint)
  deriving DecidableEq, Repr

structure NextCall where
  appId : String
  point : NextPoint
  deriving DecidableEq, Repr

/-- The registry and the calls of `next`. `turns` is the history: the application and what the
    call returned, in the order in which the counters were added to. -/
structure RoundRobin where
  registry : UpstreamHealthRegistry
  calls : List NextCall
  turns : List (String × Option UpstreamEndpoint)

/-- What happens. `lock` is a new call of `next` that gets the lock. -/
inductive SelectAction where
  | add (appId : String) (endpoint : UpstreamEndpoint)
  | remove (appId : String) (addr : SocketAddr)
  | lock (appId : String)
  | turn (call : Nat)

/-- `counter.fetch_add` of an application. The counter is a machine word. -/
def UpstreamHealthRegistry.fetchAdd (r : UpstreamHealthRegistry) (appId : String) :
    UpstreamHealthRegistry × Nat :=
  match r.inner appId with
  | none => (r, 0)
  | some (counter, addrs) => (r.setEntry appId (some ((counter + 1) % 2 ^ 64, addrs)), counter)

namespace RoundRobin

def new : RoundRobin := ⟨.new, [], []⟩

/-- Nobody has the read lock. -/
def free (s : RoundRobin) : Bool :=
  s.calls.all fun call => match call.point with
    | .locked _ => false
    | .returned _ => true

def step (s : RoundRobin) : SelectAction → RoundRobin
  | .add appId endpoint =>
    if s.free then { s with registry := s.registry.add appId endpoint } else s
  | .remove appId addr =>
    if s.free then { s with registry := s.registry.remove appId addr } else s
  | .lock appId =>
    let addrs := s.registry.endpoints appId
    { s with calls := s.calls ++ [⟨appId, if addrs = [] then .returned none else .locked addrs⟩] }
  | .turn i =>
    match s.calls[i]? with
    | some ⟨appId, .locked addrs⟩ =>
      let (registry, turn) := s.registry.fetchAdd appId
      let result := addrs[turn % addrs.length]?
      ⟨registry, s.calls.set i ⟨appId, .returned result⟩, s.turns ++ [(appId, result)]⟩
    | _ => s

/-- What the calls for an application return that have their turn between two states. -/
def turnsOf (s t : RoundRobin) (appId : String) : List (Option UpstreamEndpoint) :=
  ((t.turns.drop s.turns.length).filter fun turn => decide (turn.1 = appId)).map Prod.snd

end RoundRobin

section Registry

open UpstreamHealthRegistry Function

variable {r : UpstreamHealthRegistry} {appId id : String} {counter : Nat}
  {addrs : List UpstreamEndpoint}

theorem endpoints_of_inner (h : r.inner appId = some (counter, addrs)) :
    r.endpoints appId = addrs := by
  rw [endpoints, h]
  rfl

/-- Adding keeps the counter, or starts one at zero. -/
theorem inner_add (endpoint : UpstreamEndpoint) :
    (r.add appId endpoint).inner = update r.inner appId (some (((r.inner appId).getD (0, [])).1,
      if r.isRegistered appId endpoint.addr then r.endpoints appId
      else r.endpoints appId ++ [endpoint])) := by
  cases hinner : r.inner appId with
  | none => simp [add, setEntry, endpoints, hinner]
  | some entry => simp [add, setEntry, endpoints, hinner]

theorem inner_remove (addr : SocketAddr) :
    (r.remove appId addr).inner = update r.inner appId ((r.inner appId).bind fun entry =>
      let left := entry.2.filter fun endpoint => decide (endpoint.addr ≠ addr)
      if left = [] then none else some (entry.1, left)) := by
  unfold remove
  cases hinner : r.inner appId with
  | none => exact (hinner ▸ update_eq_self appId r.inner).symm
  | some entry => rfl

theorem inner_fetchAdd (h : r.inner appId = some (counter, addrs)) :
    r.fetchAdd appId = (r.setEntry appId (some ((counter + 1) % 2 ^ 64, addrs)), counter) := by
  rw [fetchAdd, h]

theorem inner_fetchAdd_of_ne (hne : id ≠ appId) : (r.fetchAdd appId).1.inner id = r.inner id := by
  unfold fetchAdd
  split
  · rfl
  · exact update_of_ne hne ..

theorem endpoints_fetchAdd (appId id : String) :
    (r.fetchAdd appId).1.endpoints id = r.endpoints id := by
  by_cases hid : id = appId
  · subst hid
    cases hinner : r.inner id with
    | none => rw [fetchAdd, hinner]
    | some entry =>
      rw [inner_fetchAdd hinner, endpoints_of_inner hinner]
      exact endpoints_of_inner (update_self ..)
  · rw [endpoints, inner_fetchAdd_of_ne hid, endpoints]

end Registry

namespace RoundRobin

variable {s : RoundRobin} {appId : String} {i : Nat} {addrs : List UpstreamEndpoint}

/-- What a turn does. -/
theorem turn_cases (s : RoundRobin) (i : Nat) :
    s.step (.turn i) = s ∨ ∃ appId addrs, s.calls[i]? = some ⟨appId, .locked addrs⟩ ∧
      s.step (.turn i) =
        ⟨(s.registry.fetchAdd appId).1,
          s.calls.set i ⟨appId, .returned addrs[(s.registry.fetchAdd appId).2 % addrs.length]?⟩,
          s.turns ++ [(appId, addrs[(s.registry.fetchAdd appId).2 % addrs.length]?)]⟩ := by
  rw [step]
  split
  · exact .inr ⟨_, _, ‹_›, rfl⟩
  · exact .inl rfl

/-- No list is empty or has an address twice, and no counter is above `n`. -/
def Listed (r : UpstreamHealthRegistry) (n : Nat) : Prop :=
  ∀ appId entry, r.inner appId = some entry →
    entry.2 ≠ [] ∧ (entry.2.map UpstreamEndpoint.addr).Nodup ∧ entry.1 ≤ n

/-- The list a call has looked up is that of its application, and not empty. -/
def Held (s : RoundRobin) : Prop :=
  ∀ call ∈ s.calls, ∀ addrs, call.point = .locked addrs →
    addrs ≠ [] ∧ s.registry.endpoints call.appId = addrs

theorem listed_update {r r' : UpstreamHealthRegistry} {n n' : Nat} (h : Listed r n) (hle : n ≤ n')
    {entry : Option (Nat × List UpstreamEndpoint)}
    (hinner : r'.inner = Function.update r.inner appId entry)
    (hentry : ∀ e, entry = some e → e.2 ≠ [] ∧ (e.2.map UpstreamEndpoint.addr).Nodup ∧ e.1 ≤ n') :
    Listed r' n' := by
  intro id e he
  rw [hinner] at he
  by_cases hid : id = appId
  · rw [hid, Function.update_self] at he
    exact hentry e he
  · rw [Function.update_of_ne hid] at he
    obtain ⟨hne, hnodup, hn⟩ := h id e he
    exact ⟨hne, hnodup, hn.trans hle⟩

theorem Listed.add {r : UpstreamHealthRegistry} {n : Nat} (h : Listed r n) (appId : String)
    (endpoint : UpstreamEndpoint) : Listed (r.add appId endpoint) n := by
  refine listed_update h le_rfl (inner_add endpoint) ?_
  rintro entry ⟨⟩
  cases hold : r.inner appId with
  | none => simp [UpstreamHealthRegistry.isRegistered, UpstreamHealthRegistry.endpoints, hold]
  | some old =>
    obtain ⟨hne, hnodup, hle⟩ := h appId old hold
    rw [UpstreamHealthRegistry.isRegistered, endpoints_of_inner hold]
    split_ifs with hreg
    · exact ⟨hne, hnodup, hle⟩
    · refine ⟨List.append_ne_nil_of_left_ne_nil hne _, ?_, hle⟩
      rw [List.map_append, List.nodup_append]
      refine ⟨hnodup, List.nodup_singleton _, fun x hx y hy hxy => hreg ?_⟩
      obtain ⟨e, he, rfl⟩ := List.mem_map.mp hx
      exact List.any_eq_true.mpr ⟨e, he, decide_eq_true (hxy.trans (List.mem_singleton.mp hy))⟩

theorem Listed.remove {r : UpstreamHealthRegistry} {n : Nat} (h : Listed r n) (appId : String)
    (addr : SocketAddr) : Listed (r.remove appId addr) n := by
  refine listed_update h le_rfl (inner_remove addr) fun entry hentry => ?_
  obtain ⟨old, hold, hleft⟩ := Option.bind_eq_some_iff.mp hentry
  obtain ⟨-, hnodup, hle⟩ := h appId old hold
  dsimp only at hleft
  split_ifs at hleft with hempty
  rw [← Option.some.inj hleft]
  exact ⟨hempty, hnodup.sublist (List.filter_sublist.map _), hle⟩

theorem Listed.fetchAdd {r : UpstreamHealthRegistry} {n : Nat} (h : Listed r n)
    (appId : String) : Listed (r.fetchAdd appId).1 (n + 1) := by
  cases hinner : r.inner appId with
  | none =>
    rw [UpstreamHealthRegistry.fetchAdd, hinner]
    exact fun id e he => ⟨(h id e he).1, (h id e he).2.1, Nat.le_succ_of_le (h id e he).2.2⟩
  | some entry =>
    obtain ⟨hne, hnodup, hle⟩ := h appId entry hinner
    rw [inner_fetchAdd hinner]
    refine listed_update h n.le_succ rfl ?_
    rintro e ⟨⟩
    exact ⟨hne, hnodup, (Nat.mod_le _ _).trans (Nat.add_le_add_right hle 1)⟩

structure RoundInv (s : RoundRobin) : Prop where
  listed : Listed s.registry s.turns.length
  held : Held s

/-- While nobody has the lock, the registry may change. -/
theorem held_of_free (hfree : s.free = true) (registry : UpstreamHealthRegistry) :
    Held { s with registry } := by
  intro call hmem addrs hpoint
  have hreturned := List.all_eq_true.mp hfree call hmem
  rw [hpoint] at hreturned
  nomatch hreturned

theorem roundInv_step (s : RoundRobin) (a : SelectAction) (h : RoundInv s) :
    RoundInv (s.step a) := by
  cases a with
  | add id endpoint =>
    rw [step]
    split_ifs with hfree
    · exact ⟨h.listed.add id endpoint, held_of_free hfree _⟩
    · exact h
  | remove id addr =>
    rw [step]
    split_ifs with hfree
    · exact ⟨h.listed.remove id addr, held_of_free hfree _⟩
    · exact h
  | lock id =>
    refine ⟨h.listed, fun call hmem addrs hpoint => ?_⟩
    rcases List.mem_append.mp hmem with hold | hnew
    · exact h.held call hold addrs hpoint
    · cases List.mem_singleton.mp hnew
      dsimp only at hpoint
      split_ifs at hpoint with hempty
      cases hpoint
      exact ⟨hempty, rfl⟩
  | turn i =>
    rcases turn_cases s i with heq | ⟨appId, addrs, -, heq⟩
    · rwa [heq]
    · rw [heq]
      refine ⟨?_, fun call hmem addrs hpoint => ?_⟩
      · rw [List.length_append]
        exact h.listed.fetchAdd appId
      · rw [endpoints_fetchAdd]
        rcases List.mem_or_eq_of_mem_set hmem with hold | rfl
        · exact h.held call hold addrs hpoint
        · nomatch hpoint

theorem roundInv_run (actions : List SelectAction) : RoundInv (runAll step new actions) :=
  invariant_run roundInv_step actions ⟨nofun, nofun⟩

/-- A call returns nothing exactly if the application has no instance. -/
theorem returned_none_iff (h : RoundInv s) {a : SelectAction} {result : Option UpstreamEndpoint}
    (hbefore : s.calls[i]? ≠ some ⟨appId, .returned result⟩)
    (hafter : (s.step a).calls[i]? = some ⟨appId, .returned result⟩) :
    result = none ↔ s.registry.endpoints appId = [] := by
  cases a with
  | add id endpoint | remove id addr =>
    rw [step] at hafter
    split_ifs at hafter
    · exact absurd hafter hbefore
    · exact absurd hafter hbefore
  | lock id =>
    rw [step, List.getElem?_append] at hafter
    split_ifs at hafter with hold hempty
    · exact absurd hafter hbefore
    · cases List.mem_singleton.mp (List.mem_of_getElem? hafter)
      exact iff_of_true rfl hempty
    · nomatch List.mem_singleton.mp (List.mem_of_getElem? hafter)
  | turn j =>
    rcases turn_cases s j with heq | ⟨id, addrs, hcall, heq⟩
    · exact absurd (heq ▸ hafter) hbefore
    · rw [heq] at hafter
      by_cases hij : j = i
      · subst hij
        rw [List.getElem?_set_self (List.getElem?_eq_some_iff.mp hcall).1] at hafter
        cases hafter
        obtain ⟨hne, hends⟩ := h.held _ (List.mem_of_getElem? hcall) addrs rfl
        have hlt := Nat.mod_lt (s.registry.fetchAdd appId).2 (List.length_pos_iff.mpr hne)
        rw [hends, List.getElem?_eq_getElem hlt]
        exact iff_of_false nofun hne
      · exact absurd ((List.getElem?_set_ne hij).symm.trans hafter) hbefore

/-- As many turns as there are instances come to each of them once, wherever they begin. -/
theorem count_rounds {L : List UpstreamEndpoint} (hnodup : L.Nodup) {e : UpstreamEndpoint}
    (he : e ∈ L) (k c : Nat) :
    ((List.range (k * L.length)).map fun j => L[(c + j) % L.length]?).count (some e) = k := by
  induction k with
  | zero => simp
  | succ k ih =>
    have hround : (List.range L.length).map (fun j => L[(c + (k * L.length + j)) % L.length]?) =
        (L.rotate c).map some := by
      refine List.ext_getElem? fun j => ?_
      by_cases hj : j < L.length
      · have hturn : (c + (k * L.length + j)) % L.length = (j + c) % L.length := by
          rw [show c + (k * L.length + j) = j + c + k * L.length by omega,
            Nat.add_mul_mod_self_right]
        have hlt := Nat.mod_lt (j + c) (j.zero_le.trans_lt hj)
        simp [hj, hturn, List.getElem?_eq_getElem hlt]
      · simp [hj]
    have hcount : ((L.rotate c).map some).count (some e) = 1 := by
      rw [List.count_map_of_injective _ _ (Option.some_injective _), (L.rotate_perm c).count_eq]
      exact List.count_eq_one_of_mem hnodup he
    rw [Nat.succ_mul, List.range_add, List.map_append, List.count_append, ih, List.map_map]
    exact congrArg (k + ·) ((congrArg (List.count (some e)) hround).trans hcount)

section Segment

variable {counter : Nat}

/-- One step while the instances of an application stay: its counter stays, or a call takes the
    turn the counter is at. -/
theorem entry_step (h : RoundInv s) (hinner : s.registry.inner appId = some (counter, addrs))
    (hne : addrs ≠ []) (a : SelectAction) (hstay : (s.step a).registry.endpoints appId = addrs) :
    (∃ others, (s.step a).turns = s.turns ++ others ∧ (∀ turn ∈ others, turn.1 ≠ appId) ∧
      (s.step a).registry.inner appId = some (counter, addrs)) ∨
    (s.step a).turns = s.turns ++ [(appId, addrs[counter % addrs.length]?)] ∧
      (s.step a).registry.inner appId = some ((counter + 1) % 2 ^ 64, addrs) := by
  -- Whatever else happens leaves the counter of an entry that stays.
  have hquiet : ∀ t : RoundRobin, t.registry.endpoints appId = addrs → t.turns = s.turns →
      (∀ entry, t.registry.inner appId = some entry → entry.1 = counter) →
      ∃ others, t.turns = s.turns ++ others ∧ (∀ turn ∈ others, turn.1 ≠ appId) ∧
        t.registry.inner appId = some (counter, addrs) := by
    intro t hends hturns hcounter
    refine ⟨[], by rw [hturns, List.append_nil], nofun, ?_⟩
    cases hentry : t.registry.inner appId with
    | none =>
      rw [UpstreamHealthRegistry.endpoints, hentry] at hends
      exact absurd hends.symm hne
    | some entry => rw [← hcounter entry hentry, ← hends, endpoints_of_inner hentry]
  have hkept : ∀ entry, s.registry.inner appId = some entry → entry.1 = counter := by
    rw [hinner]
    rintro entry ⟨⟩
    rfl
  have hupdate : ∀ (r : UpstreamHealthRegistry) id e,
      r.inner = Function.update s.registry.inner id e →
      (id = appId → ∀ entry, e = some entry → entry.1 = counter) →
      ∀ entry, r.inner appId = some entry → entry.1 = counter := by
    intro r id e hr he entry hentry
    rw [hr] at hentry
    by_cases hid : appId = id
    · rw [hid, Function.update_self] at hentry
      exact he hid.symm entry hentry
    · rw [Function.update_of_ne hid] at hentry
      exact hkept entry hentry
  cases a with
  | add id endpoint =>
    rw [step] at hstay ⊢
    split_ifs at hstay ⊢
    · refine .inl (hquiet _ hstay rfl (hupdate _ id _ (inner_add endpoint) ?_))
      rintro rfl entry ⟨⟩
      rw [hinner]
      rfl
    · exact .inl (hquiet _ hstay rfl hkept)
  | remove id addr =>
    rw [step] at hstay ⊢
    split_ifs at hstay ⊢
    · refine .inl (hquiet _ hstay rfl (hupdate _ id _ (inner_remove addr) ?_))
      rintro rfl entry hentry
      rw [hinner, Option.bind_some] at hentry
      dsimp only at hentry
      split_ifs at hentry
      cases hentry
      rfl
    · exact .inl (hquiet _ hstay rfl hkept)
  | lock id => exact .inl (hquiet _ hstay rfl hkept)
  | turn j =>
    rcases turn_cases s j with heq | ⟨id, list, hcall, heq⟩
    · rw [heq] at hstay ⊢
      exact .inl (hquiet _ hstay rfl hkept)
    · rw [heq] at hstay ⊢
      obtain ⟨-, hends⟩ := h.held _ (List.mem_of_getElem? hcall) list rfl
      by_cases hid : id = appId
      · subst hid
        rw [endpoints_of_inner hinner] at hends
        rw [inner_fetchAdd hinner, ← hends]
        exact .inr ⟨rfl, Function.update_self ..⟩
      · refine .inl ⟨[_], rfl, ?_, ?_⟩
        · rintro turn (_ | ⟨_, ⟨⟩⟩)
          exact hid
        · exact (inner_fetchAdd_of_ne (Ne.symm hid)).trans hinner

theorem length_turns_step (s : RoundRobin) (a : SelectAction) :
    s.turns.length ≤ (s.step a).turns.length := by
  cases a with
  | add id endpoint | remove id addr =>
    rw [step]
    split_ifs
    · exact le_rfl
    · exact le_rfl
  | lock id => exact le_rfl
  | turn j =>
    rcases turn_cases s j with heq | ⟨id, addrs, -, heq⟩
    · rw [heq]
    · rw [heq, List.length_append]
      exact Nat.le_add_right _ _

/-- While the instances of an application stay, its turns are those the counter goes through. -/
theorem turns_segment (h : RoundInv s) (hinner : s.registry.inner appId = some (counter, addrs))
    (hne : addrs ≠ []) (actions : List SelectAction)
    (hstay : ∀ done, done <+: actions → (runAll step s done).registry.endpoints appId = addrs)
    (hfew : (runAll step s actions).turns.length < 2 ^ 64) :
    ∃ news, (runAll step s actions).turns = s.turns ++ news ∧
      let m := (news.filter fun turn => decide (turn.1 = appId)).length
      (runAll step s actions).registry.inner appId = some (counter + m, addrs) ∧
      (news.filter fun turn => decide (turn.1 = appId)).map Prod.snd =
        (List.range m).map fun j => addrs[(counter + j) % addrs.length]? := by
  induction actions using List.reverseRecOn with
  | nil => exact ⟨[], (List.append_nil _).symm, hinner, rfl⟩
  | append_singleton actions a ih =>
    have hlast := hstay _ (List.prefix_refl _)
    rw [runAll_append] at hlast hfew ⊢
    obtain ⟨news, hturns, hentry, hresults⟩ := ih
      (fun done hdone => hstay done (hdone.trans (List.prefix_append _ _)))
      ((length_turns_step _ a).trans_lt hfew)
    have hinv : RoundInv (runAll step s actions) := invariant_run roundInv_step actions h
    rcases entry_step hinv hentry hne a hlast with ⟨others, hmore, hothers, hentry'⟩ |
      ⟨hmore, hentry'⟩
    · have hnone : others.filter (fun turn => decide (turn.1 = appId)) = [] :=
        List.filter_eq_nil_iff.mpr fun turn hturn => by simpa using hothers turn hturn
      refine ⟨news ++ others, by rw [← List.append_assoc, ← hturns]; exact hmore, ?_⟩
      rw [List.filter_append, hnone, List.append_nil]
      exact ⟨hentry', hresults⟩
    · refine ⟨news ++ [_], by rw [← List.append_assoc, ← hturns]; exact hmore, ?_⟩
      have hle := (hinv.listed appId _ hentry).2.2
      have hlength : ((runAll step s actions).step a).turns.length < 2 ^ 64 := hfew
      rw [hmore, List.length_append, List.length_singleton] at hlength
      rw [Nat.mod_eq_of_lt (by omega)] at hentry'
      rw [List.filter_append, List.filter_cons_of_pos (by simp), List.filter_nil,
        List.length_append, List.length_singleton]
      refine ⟨hentry', ?_⟩
      rw [List.map_append, hresults, List.range_succ, List.map_append]
      rfl

end Segment

/-- **Selection is fair.** However calls are interleaved, lists are never empty and have no
    address twice, a call returns nothing exactly if there is no instance, and of `k` rounds of
    turns taken while the instances stay, each instance gets `k`. -/
theorem round_robin_fair (before during : List SelectAction)
    (hfew : (runAll step new (before ++ during)).turns.length < 2 ^ 64) :
    let s := runAll step new before
    let t := runAll step s during
    (∀ appId entry, t.registry.inner appId = some entry →
      entry.2 ≠ [] ∧ (entry.2.map UpstreamEndpoint.addr).Nodup) ∧
    (∀ (i : Nat) a appId result, t.calls[i]? ≠ some ⟨appId, .returned result⟩ →
      (t.step a).calls[i]? = some ⟨appId, .returned result⟩ →
        (result = none ↔ t.registry.endpoints appId = [])) ∧
    ∀ appId addrs k,
      (∀ done, done <+: during → (runAll step s done).registry.endpoints appId = addrs) →
      (turnsOf s t appId).length = k * addrs.length →
        ∀ endpoint ∈ addrs, (turnsOf s t appId).count (some endpoint) = k := by
  intro s t
  rw [runAll_append] at hfew
  have hs : RoundInv s := roundInv_run before
  have ht : RoundInv t := invariant_run roundInv_step during hs
  refine ⟨fun appId entry hentry => ?_, fun i a appId result => returned_none_iff ht, ?_⟩
  · obtain ⟨hne, hnodup, -⟩ := ht.listed appId entry hentry
    exact ⟨hne, hnodup⟩
  intro appId addrs k hstay hlength endpoint hmem
  have hne : addrs ≠ [] := List.ne_nil_of_mem hmem
  have hends := hstay [] List.nil_prefix
  cases hinner : s.registry.inner appId with
  | none =>
    rw [runAll_nil, UpstreamHealthRegistry.endpoints, hinner] at hends
    exact absurd hends.symm hne
  | some entry =>
    obtain ⟨-, hnodup, -⟩ := hs.listed appId entry hinner
    have haddrs : entry.2 = addrs := (endpoints_of_inner hinner).symm.trans hends
    subst haddrs
    obtain ⟨news, hturns, -, hresults⟩ := turns_segment hs hinner hne during hstay hfew
    rw [turnsOf, hturns, List.drop_left] at hlength ⊢
    rw [List.length_map] at hlength
    rw [hresults, hlength]
    exact count_rounds hnodup.of_map hmem k entry.1

def sampleInstances : List UpstreamEndpoint := [⟨⟨.v4 1, 9001⟩, false⟩, ⟨⟨.v4 1, 9002⟩, false⟩]

def sampleCalls : List SelectAction := [.lock "app", .lock "app", .turn 1, .turn 0]

theorem round_of_two :
    let s := runAll step new (sampleInstances.map (.add "app"))
    ∀ endpoint ∈ sampleInstances,
      (turnsOf s (runAll step s sampleCalls) "app").count (some endpoint) = 1 := by
  refine (round_robin_fair _ sampleCalls (by decide)).2.2 "app" sampleInstances 1
    (fun done hdone => ?_) (by decide)
  have hall : ∀ done ∈ sampleCalls.inits,
      (runAll step (runAll step new (sampleInstances.map (.add "app"))) done).registry.endpoints
        "app" = sampleInstances := by decide
  exact hall done ((List.mem_inits _ _).mpr hdone)

end RoundRobin

end WasmCloud
