import Mathlib.Data.List.Basic
import Mathlib.Data.List.Nodup
import Mathlib.Data.List.Perm.Basic
import Mathlib.Order.Basic
import Mathlib.Data.String.Basic

/-!
# Ordered Tables

A finite table whose entries are kept in strictly increasing key order, as an embedded
key-value store iterates them. The order is a field of the structure, so a table out of
order cannot be built, and the key is computed from the entry, so no invariant is needed to
say that the two agree.

Everything is stated by membership: `mem_insert` and `mem_remove` say which entries survive
an update, and `get?_eq_some_iff` ties a lookup to membership.
-/

namespace WasmCloud

open List

/-- A finite table: entries in strictly increasing order of their keys. -/
structure OrdTable {K V : Type} [LinearOrder K] (key : V → K) where
  entries : List V
  sorted : entries.Pairwise (fun a b => key a < key b)

namespace OrdTable

variable {K V : Type} [LinearOrder K] {key : V → K}

instance : Membership V (OrdTable key) := ⟨fun t v => v ∈ t.entries⟩

variable {x v : V} {k : K}

@[grind _=_] theorem mem_def {t : OrdTable key} : v ∈ t ↔ v ∈ t.entries := Iff.rfl

/-- The table with no entries. -/
def empty : OrdTable key := ⟨[], List.Pairwise.nil⟩

@[simp] theorem not_mem_empty (v : V) : v ∉ (empty : OrdTable key) := not_mem_nil

/-- Walk to the place of `v`, replacing an entry with the same key. -/
def insertEntry (key : V → K) (v : V) : List V → List V
  | [] => [v]
  | e :: es =>
    if key v < key e then v :: e :: es
    else if key e < key v then e :: insertEntry key v es
    else v :: es

variable {es vs : List V} {p : V → Bool}

theorem mem_insertEntry (hs : es.Pairwise (fun a b => key a < key b)) :
    x ∈ insertEntry key v es ↔ x = v ∨ (x ∈ es ∧ key x ≠ key v) := by
  induction es with
  | nil => simp [insertEntry]
  | cons e es ih =>
    rcases pairwise_cons.mp hs with ⟨hhead, htail⟩
    -- Above the head no entry has the key of `v`; a head neither below nor above it has the key.
    unfold insertEntry
    grind

theorem insertEntry_sorted (v : V) (hs : es.Pairwise (fun a b => key a < key b)) :
    (insertEntry key v es).Pairwise (fun a b => key a < key b) := by
  induction es with
  | nil => exact pairwise_singleton _ _
  | cons e es ih =>
    rcases pairwise_cons.mp hs with ⟨hhead, htail⟩
    unfold insertEntry
    split_ifs <;> grind [pairwise_cons, mem_insertEntry]

variable (t : OrdTable key)

/-- Put an entry, replacing the one with the same key. -/
def insert (v : V) : OrdTable key :=
  ⟨insertEntry key v t.entries, insertEntry_sorted v t.sorted⟩

/-- Keep the entries `p` accepts. -/
def filter (t : OrdTable key) (p : V → Bool) : OrdTable key :=
  ⟨t.entries.filter p, t.sorted.filter p⟩

/-- Drop the entry with key `k`. -/
def remove (k : K) : OrdTable key :=
  t.filter (fun v => decide (key v ≠ k))

/-- The entry with key `k`. -/
def get? (k : K) : Option V :=
  t.entries.find? (fun v => decide (key v = k))

/-- Insert a list of entries, the first one first. -/
def insertAll (vs : List V) : OrdTable key :=
  vs.foldl insert t

/-- Change every entry and keep its key. -/
def mapEntries (f : V → V) (hf : ∀ v, key (f v) = key v) : OrdTable key :=
  ⟨t.entries.map f, by
    rw [List.pairwise_map]
    exact t.sorted.imp (fun h => by rwa [hf, hf])⟩

@[simp, grind =] theorem mem_insert {t : OrdTable key} :
    x ∈ t.insert v ↔ x = v ∨ (x ∈ t ∧ key x ≠ key v) :=
  mem_insertEntry t.sorted

@[simp, grind =] theorem mem_filter {t : OrdTable key} : x ∈ t.filter p ↔ x ∈ t ∧ p x = true :=
  List.mem_filter

@[simp, grind =] theorem mem_remove {t : OrdTable key} : x ∈ t.remove k ↔ x ∈ t ∧ key x ≠ k := by
  simp [remove]

/-- A filter that accepts every entry changes nothing. -/
theorem filter_eq_self {t : OrdTable key} (h : ∀ v ∈ t, p v = true) : t.filter p = t := by
  rcases t with ⟨entries, sorted⟩
  rw [filter, OrdTable.mk.injEq]
  exact List.filter_eq_self.mpr h

theorem keys_nodup : (t.entries.map key).Nodup := by
  rw [List.Nodup, pairwise_map]
  exact t.sorted.imp (fun h => ne_of_lt h)

/-- A key has at most one entry. -/
theorem eq_of_key_eq {t : OrdTable key} {a b : V} (ha : a ∈ t) (hb : b ∈ t)
    (hk : key a = key b) : a = b :=
  inj_on_of_nodup_map t.keys_nodup ha hb hk

theorem get?_eq_some_iff {t : OrdTable key} : t.get? k = some v ↔ v ∈ t ∧ key v = k := by
  have hsome : ∀ w, t.get? k = some w → w ∈ t ∧ key w = k := by
    intro w h
    exact ⟨mem_of_find?_eq_some h, by simpa only [decide_eq_true_eq] using List.find?_some h⟩
  constructor
  · exact hsome v
  · rintro ⟨hv, hk⟩
    rcases hfind : t.get? k with _ | w
    · exact absurd (decide_eq_true hk) (List.find?_eq_none.mp hfind v hv)
    · rcases hsome w hfind with ⟨hw, hwk⟩
      rw [eq_of_key_eq hw hv (hwk.trans hk.symm)]

theorem get?_eq_none_iff {t : OrdTable key} : t.get? k = none ↔ ∀ v ∈ t, key v ≠ k := by
  simp only [get?, List.find?_eq_none, decide_eq_true_eq]
  exact Iff.rfl

/-- Two tables that give a key the same entries read the same there. -/
theorem get?_congr {t u : OrdTable key} (h : ∀ v, key v = k → (v ∈ t ↔ v ∈ u)) :
    t.get? k = u.get? k := by
  rcases hu : u.get? k with _ | v
  · grind [get?_eq_none_iff]
  · grind [get?_eq_some_iff]

@[grind =] theorem get?_insert (v : V) (k : K) :
    (t.insert v).get? k = if k = key v then some v else t.get? k := by
  by_cases hk : k = key v
  · rw [if_pos hk, get?_eq_some_iff, mem_insert]
    exact ⟨.inl rfl, hk.symm⟩
  · rw [if_neg hk]
    exact get?_congr (by grind)

@[grind =] theorem get?_remove (k k' : K) :
    (t.remove k').get? k = if k = k' then none else t.get? k := by
  by_cases hk : k = k'
  · rw [if_pos hk, get?_eq_none_iff]
    intro v hv hvk
    exact (mem_remove.mp hv).2 (hvk.trans hk)
  · rw [if_neg hk]
    exact get?_congr (by grind)

/-- Two tables that read the same everywhere are the same. -/
theorem eq_of_get?_eq {t u : OrdTable key} (h : ∀ k, t.get? k = u.get? k) : t = u := by
  have hread : ∀ (t : OrdTable key) (v : V), v ∈ t ↔ t.get? (key v) = some v := by
    grind [get?_eq_some_iff]
  have hmem : ∀ v, v ∈ t.entries ↔ v ∈ u.entries := by
    intro v
    rw [← mem_def, ← mem_def, hread, hread, h]
  have hperm : t.entries.Perm u.entries :=
    (perm_ext_iff_of_nodup (List.Nodup.of_map key t.keys_nodup)
      (List.Nodup.of_map key u.keys_nodup)).mpr hmem
  -- Entries in increasing order cannot be permuted.
  have hentries : t.entries = u.entries :=
    hperm.eq_of_pairwise (fun a b _ _ hab hba => absurd hba (lt_asymm hab)) t.sorted u.sorted
  cases t
  cases u
  cases hentries
  rfl

/-- Reading after inserting entries with different keys. -/
theorem get?_insertAll (hvs : (vs.map key).Nodup) (k : K) :
    (t.insertAll vs).get? k = (vs.find? (fun v => decide (key v = k))).or (t.get? k) := by
  induction vs generalizing t with
  | nil => rfl
  | cons v vs ih =>
    rw [map_cons, nodup_cons] at hvs
    have hcons : t.insertAll (v :: vs) = (t.insert v).insertAll vs := rfl
    rw [hcons, ih (t.insert v) hvs.2, get?_insert, List.find?_cons]
    by_cases hk : key v = k
    · -- No later entry has this key.
      have hnone : vs.find? (fun x => decide (key x = k)) = none := by
        refine List.find?_eq_none.mpr fun x hx hxk => hvs.1 ?_
        rw [hk, ← of_decide_eq_true hxk]
        exact mem_map_of_mem hx
      rw [hnone, if_pos hk.symm, decide_eq_true hk]
      rfl
    · rw [if_neg (fun h => hk h.symm), decide_eq_false hk]

theorem get?_insertAll_entries (t u : OrdTable key) (k : K) :
    (t.insertAll u.entries).get? k = (u.get? k).or (t.get? k) :=
  t.get?_insertAll u.keys_nodup k

theorem get?_mapEntries {f : V → V} (hf : ∀ v, key (f v) = key v) (k : K) :
    (t.mapEntries f hf).get? k = (t.get? k).map f := by
  rw [get?, mapEntries, List.find?_map]
  refine congrArg (Option.map f) (congrArg (fun p => t.entries.find? p) (funext fun v => ?_))
  simp [hf]

theorem nodup : t.entries.Nodup :=
  t.keys_nodup.of_map key

/-- The entries with a key are the one a lookup finds. -/
theorem filter_key_eq (k : K) : t.entries.filter (fun v => key v = k) = (t.get? k).toList := by
  rcases hget : t.get? k with _ | v
  · refine filter_eq_nil_iff.mpr fun x hx => ?_
    simp only [decide_eq_true_eq]
    exact get?_eq_none_iff.mp hget x hx
  · rcases get?_eq_some_iff.mp hget with ⟨hv, hk⟩
    refine perm_singleton.mp
      ((perm_ext_iff_of_nodup (t.nodup.filter _) (nodup_singleton v)).mpr fun x => ?_)
    grind [eq_of_key_eq]

/-- A fresh key adds one entry and moves no other. -/
theorem insert_perm {t : OrdTable key} (h : ∀ x ∈ t, key x ≠ key v) :
    (t.insert v).entries.Perm (v :: t.entries) := by
  have hv : v ∉ t.entries := fun hm => h v hm rfl
  refine (perm_ext_iff_of_nodup (nodup _) (nodup_cons.mpr ⟨hv, t.nodup⟩)).mpr ?_
  grind

/-- So do several. -/
theorem insertAll_perm {t : OrdTable key} (hvs : (vs.map key).Nodup)
    (h : ∀ x ∈ t, ∀ v ∈ vs, key x ≠ key v) : (t.insertAll vs).entries.Perm (vs ++ t.entries) := by
  induction vs generalizing t with
  | nil => exact List.Perm.refl _
  | cons v vs ih =>
    rw [map_cons, nodup_cons] at hvs
    have hfirst := insert_perm (fun x hx => h x hx v (.head _))
    have hrest : ((t.insert v).insertAll vs).entries.Perm (vs ++ (t.insert v).entries) := by
      grind
    exact hrest.trans ((hfirst.append_left vs).trans perm_middle)

end OrdTable

end WasmCloud
