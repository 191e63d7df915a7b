import WasmCloud.Lib.JsonText
import WasmCloud.Storage.Store

/-!
# Schema Migrations

A store is brought up to date one version at a time. Every step is a single transaction, which
also writes the version the step leads to. So wherever an opening ends early, the next one
reads the version of the last step that was done and goes on with the one after it.

The JSON library is a parameter, with the laws of reading, writing and setting a field of an
object. Not every value is read back as it was written, a float need not be. Tables that are
only opened are kept apart from the two that are written to.

## Main definitions

* `openStore`: An opening, which does all migrations that are left.
* `crash`: An opening that ends early.
* `Keeps`: No row and no field is lost.

## Theorems

* `openStore_crash`: An opening after one that ended early does the rest.
* `migrations_resumable`: Any number of openings may end early.
-/

namespace WasmCloud

open List

namespace Migrations

/-- What is used of the JSON library. `V` are objects and `X` the values of their fields, and
    `exact` are the objects that are read back as written. -/
structure SerdeJson (X V : Type) where
  fromStr : String → Option V
  toStr : V → String
  get : V → String → Option X
  set : V → String → X → V
  number : Nat → X
  object : List (String × Nat) → X
  exact : V → Prop
  fromStr_toStr : ∀ val, exact val → fromStr (toStr val) = some val
  exact_number : ∀ val name n, exact val → exact (set val name (number n))
  exact_object : ∀ val name fields, exact val → exact (set val name (object fields))
  get_set : ∀ val name x field,
    get (set val name x) field = if field = name then some x else get val field

/-- The tables of a store. `others` are the rows of those that exist. -/
structure RawStore where
  schemaMeta : KeyedTable String
  configs : KeyedTable String
  others : String → Option (List (List UInt8 × List UInt8))

def currentSchemaVersion : Nat := 8

/-- The version, where text that is no 32-bit number counts as zero. -/
def readSchemaVersion (s : RawStore) : Nat :=
  ((s.schemaMeta.get? "version").bind
    (fun entry => (Text.parseU64 entry.2).filter (fun n => n < 2 ^ 32))).getD 0

def writeSchemaVersion (version : Nat) (s : RawStore) : RawStore :=
  { s with schemaMeta := s.schemaMeta.insert ("version", toString version) }

/-- A table that is opened exists from then on. -/
def openTables (names : List String) (s : RawStore) : RawStore :=
  { s with others := fun name =>
      if name ∈ names then some ((s.others name).getD []) else s.others name }

variable {X V : Type} (json : SerdeJson X V)

/-- A configuration gets a field it does not have. -/
def addMissing (name : String) (x : X) (text : String) : String :=
  match json.fromStr text with
  | some val => json.toStr (if (json.get val name).isNone then json.set val name x else val)
  | none => text

/-- Every configuration is written back with a field it did not have. -/
def addToConfigs (name : String) (x : X) (s : RawStore) : RawStore :=
  { s with configs :=
      s.configs.mapEntries (fun e => (e.1, addMissing json name x e.2)) (fun _ => rfl) }

/-- What `rate_limit` is added as. -/
def defaultRateLimit : X :=
  json.object [("requests_per_second", 1000), ("burst_capacity", 50), ("per_ip_limit", 100)]

/-- What a migration does before it writes its version, from `migrate_v1_to_v2` on. -/
def migrationBody : Nat → RawStore → RawStore
  | 2, s => addToConfigs json "db_max_connections" (json.number 10) s
  | 3, s => addToConfigs json "rate_limit" (defaultRateLimit json) s
  | 4, s => openTables ["billing", "kek"] s
  | 5, s => openTables ["gateway_configs"] s
  | 6, s => openTables ["api_keys"] s
  | 7, s => openTables ["cluster_nodes"] s
  | 8, s => openTables ["artifact_verifications"] s
  | _, s => s

/-- `apply_migration_transactional`, for the targets there are. -/
def applyMigration (target : Nat) (s : RawStore) : RawStore :=
  writeSchemaVersion target (migrationBody json target s)

/-- The first transaction of `open_store`. -/
def openAll (s : RawStore) : RawStore :=
  openTables ["artifacts", "secrets", "metrics", "routes", "raw_wasm", "artifact_hashes",
    "billing", "kek", "gateway_configs", "api_keys", "cluster_nodes", "artifact_verifications"] s

/-- The targets of the migrations from a version on. -/
def targets (version : Nat) : List Nat :=
  List.range' (version + 1) (currentSchemaVersion - version)

/-- Some migrations, one after the other. -/
def migrateAll (versions : List Nat) (s : RawStore) : RawStore :=
  versions.foldl (fun s target => applyMigration json target s) s

def runMigrations (s : RawStore) : RawStore × Except String Unit :=
  let current := readSchemaVersion s
  if current = currentSchemaVersion then (s, .ok ())
  else if current > currentSchemaVersion then
    (s, .error ("Database schema version " ++ toString current ++
      " is NEWER than the binary supports (" ++ toString currentSchemaVersion ++
      "). Downgrade is not supported. Use a newer binary or restore from backup."))
  else (migrateAll json (targets current) s, .ok ())

/-- `open_store`, without the backup file. -/
def openStore (s : RawStore) : RawStore × Except String Unit := runMigrations json (openAll s)

/-- An opening that ends after some of its transactions. -/
def crash (s : RawStore) (committed : Nat) : RawStore :=
  ((openAll :: (targets (readSchemaVersion s)).map (applyMigration json)).take committed).foldl
    (fun s transaction => transaction s) s

/-- The field a migration adds to a configuration that does not have it. -/
def addedBy : Nat → String → Option X
  | 2, field => if field = "db_max_connections" then some (json.number 10) else none
  | 3, field => if field = "rate_limit" then some (defaultRateLimit json) else none
  | _, _ => none

/-- All rows and all fields are kept, with those of `added` where they are missing, of every
    configuration that is read back as written. -/
structure Keeps (added : String → Option X) (s t : RawStore) : Prop where
  schemaMeta : ∀ key, key ≠ "version" → t.schemaMeta.get? key = s.schemaMeta.get? key
  others : ∀ name, (t.others name).getD [] = (s.others name).getD []
  absent : ∀ key, s.configs.get? key = none → t.configs.get? key = none
  configs : ∀ key entry val, s.configs.get? key = some entry → json.fromStr entry.2 = some val →
    json.exact val → ∃ entry' val', t.configs.get? key = some entry' ∧
      json.fromStr entry'.2 = some val' ∧ json.exact val' ∧
      ∀ field, json.get val' field = (json.get val field).or (added field)

variable {json} {s t : RawStore}

theorem readSchemaVersion_write {version : Nat} (h : version < 2 ^ 32) :
    readSchemaVersion (writeSchemaVersion version s) = version := by
  have hentry : (writeSchemaVersion version s).schemaMeta.get? "version" =
      some ("version", toString version) := by
    rw [writeSchemaVersion, OrdTable.get?_insert, if_pos rfl]
  rw [readSchemaVersion, hentry, Option.bind_some, Text.parseU64_toString version (by omega),
    Option.filter_some, if_pos (decide_eq_true h), Option.getD_some]

theorem openTables_comm (names names' : List String) (s : RawStore) :
    openTables names (openTables names' s) = openTables names' (openTables names s) := by
  simp only [openTables, RawStore.mk.injEq, true_and]
  grind

theorem openAll_openAll (s : RawStore) : openAll (openAll s) = openAll s := by
  simp only [openAll, openTables, RawStore.mk.injEq, true_and]
  funext name
  split_ifs
  · rfl
  · rfl

theorem openAll_applyMigration (target : Nat) (s : RawStore) :
    openAll (applyMigration json target s) = applyMigration json target (openAll s) := by
  have hbody : openAll (migrationBody json target s) = migrationBody json target (openAll s) := by
    match target with
    | 0 | 1 | 2 | 3 | _ + 9 => rfl
    | 4 | 5 | 6 | 7 | 8 => exact openTables_comm _ _ s
  exact congrArg (writeSchemaVersion target) hbody

theorem keeps_of_configs_eq
    (hmeta : ∀ key, key ≠ "version" → t.schemaMeta.get? key = s.schemaMeta.get? key)
    (hothers : ∀ name, (t.others name).getD [] = (s.others name).getD [])
    (hconfigs : t.configs = s.configs) : Keeps json (fun _ => none) s t := by
  refine ⟨hmeta, hothers, fun key h => hconfigs ▸ h, fun _ entry val hentry hval hexact =>
    ⟨entry, val, hconfigs ▸ hentry, hval, hexact, fun _ => Option.or_none.symm⟩⟩

theorem Keeps.trans {added added' : String → Option X} {u : RawStore}
    (h : Keeps json added s t) (h' : Keeps json added' t u) :
    Keeps json (fun field => (added field).or (added' field)) s u where
  schemaMeta key hkey := (h'.schemaMeta key hkey).trans (h.schemaMeta key hkey)
  others name := (h'.others name).trans (h.others name)
  absent key hnone := h'.absent key (h.absent key hnone)
  configs key entry val hentry hval hexact := by
    obtain ⟨entry₁, val₁, hentry₁, hval₁, hexact₁, hget₁⟩ :=
      h.configs key entry val hentry hval hexact
    obtain ⟨entry₂, val₂, hentry₂, hval₂, hexact₂, hget₂⟩ :=
      h'.configs key entry₁ val₁ hentry₁ hval₁ hexact₁
    refine ⟨entry₂, val₂, hentry₂, hval₂, hexact₂, fun field => ?_⟩
    rw [hget₂, hget₁, Option.or_assoc]

theorem keeps_openTables (names : List String) :
    Keeps json (fun _ => none) s (openTables names s) := by
  refine keeps_of_configs_eq (fun _ _ => rfl) (fun name => ?_) rfl
  simp only [openTables]
  split_ifs
  · rfl
  · rfl

theorem keeps_writeSchemaVersion (version : Nat) :
    Keeps json (fun _ => none) s (writeSchemaVersion version s) := by
  refine keeps_of_configs_eq (fun key hkey => ?_) (fun _ => rfl) rfl
  rw [writeSchemaVersion, OrdTable.get?_insert, if_neg hkey]

theorem keeps_addToConfigs {name : String} {x : X}
    (hset : ∀ val, json.exact val → json.exact (json.set val name x)) :
    Keeps json (fun field => if field = name then some x else none) s
      (addToConfigs json name x s) := by
  refine ⟨fun _ _ => rfl, fun _ => rfl, fun key hnone => ?_, ?_⟩
  · rw [addToConfigs, OrdTable.get?_mapEntries, hnone, Option.map_none]
  · intro key entry val hentry hval hexact
    have hentry' : (addToConfigs json name x s).configs.get? key =
        some (entry.1, addMissing json name x entry.2) := by
      rw [addToConfigs, OrdTable.get?_mapEntries, hentry, Option.map_some]
    cases hhas : json.get val name with
    | none =>
      refine ⟨_, json.set val name x, hentry', ?_, hset val hexact, ?_⟩
      · simp only [addMissing, hval, hhas, Option.isNone_none, if_true]
        exact json.fromStr_toStr _ (hset val hexact)
      · intro field
        rw [json.get_set]
        split_ifs with hfield
        · rw [hfield, hhas, Option.none_or]
        · rw [Option.or_none]
    | some y =>
      refine ⟨_, val, hentry', ?_, hexact, ?_⟩
      · simp only [addMissing, hval, hhas, Option.isNone_some, Bool.false_eq_true, if_false]
        exact json.fromStr_toStr _ hexact
      · intro field
        split_ifs with hfield
        · rw [hfield, hhas, Option.some_or]
        · rw [Option.or_none]

theorem keeps_applyMigration (target : Nat) :
    Keeps json (addedBy json target) s (applyMigration json target s) := by
  have hbody : Keeps json (addedBy json target) s (migrationBody json target s) := by
    match target with
    | 0 | 1 | _ + 9 => exact keeps_of_configs_eq (fun _ _ => rfl) (fun _ => rfl) rfl
    | 2 => exact keeps_addToConfigs (fun val => json.exact_number val _ _)
    | 3 => exact keeps_addToConfigs (fun val => json.exact_object val _ _)
    | 4 | 5 | 6 | 7 | 8 => exact keeps_openTables _
  simpa [applyMigration] using hbody.trans (keeps_writeSchemaVersion target)

theorem readSchemaVersion_migrateAll (v count : Nat) (hcount : v + count ≤ 8)
    (hversion : readSchemaVersion s = v) :
    readSchemaVersion (migrateAll json (List.range' (v + 1) count) s) = v + count := by
  cases count with
  | zero => exact hversion
  | succ count =>
    rw [List.range'_concat, migrateAll, foldl_append]
    refine (readSchemaVersion_write (by omega)).trans ?_
    omega

theorem openAll_migrateAll (versions : List Nat) (s : RawStore) :
    openAll (migrateAll json versions s) = migrateAll json versions (openAll s) := by
  induction versions generalizing s with
  | nil => rfl
  | cons target versions ih =>
    rw [migrateAll, foldl_cons, ← migrateAll, ih, openAll_applyMigration]
    rfl

theorem keeps_migrateAll (versions : List Nat) :
    Keeps json (fun field => versions.findSome? (addedBy json · field)) s
      (migrateAll json versions s) := by
  induction versions generalizing s with
  | nil => exact keeps_of_configs_eq (fun _ _ => rfl) (fun _ => rfl) rfl
  | cons target versions ih =>
    have hboth := (@keeps_applyMigration _ _ json s target).trans ih
    have hfields : (fun field => (target :: versions).findSome? (addedBy json · field)) =
        fun field => (addedBy json target field).or
          (versions.findSome? (addedBy json · field)) := by
      grind
    rw [hfields]
    exact hboth

theorem openStore_eq (h : readSchemaVersion s ≤ 8) :
    openStore json s = (migrateAll json (targets (readSchemaVersion s)) (openAll s), .ok ()) := by
  have hversion : readSchemaVersion (openAll s) = readSchemaVersion s := rfl
  simp only [openStore, runMigrations, hversion]
  split_ifs with heq hnewer
  · rw [targets, heq]
    rfl
  · exact absurd h (not_le.mpr hnewer)
  · rfl

theorem take_range' (start n count : Nat) :
    (List.range' start n).take count = List.range' start (min count n) := by
  induction count generalizing start n with
  | zero => simp
  | succ count ih =>
    grind

/-- An opening after one that ended early does the rest. -/
theorem openStore_crash (h : readSchemaVersion s ≤ 8) (committed : Nat) :
    readSchemaVersion (crash json s committed) ≤ 8 ∧
      openStore json (crash json s committed) = openStore json s := by
  cases committed with
  | zero => exact ⟨h, rfl⟩
  | succ committed =>
    set v := readSchemaVersion s with hv
    set done := min committed (8 - v) with hdone
    have hcrash : crash json s (committed + 1) =
        migrateAll json (List.range' (v + 1) done) (openAll s) := by
      rw [crash, take_succ_cons, foldl_cons, ← map_take, foldl_map, targets, take_range']
      rfl
    have hversion : readSchemaVersion (crash json s (committed + 1)) = v + done := by
      rw [hcrash]
      exact readSchemaVersion_migrateAll v done (by omega) rfl
    have hrest : targets v = List.range' (v + 1) done ++ targets (v + done) := by
      rw [targets, targets, show v + done + 1 = v + 1 + 1 * done by omega, List.range'_append,
        show done + (currentSchemaVersion - (v + done)) = currentSchemaVersion - v by
          rw [currentSchemaVersion]; omega]
    refine ⟨by omega, ?_⟩
    rw [openStore_eq (by omega), openStore_eq h, hversion, hcrash, openAll_migrateAll,
      openAll_openAll, ← hv, hrest, migrateAll, migrateAll, migrateAll, foldl_append]

/-- **Migrations are safe and can be resumed**: however often an opening ends early, the next
    one that does not leads where a single one would have led, and loses nothing. A store that
    is too new is left alone. -/
theorem migrations_resumable (json : SerdeJson X V) (s : RawStore) :
    (readSchemaVersion s ≤ currentSchemaVersion → ∀ crashes : List Nat,
        let result := openStore json (crashes.foldl (crash json) s)
        result = openStore json s ∧ result.2 = .ok () ∧
          readSchemaVersion result.1 = currentSchemaVersion ∧
          Keeps json (fun field => (targets (readSchemaVersion s)).findSome?
            (addedBy json · field)) s result.1) ∧
      (currentSchemaVersion < readSchemaVersion s →
        (openStore json s).2 ≠ .ok () ∧ (openStore json s).1 = openAll s ∧
          Keeps json (fun _ => none) s (openStore json s).1) := by
  constructor
  · intro hversion crashes result
    have hresult : result = openStore json s := by
      suffices h : ∀ s, readSchemaVersion s ≤ 8 →
          openStore json (crashes.foldl (crash json) s) = openStore json s from h s hversion
      induction crashes with
      | nil => exact fun _ _ => rfl
      | cons committed crashes ih =>
        intro s hs
        obtain ⟨hnext, hsame⟩ := @openStore_crash _ _ json _ hs committed
        exact (ih _ hnext).trans hsame
    rw [hresult, openStore_eq hversion]
    refine ⟨rfl, rfl, ?_, ?_⟩
    · have htotal : readSchemaVersion s + (currentSchemaVersion - readSchemaVersion s) = 8 :=
        Nat.add_sub_cancel' hversion
      exact (@readSchemaVersion_migrateAll _ _ json (openAll s) (readSchemaVersion s) _ htotal.le
        rfl).trans htotal
    · exact (keeps_openTables _).trans (keeps_migrateAll _)
  · intro hnewer
    have hversion : readSchemaVersion (openAll s) = readSchemaVersion s := rfl
    simp only [openStore, runMigrations, hversion, if_neg hnewer.ne', gt_iff_lt, if_pos hnewer]
    exact ⟨nofun, trivial, keeps_openTables _⟩

/-- An object is a list of fields, of which the first one of a name counts. A number or an
    object in one is kept as its text. -/
noncomputable def fieldLists : SerdeJson (Option String) (List (String × Option String)) where
  fromStr := Function.partialInv (fun val => String.ofList (JsonText.objectText val))
  toStr val := String.ofList (JsonText.objectText val)
  get val name := val.lookup name
  set val name x := (name, x) :: val
  number n := some (toString n)
  object fields := some (String.ofList (JsonText.objectText
    (fields.map (fun field => (field.1, some (toString field.2))))))
  exact _ := True
  fromStr_toStr val _ := Function.partialInv_left
    (fun _ _ h => JsonText.objectText_injective (String.ofList_injective h)) val
  exact_number _ _ _ _ := trivial
  exact_object _ _ _ _ := trivial
  get_set val name x field := by
    by_cases h : field = name
    · simp [h]
    · rw [List.lookup_cons, beq_false_of_ne h, if_neg h]

/-- A store of the first version with one configuration. -/
noncomputable def firstVersion : RawStore where
  schemaMeta := OrdTable.empty.insert ("version", "1")
  configs := OrdTable.empty.insert ("api:v1", fieldLists.toStr [("ns", some "default")])
  others _ := none

/-- An opening ends after the second version was written, the next one after the fourth. -/
theorem migrations_resumed : readSchemaVersion firstVersion = 1 ∧
    let result := openStore fieldLists ([2, 3].foldl (crash fieldLists) firstVersion)
    readSchemaVersion result.1 = 8 ∧ ∃ entry val,
      result.1.configs.get? "api:v1" = some entry ∧ fieldLists.fromStr entry.2 = some val ∧
      ["ns", "db_max_connections", "rate_limit"].map (fieldLists.get val) =
        [some (some "default"), some (fieldLists.number 10),
          some (defaultRateLimit fieldLists)] := by
  have hversion : readSchemaVersion firstVersion = 1 := by decide +kernel
  obtain ⟨-, -, hdone, hkeeps⟩ := (migrations_resumable fieldLists firstVersion).1
    (by rw [hversion]; decide) [2, 3]
  obtain ⟨entry, val, hentry, hval, -, hget⟩ := hkeeps.configs "api:v1" _ [("ns", some "default")]
    rfl (fieldLists.fromStr_toStr _ trivial) trivial
  refine ⟨hversion, hdone, entry, val, hentry, hval, ?_⟩
  simp only [map_cons, map_nil, hget, hversion]
  rfl

end Migrations

end WasmCloud
