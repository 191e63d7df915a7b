import WasmCloud.Artifact.Fetch
import WasmCloud.Artifact.Server

/-!
# The Contents of the Raw Table

Raw artifacts are stored by their hash, by uploads, deploy events, ingestions, replications
and imports of a snapshot. Each is a few transactions with something else in between, so a
call is modelled by the point it is at, and calls interleave in any way with one another
and with collections, which only remove entries.

A call that is about to store bytes has compared their hash with the key. A call that reads
bytes from the table does not compare them, and may rely on the table. `RawInv` says both.
-/

namespace WasmCloud

/-- A call that stores or reads raw artifacts, with what its caller passes and found out. -/
inductive RawKind where
  | put (sha256 : String) (body : List UInt8)
  | deploy (admitted : Bool) (expectedHash : Option String) (targeted : Bool)
  | ingest (env : FetchEnv) (artifact : RemoteArtifactSource)
  | replicate (expectedHash : String)
  | importArtifact (sha256 : String) (authorized : Bool)

inductive RawPoint where
  | start
  | cached (sha256 : String)
  | fetching (sha256 : String)
  | fetched (sha256 : String) (bytes : List UInt8)
  | saving (sha256 : String) (bytes : List UInt8)
  | polling (sha256 : String) (attempts : Nat)
  | compiling (sha256 : String) (bytes : List UInt8)
  | returned
  deriving DecidableEq

abbrev RawTable := KeyedTable (List UInt8)

/-- The table, and the calls that were made. -/
structure RawState where
  rawWasm : RawTable
  calls : List (RawKind × RawPoint)

/-- `answer` is the network's to a call that is fetching, `committed` the database's. -/
inductive RawAction where
  | call (kind : RawKind)
  | advance (index : Nat) (answer : Except String HttpResponse) (committed : Bool)
  | deleteRawWasmByKey (key : String)
  | purgeAppState (appName : String)

section Calls

variable (digest : List UInt8 → List UInt8)

def begin (table : RawTable) : RawKind → RawPoint
  | .put sha256 body =>
    match checkUpload digest sha256 body with
    | .error _ => .returned
    | .ok () => .saving sha256 body
  | .deploy admitted expectedHash targeted =>
    match expectedHash with
    | none => .returned
    | some sha256 =>
      if !admitted then .returned
      else if (table.get? sha256).isSome then .cached sha256
      -- An event for other nodes is skipped.
      else if targeted then .fetching sha256
      else .returned
  | .ingest env artifact =>
    match ingestBytes digest env artifact with
    | .error _ => .returned
    | .ok (sha256, bytes) => .fetched sha256 bytes
  | .replicate expectedHash =>
    if (table.get? expectedHash).isSome then .returned else .fetching expectedHash
  | .importArtifact sha256 authorized => if authorized then .fetching sha256 else .polling sha256 0

/-- What a call does with the answer to its download. -/
def receive (answer : Except String HttpResponse) (sha256 : String) : RawKind → RawPoint
  | .deploy _ _ _ | .importArtifact _ _ =>
    match fetchArtifact digest sha256 answer with
    | .error _ => .returned
    | .ok bytes => .saving sha256 bytes
  | .replicate _ =>
    match fetchReplica digest sha256 answer with
    | .error _ => .returned
    | .ok bytes => .saving sha256 bytes
  | .put _ _ | .ingest _ _ => .returned

/-- What a call does with bytes that are stored: a deployment and an import compile them. -/
def afterSave (sha256 : String) (bytes : List UInt8) : RawKind → RawPoint
  | .deploy _ _ _ | .importArtifact _ _ => .compiling sha256 bytes
  | .put _ _ | .ingest _ _ | .replicate _ => .returned

def advance (table : RawTable) (kind : RawKind) (answer : Except String HttpResponse)
    (committed : Bool) : RawPoint → RawTable × RawPoint
  | .start => (table, begin digest table kind)
  | .cached sha256 =>
    match table.get? sha256 with
    -- The artifact vanished between the two reads.
    | none => (table, .returned)
    | some entry => (table, .compiling sha256 entry.2)
  | .fetching sha256 => (table, receive digest answer sha256 kind)
  | .fetched sha256 bytes =>
    match table.get? sha256 with
    | some _ => (table, .returned)
    | none => (table, .saving sha256 bytes)
  | .saving sha256 bytes =>
    if committed then (table.insert (sha256, bytes), afterSave sha256 bytes kind)
    else (table, .returned)
  | .polling sha256 attempts =>
    match table.get? sha256 with
    | some entry => (table, .compiling sha256 entry.2)
    | none => (table, if 50 ≤ attempts then .returned else .polling sha256 (attempts + 1))
  | .compiling _ _ => (table, .returned)
  | .returned => (table, .returned)

def rawStep (s : RawState) : RawAction → RawState
  | .call kind => { s with calls := (kind, .start) :: s.calls }
  | .advance index answer committed =>
    match s.calls[index]? with
    | none => s
    | some (kind, point) =>
      ⟨(advance digest s.rawWasm kind answer committed point).1, s.calls.set index
          (kind, (advance digest s.rawWasm kind answer committed point).2)⟩
  | .deleteRawWasmByKey key => { s with rawWasm := s.rawWasm.remove key }
  | .purgeAppState appName => { s with rawWasm := Store.dropVersions s.rawWasm appName }

/-- The key is the hash of the bytes. -/
def Addressed (sha256 : String) (bytes : List UInt8) : Prop :=
  Bytes.hexEncode (digest bytes) = sha256

/-- What a call knows of its bytes; a deployment asks for the artifact of its event. -/
def PointInv (kind : RawKind) : RawPoint → Prop
  | .start | .returned => True
  | .cached sha256 | .fetching sha256 | .polling sha256 _ =>
    ∀ admitted expectedHash targeted, kind = .deploy admitted expectedHash targeted →
      expectedHash = some sha256
  | .fetched sha256 bytes | .saving sha256 bytes | .compiling sha256 bytes =>
    Addressed digest sha256 bytes ∧
      ∀ admitted expectedHash targeted, kind = .deploy admitted expectedHash targeted →
        expectedHash = some sha256

/-- Keys are hashes, in the table and in the calls. -/
structure RawInv (s : RawState) : Prop where
  table : ∀ entry ∈ s.rawWasm, Addressed digest entry.1 entry.2
  calls : ∀ call ∈ s.calls, PointInv digest call.1 call.2

variable {digest} {sha256 : String} {kind : RawKind}

theorem checkUpload_ok {body : List UInt8} {u : Unit} (h : checkUpload digest sha256 body = .ok u) :
    Addressed digest sha256 body := by
  rw [checkUpload, bind_unit_ok_iff, ensure_ok_iff, ensure_ok_iff] at h
  exact h.2

theorem begin_inv (table : RawTable) (kind : RawKind) :
    PointInv digest kind (begin digest table kind) := by
  cases kind with
  | put sha256 body =>
    rw [begin]
    rcases hcheck : checkUpload digest sha256 body with e | u
    · trivial
    · exact ⟨checkUpload_ok hcheck, fun _ _ _ hkind => by cases hkind⟩
  | deploy admitted expectedHash targeted =>
    rcases expectedHash with _ | sha256
    · trivial
    · have hevent : ∀ admitted' expectedHash' targeted',
          RawKind.deploy admitted (some sha256) targeted =
            .deploy admitted' expectedHash' targeted' → expectedHash' = some sha256 :=
        fun _ _ _ hkind => by cases hkind; rfl
      simp only [begin]
      split
      · trivial
      · split
        · exact hevent
        · split
          · exact hevent
          · trivial
  | ingest env artifact =>
    rw [begin]
    rcases hfetch : ingestBytes digest env artifact with e | ⟨sha256, bytes⟩
    · trivial
    · exact ⟨(ingestBytes_ok hfetch).1.1, fun _ _ _ hkind => by cases hkind⟩
  | replicate expectedHash =>
    rw [begin]
    split
    · trivial
    · exact fun _ _ _ hkind => by cases hkind
  | importArtifact sha256 authorized =>
    cases authorized with
    | true | false => exact fun _ _ _ hkind => by cases hkind

theorem receive_inv (answer : Except String HttpResponse)
    (hevent : ∀ admitted expectedHash targeted, kind = .deploy admitted expectedHash targeted →
      expectedHash = some sha256) : PointInv digest kind (receive digest answer sha256 kind) := by
  cases kind with
  | put sha256' body | ingest env artifact => trivial
  | deploy admitted expectedHash targeted | importArtifact sha256' authorized =>
    rw [receive]
    rcases hfetch : fetchArtifact digest sha256 answer with e | bytes
    · trivial
    · exact ⟨verifiedBody_ok hfetch, hevent⟩
  | replicate expectedHash =>
    rw [receive]
    rcases hfetch : fetchReplica digest sha256 answer with e | bytes
    · trivial
    · exact ⟨verifiedBody_ok hfetch, hevent⟩

theorem advance_inv {table : RawTable} {point : RawPoint} (answer : Except String HttpResponse)
    (committed : Bool) (htable : ∀ entry ∈ table, Addressed digest entry.1 entry.2)
    (hpoint : PointInv digest kind point) :
    (∀ entry ∈ (advance digest table kind answer committed point).1,
        Addressed digest entry.1 entry.2) ∧
      PointInv digest kind (advance digest table kind answer committed point).2 := by
  -- Bytes that are read have the key they are read by.
  have hread : ∀ {sha256 : String} {entry : String × List UInt8}, table.get? sha256 = some entry →
      Addressed digest sha256 entry.2 := by
    intro sha256 entry hget
    rcases OrdTable.get?_eq_some_iff.mp hget with ⟨hmem, hkey⟩
    rw [← hkey]
    exact htable entry hmem
  cases point with
  | start => exact ⟨htable, begin_inv table kind⟩
  | cached sha256 =>
    rw [advance]
    rcases hget : table.get? sha256 with _ | entry
    · exact ⟨htable, trivial⟩
    · exact ⟨htable, hread hget, hpoint⟩
  | fetching sha256 => exact ⟨htable, receive_inv answer hpoint⟩
  | fetched sha256 bytes =>
    rw [advance]
    rcases table.get? sha256 with _ | entry
    · exact ⟨htable, hpoint⟩
    · exact ⟨htable, trivial⟩
  | saving sha256 bytes =>
    rw [advance]
    cases committed with
    | false => exact ⟨htable, trivial⟩
    | true =>
      refine ⟨fun entry hentry => ?_, ?_⟩
      · rcases OrdTable.mem_insert.mp hentry with rfl | ⟨hold, -⟩
        · exact hpoint.1
        · exact htable entry hold
      · cases kind with
        | deploy _ _ _ | importArtifact _ _ => exact hpoint
        | put _ _ | ingest _ _ | replicate _ => trivial
  | polling sha256 attempts =>
    grind [advance, PointInv]
  | compiling sha256 bytes | returned => exact ⟨htable, trivial⟩

theorem rawInv_step (s : RawState) (a : RawAction) (h : RawInv digest s) :
    RawInv digest (rawStep digest s a) := by
  cases a with
  | call kind =>
    refine ⟨h.table, fun call hcall => ?_⟩
    rcases List.mem_cons.mp hcall with rfl | hold
    · trivial
    · exact h.calls call hold
  | advance index answer committed =>
    rw [rawStep]
    rcases hcall : s.calls[index]? with _ | ⟨kind, point⟩
    · exact h
    · rcases advance_inv answer committed h.table
        (h.calls (kind, point) (List.mem_of_getElem? hcall)) with ⟨htable, hpoint⟩
      refine ⟨htable, fun call hmem => ?_⟩
      rcases List.mem_or_eq_of_mem_set hmem with hold | rfl
      · exact h.calls call hold
      · exact hpoint
  | deleteRawWasmByKey key =>
    exact ⟨fun entry hentry => h.table entry (OrdTable.mem_remove.mp hentry).1, h.calls⟩
  | purgeAppState appName =>
    exact ⟨fun entry hentry => h.table entry (OrdTable.mem_filter.mp hentry).1, h.calls⟩

variable (digest)

theorem rawInv_run (actions : List RawAction) :
    RawInv digest (runAll (rawStep digest) ⟨OrdTable.empty, []⟩ actions) :=
  invariant_run rawInv_step actions
    ⟨fun entry hentry => absurd hentry (OrdTable.not_mem_empty entry), fun _ hcall => nomatch hcall⟩

/-- In every state, a raw artifact is stored under its hash, and a deployment compiles
    bytes with the hash of its event. -/
theorem raw_content_addressed (actions : List RawAction) :
    (∀ entry ∈ (runAll (rawStep digest) ⟨OrdTable.empty, []⟩ actions).rawWasm,
        entry.1 = Bytes.hexEncode (digest entry.2)) ∧
      ∀ admitted expectedHash targeted sha256 bytes,
        (.deploy admitted expectedHash targeted, .compiling sha256 bytes) ∈
            (runAll (rawStep digest) ⟨OrdTable.empty, []⟩ actions).calls →
          expectedHash = some (Bytes.hexEncode (digest bytes)) := by
  have hinv := rawInv_run digest actions
  refine ⟨fun entry hentry => (hinv.table entry hentry).symm, ?_⟩
  intro admitted expectedHash targeted sha256 bytes hcall
  rcases hinv.calls _ hcall with ⟨haddressed, hevent⟩
  rw [hevent admitted expectedHash targeted rfl, haddressed]

end Calls

end WasmCloud
