import WasmCloud.Gateway.Authz

/-!
# Where a Role Is Looked For

`validate_with_cache` flattens the two places a token carries roles in into one list of
texts: a realm role keeps its name, and a role of a client is spelled `client:role`. The
documentation of the policy keeps the places apart, which the flattened list cannot do.
`Granted` is the documented place, `Strayed` is every other place the check reaches, and
`authorizeRoles_identityOf` says that the check accepts exactly their union.

Verifying a token is another package's code; `JwtCrate` is its outcome.
-/

namespace WasmCloud

open List

/-- `Value::as_object`: the members of an object. -/
def Json.asObject : Json → Option (List (String × Json))
  | .object fields => some fields
  | _ => none

/-- The strings of the `roles` array of a value. -/
def rolesMember (value : Json) : List String :=
  ((value.get "roles").bind Json.asArray).elim [] stringItems

variable (claims : Json)

/-- `realm_roles` of `validate_with_cache`. -/
def realmRoles : List String :=
  (claims.get "realm_access").elim [] rolesMember

/-- The members of `resource_access`, one for each client. -/
def resourceAccess : List (String × Json) :=
  ((claims.get "resource_access").bind Json.asObject).elim [] id

/-- `client_roles` of `validate_with_cache`. -/
def clientRoles : List String :=
  (resourceAccess claims).flatMap (fun member =>
    (rolesMember member.2).map (fun role => member.1 ++ ":" ++ role))

/-- The identity `validate_with_cache` builds from the claims. -/
def identityOf : UserIdentity :=
  { sub := ((claims.get "sub").bind Json.asStr).getD "unknown"
    email := (claims.get "email").bind Json.asStr
    roles := realmRoles claims ++ clientRoles claims
    rawClaims := claims }

/-- The part of `OidcConfig` that validation reads. -/
structure OidcConfig where
  issuerUrl : String
  audience : String
  clockSkewSecs : UInt64
  deriving DecidableEq, Repr

/-- The validation set up for `decode`: RS256, one audience, one issuer, a leeway. -/
structure JwtValidation where
  audience : String
  issuer : String
  leeway : UInt64
  deriving DecidableEq, Repr

/-- `jsonwebtoken::decode`: the claims of a token that verifies, or an error. -/
structure JwtCrate (κ : Type) where
  decode : String → κ → JwtValidation → Except String Json

/-- `JwksCache`, the keys by key ID. -/
structure JwksCache (κ : Type) where
  keys : String → Option κ

def validateWithCache {κ : Type} (jwt : JwtCrate κ) (config : OidcConfig) (token kid : String)
    (cache : JwksCache κ) : Except GatewayError UserIdentity :=
  match cache.keys kid with
  | none => .error (.auth ("unknown key ID: " ++ kid))
  | some key =>
    match jwt.decode token key ⟨config.audience, config.issuerUrl, config.clockSkewSecs⟩ with
    | .error e => .error (.auth ("JWT validation failed: " ++ e))
    | .ok claims => .ok (identityOf claims)

theorem eq_identityOf_of_validate {κ : Type} {jwt : JwtCrate κ} {config : OidcConfig}
    {token kid : String} {cache : JwksCache κ} {identity : UserIdentity}
    (h : validateWithCache jwt config token kid cache = .ok identity) :
    identity = identityOf identity.rawClaims := by
  unfold validateWithCache at h
  split at h
  · cases h
  · split at h
    · cases h
    · cases h
      rfl

/-- The role occurs in `resource_access.<client>.roles`. -/
def GrantsClient (client role : String) : Prop :=
  ∃ member ∈ resourceAccess claims, member.1 = client ∧ role ∈ rolesMember member.2

/-- The role stands where the policy looks: in the realm, or under the client it names. -/
def Granted : Option String → String → Prop
  | none, required => required ∈ realmRoles claims
  | some client, required => GrantsClient claims client required

/-- The role stands where the policy does not look, under a spelling it accepts. -/
def Strayed : Option String → String → Prop
  | none, required => ∃ client role, GrantsClient claims client role ∧
      client ++ ":" ++ role = required
  | some own, required => required ∈ realmRoles claims ∨
      own ++ ":" ++ required ∈ realmRoles claims ∨
      ∃ client role, GrantsClient claims client role ∧
        (client ++ ":" ++ role = required ∨
          client ≠ own ∧ client ++ ":" ++ role = own ++ ":" ++ required)

theorem mem_clientRoles (text : String) : text ∈ clientRoles claims ↔
      ∃ client role, GrantsClient claims client role ∧ client ++ ":" ++ role = text := by
  unfold clientRoles
  rw [mem_flatMap]
  constructor
  · intro h
    obtain ⟨member, hmember, htext⟩ := h
    obtain ⟨role, hrole, heq⟩ := mem_map.mp htext
    exact ⟨member.1, role, ⟨member, hmember, rfl, hrole⟩, heq⟩
  · intro h
    obtain ⟨client, role, ⟨member, hmember, hclient, hrole⟩, heq⟩ := h
    rw [← hclient] at heq
    exact ⟨member, hmember, mem_map.mpr ⟨role, hrole, heq⟩⟩

theorem spelling_injective {client role role' : String}
    (h : client ++ ":" ++ role = client ++ ":" ++ role') : role = role' :=
  (String.append_right_inj _).mp h

/-- The client grants the role, or another role is spelled the same. -/
theorem mem_roles_spelling (own required : String) :
    own ++ ":" ++ required ∈ (identityOf claims).roles ↔
      GrantsClient claims own required ∨ own ++ ":" ++ required ∈ realmRoles claims ∨
        ∃ client role, GrantsClient claims client role ∧ client ≠ own ∧
          client ++ ":" ++ role = own ++ ":" ++ required := by
  change own ++ ":" ++ required ∈ realmRoles claims ++ clientRoles claims ↔ _
  rw [mem_append, mem_clientRoles]
  constructor
  · intro h
    rcases h with hrealm | ⟨client, role, hgrants, hspelled⟩
    · exact .inr (.inl hrealm)
    · by_cases hclient : client = own
      · -- The same client, so the same role.
        rw [hclient] at hgrants hspelled
        rw [spelling_injective hspelled] at hgrants
        exact .inl hgrants
      · exact .inr (.inr ⟨client, role, hgrants, hclient, hspelled⟩)
  · grind

/-- What the check asks of one allowed role. -/
def passesRole (identity : UserIdentity) (clientId : Option String) (required : String) : Prop :=
  required ∈ identity.roles ∨
    ∃ cid ∈ clientId, cid ++ ":" ++ required ∈ identity.roles

theorem authorizeRoles_iff (identity : UserIdentity) (allowed : List String)
    (clientId : Option String) :
    authorizeRoles identity allowed clientId = true ↔
      ∃ required ∈ allowed, passesRole identity clientId required := by
  simp only [authorizeRoles, passesRole, any_eq_true, Bool.or_eq_true, beq_iff_eq,
    Option.any_eq_true, exists_eq_right]
  rfl

theorem passesRole_identityOf (clientId : Option String) (required : String) :
    passesRole (identityOf claims) clientId required ↔
      Granted claims clientId required ∨ Strayed claims clientId required := by
  have hbare : required ∈ (identityOf claims).roles ↔ required ∈ realmRoles claims ∨
      ∃ client role, GrantsClient claims client role ∧ client ++ ":" ++ role = required := by
    rw [← mem_clientRoles]
    exact mem_append
  cases clientId with
  | none =>
    simp [passesRole, hbare, Granted, Strayed]
  | some own =>
    simp only [passesRole, Option.mem_some_iff, exists_eq_left', hbare, mem_roles_spelling, Granted,
      Strayed]
    grind

theorem authorizeRoles_identityOf (allowed : List String) (clientId : Option String) :
    authorizeRoles (identityOf claims) allowed clientId = true ↔
      (∃ required ∈ allowed, Granted claims clientId required) ∨
        ∃ required ∈ allowed, Strayed claims clientId required := by
  rw [authorizeRoles_iff]
  simp only [passesRole_identityOf, and_or_left, exists_or]

/-- The check of a validated token is the documented one exactly if an allowed
    role is granted or no allowed role has strayed. -/
theorem roles_documented_iff {κ : Type} (jwt : JwtCrate κ) (config : OidcConfig)
    (token kid : String) (cache : JwksCache κ) (identity : UserIdentity)
    (h : validateWithCache jwt config token kid cache = .ok identity)
    (allowed : List String) (clientId : Option String) :
    (authorizeRoles identity allowed clientId = true ↔
        ∃ required ∈ allowed, Granted identity.rawClaims clientId required) ↔
      (∃ required ∈ allowed, Granted identity.rawClaims clientId required) ∨
        ∀ required ∈ allowed, ¬ Strayed identity.rawClaims clientId required := by
  obtain ⟨claims, rfl⟩ : ∃ claims, identity = identityOf claims :=
    ⟨identity.rawClaims, eq_identityOf_of_validate h⟩
  change (_ ↔ ∃ required ∈ allowed, Granted claims clientId required) ↔
    (∃ required ∈ allowed, Granted claims clientId required) ∨
      ∀ required ∈ allowed, ¬ Strayed claims clientId required
  rw [authorizeRoles_identityOf]
  constructor
  · intro hiff
    by_cases hstrayed : ∃ required ∈ allowed, Strayed claims clientId required
    · exact .inl (hiff.mp (.inr hstrayed))
    · right
      intro required hrequired hstray
      exact hstrayed ⟨required, hrequired, hstray⟩
  · intro hcond
    constructor
    · intro haccepted
      rcases haccepted with hgranted | ⟨required, hrequired, hstray⟩
      · exact hgranted
      · rcases hcond with hgranted | hnone
        · exact hgranted
        · exact absurd hstray (hnone required hrequired)
    · exact .inl

/-- The claims of a user with the realm role `user` and the role `reader` of
    the client `api`. -/
def sampleClaims : Json :=
  .object [("realm_access", .object [("roles", .array [.string "user"])]),
    ("resource_access", .object [("api", .object [("roles", .array [.string "reader"])])])]

def sampleJwt : JwtCrate Unit := ⟨fun _ _ _ => .ok sampleClaims⟩

theorem grantsClient_sampleClaims (client role : String) :
    GrantsClient sampleClaims client role ↔ "api" = client ∧ role = "reader" := by
  have haccess : resourceAccess sampleClaims =
      [("api", .object [("roles", .array [.string "reader"])])] := rfl
  have hroles : rolesMember (.object [("roles", .array [.string "reader"])]) = ["reader"] := rfl
  simp [GrantsClient, haccess, hroles]

/-- The client's own role, asked for under the client, is granted. -/
theorem roles_documented_reader :
    authorizeRoles (identityOf sampleClaims) ["reader"] (some "api") = true ↔
      ∃ required ∈ ["reader"], Granted sampleClaims (some "api") required :=
  (roles_documented_iff sampleJwt ⟨"https://issuer", "api", 30⟩ "token" "k1" ⟨fun _ => some ()⟩
    (identityOf sampleClaims) rfl ["reader"] (some "api")).mpr
    (.inl ⟨"reader", mem_singleton.mpr rfl,
      (grantsClient_sampleClaims "api" "reader").mpr ⟨rfl, rfl⟩⟩)

/-- A policy for the client `api` asks for the role `user`, which the client
    does not grant, and the realm role of that name is accepted. A policy
    without a client asks for the realm role `api:reader`, and the role of the
    client is accepted. -/
theorem strayed_roles_accepted :
    validateWithCache sampleJwt ⟨"https://issuer", "api", 30⟩ "token" "k1" ⟨fun _ => some ()⟩ =
        .ok (identityOf sampleClaims) ∧
      (authorizeRoles (identityOf sampleClaims) ["user"] (some "api") = true ∧
        ¬ ∃ required ∈ ["user"], Granted sampleClaims (some "api") required) ∧
      (authorizeRoles (identityOf sampleClaims) ["api:reader"] none = true ∧
        ¬ ∃ required ∈ ["api:reader"], Granted sampleClaims none required) := by
  refine ⟨rfl, ⟨by decide, ?_⟩, by decide, ?_⟩
  · intro h
    obtain ⟨required, hrequired, hgranted⟩ := h
    rw [mem_singleton] at hrequired
    obtain ⟨-, hrole⟩ := (grantsClient_sampleClaims "api" required).mp hgranted
    rw [hrequired] at hrole
    nomatch hrole
  · intro h
    obtain ⟨required, hrequired, hgranted⟩ := h
    have hrealm : required ∈ ["user"] := hgranted
    rw [mem_singleton] at hrequired hrealm
    rw [hrequired] at hrealm
    nomatch hrealm

end WasmCloud
