import Mathlib.Data.List.Sort
import Vaulted.Oracle.Auth

/-!
# Vaulted identities

`api/identity.rs`: an identity is a signing and an encryption key under an id; wallets are linked
to it, and a caller authenticated by a wallet acts as the identity it is linked to.

* `registerIdentity`, `identityChallenge`, `identityToken` — the handlers.
* `authenticatedIdentityForRequest` — which identity a caller acts as.  `vault_objects.rs` has
  the same function once more.
* one lemma per handler that says everything a call can do to the database.

The row of `identity_devices` that a registration may add, which none of these handlers reads, is
left out.
-/

namespace Vaulted.Identity

open Autocommit.Prog

/-! ## Checks -/

def validateHexKey (value : String) (expectedBytes : Nat) (field : String) :
    Except ApiError Unit := do
  let bytes ← Pre.mapErr (fun _ => .BadRequest (field ++ " must be hex")) (Text.hexDecode value)
  ensure (decide (bytes.length = expectedBytes))
    (.BadRequest (field ++ " must be " ++ toString expectedBytes ++ " bytes"))

def isPrePublicKey (value : String) : Bool :=
  (decide (Text.len value = 66) || decide (Text.len value = 128))
    && value.toList.all Text.isAsciiHexdigit

def validatePrePublicKey (value : String) : Except ApiError Unit :=
  ensure (isPrePublicKey value)
    (.BadRequest "pre_public_key must be a 33-byte compressed or 64-byte hex public key")

def verifyEd25519Hex (ed : Ed25519) (codec : TextCodec) :=
  ed.verifyWith
    { publicKey := "Invalid identity public key"
      publicKeyLength := "Invalid identity public key length"
      encoding := "Invalid identity signature encoding"
      length := "Invalid identity signature length"
      signature := "Invalid identity signature" }
    (hexOrBase64 codec)

def deriveIdentityId (state : AppState) (signingPublicKey encryptionPublicKey : String) : String :=
  Text.hexEncode (state.sha256
    (Text.utf8 ("Vaulted v1 identity id" ++ signingPublicKey ++ encryptionPublicKey)))

/-- The text of an error inside another one. -/
def asDatabaseError (context : String) (e : ApiError) : ApiError :=
  .Database (context ++ match e with
    | .Database message => message
    | e => e.display)

/-! ## Which identity a caller acts as -/

def isCanonicalVaultedIdentityId (value : String) : Bool := Text.isHexOfLen 64 value

/-- The live links of a wallet to active identities. -/
def liveLinks (walletAddress : String) (db : Db) : List LinkedWallet :=
  db.linkedWallets.rows.filter fun lw =>
    decide (lw.chain = "xrpl") && decide (lw.address = walletAddress) && lw.revokedAt.isNone
      && (db.identities.get? lw.identityId).any fun i => decide (i.status = .Active)

def isLinked (identityId walletAddress : String) (db : Db) : Bool :=
  (liveLinks walletAddress db).any fun lw => decide (lw.identityId = identityId)

/-- The two identities linked last. -/
def linkedIdentities (walletAddress : String) (db : Db) : List String :=
  (((liveLinks walletAddress db).insertionSort fun a b => b.createdAt ≤ a.createdAt).take 2).map
    LinkedWallet.identityId

def authenticatedIdentityForRequest (auth : AuthenticatedUser)
    (requestedIdentityId : Option String) (fieldName : String) : Handler String := do
  let mismatch := ApiError.Forbidden (fieldName ++ " does not match authenticated identity")
  match (requestedIdentityId.map Text.trim).filter fun v => !Text.isEmpty v with
  | some identityId =>
      if identityId = auth.walletAddress then pure identityId
      else do
        require (!isCanonicalVaultedIdentityId auth.walletAddress) mismatch
        let linked ← read (isLinked identityId auth.walletAddress)
        require linked mismatch
        pure identityId
  | none =>
      if isCanonicalVaultedIdentityId auth.walletAddress then pure auth.walletAddress
      else do
        let rows ← read (linkedIdentities auth.walletAddress)
        match rows with
        | [identityId] => pure identityId
        | [] => fail (.Forbidden "authenticated subject is not linked to a Vaulted identity")
        | _ =>
            fail (.Forbidden "authenticated subject is linked to multiple Vaulted identities")

/-! ## Statements -/

def upsertIdentity (i : VaultedIdentity) (db : Db) : Db :=
  { db with
    identities := db.identities.upsert i
      (fun old => { old with
        signingPublicKey := i.signingPublicKey, encryptionPublicKey := i.encryptionPublicKey,
        protocolVersion := i.protocolVersion })
      (fun _ => rfl) }

/-- `INSERT INTO linked_wallets …`, with the effect `f` on a link that is already there. -/
def upsertLink (lw : LinkedWallet) (f : LinkedWallet → LinkedWallet)
    (hf : ∀ old, (f old).key = old.key) (db : Db) : Db :=
  { db with linkedWallets := db.linkedWallets.upsert lw f hf }

/-- The active identity with an id. -/
def activeIdentity (id : String) (db : Db) : Option VaultedIdentity :=
  (db.identities.get? id).filter fun i => decide (i.status = .Active)

/-! ## Registration -/

structure LinkedWalletRequest where
  chain : String
  address : String
  proofSignature : Option String

structure RegisterIdentityRequest where
  vaultedIdentityId : Option String
  encryptionPublicKey : String
  signingPublicKey : String
  devicePublicKey : Option String
  protocolVersion : Option String
  linkedWallets : List LinkedWalletRequest

structure RegisterIdentityResponse where
  id : String
  created : Bool
  protocolVersion : String
  deriving DecidableEq

/-- The wallets of a registration, one statement each; errors are dropped. -/
def linkWallets (env : Env) (identityId : String) (wallets : List LinkedWalletRequest) (db : Db) :
    Db :=
  wallets.foldl (fun db wallet => upsertLink
    { identityId
      chain := wallet.chain
      address := wallet.address
      proofSignature := wallet.proofSignature
      createdAt := env.now
      revokedAt := none }
    (fun old => { old with proofSignature := wallet.proofSignature }) (fun _ => rfl) db) db

/-- Linking wallets touches no identity. -/
lemma identities_linkWallets (env : Env) (identityId : String)
    (wallets : List LinkedWalletRequest) (db : Db) :
    (linkWallets env identityId wallets db).identities = db.identities := by
  unfold linkWallets
  induction wallets generalizing db with
  | nil => rfl
  | cons wallet wallets ih => exact ih _

/-- The id a registration is stored under. -/
def RegisterIdentityRequest.identityId (state : AppState) (req : RegisterIdentityRequest) :
    String :=
  req.vaultedIdentityId.getD (deriveIdentityId state req.signingPublicKey req.encryptionPublicKey)

def registerIdentity (state : AppState) (env : Env) (req : RegisterIdentityRequest) :
    Handler RegisterIdentityResponse := do
  lift (validateHexKey req.encryptionPublicKey 32 "encryption_public_key")
  lift (validateHexKey req.signingPublicKey 32 "signing_public_key")
  lift (req.devicePublicKey.elim (.ok ()) fun devicePk =>
    validateHexKey devicePk 32 "device_public_key")
  let identityId := req.identityId state
  let protocolVersion := req.protocolVersion.getD "vaulted-v1"
  let created ← read fun db => (db.identities.get? identityId).isNone
  write fun db => .ok (upsertIdentity
    { id := identityId
      signingPublicKey := req.signingPublicKey
      encryptionPublicKey := req.encryptionPublicKey
      protocolVersion
      status := .Active } db)
  write fun db => .ok (linkWallets env identityId req.linkedWallets db)
  pure { id := identityId, created, protocolVersion }

/-! ## Login -/

structure IdentityChallengeResponse where
  challengeId : Uuid
  challenge : String
  expiresAt : Time
  deriving DecidableEq

/-- `nonce` is the drawn 32 bytes.  Nothing is stored. -/
def identityChallenge (env : Env) (nonce : List UInt8) (identityId : String) :
    Handler IdentityChallengeResponse :=
  pure
    { challengeId := env.uuid 0
      challenge := "Vaulted identity login:vaulted-v1:" ++ identityId ++ ":" ++ Text.hexEncode nonce
      expiresAt := env.now + 5 * 60000000 }

structure IdentityTokenRequest where
  identityId : String
  walletAddress : String
  prePublicKey : Option String
  challenge : String
  signature : String
  devicePublicKey : Option String

structure IdentityTokenResponse where
  identityId : String
  verified : Bool
  accessToken : Claims
  tokenType : String
  expiresIn : Nat
  refreshToken : Option Claims
  role : Option String
  deriving DecidableEq

/-- `upsert_verified_wallet_recipient_key`: first statement. -/
def upsertRecipientKey (user : User) (db : Db) : Except ApiError Db :=
  match db.users.upsert? user (fun old => { old with prePublicKey := user.prePublicKey })
      (fun _ => rfl) with
  | some users => .ok { db with users }
  | none => .error (.uniqueViolation "users_pkey")

lemma upsertRecipientKey_eq_ok {user : User} {db db' : Db}
    (h : upsertRecipientKey user db = .ok db') : ∃ users,
      db.users.upsert? user (fun old => { old with prePublicKey := user.prePublicKey })
        (fun _ => rfl) = some users ∧ db' = { db with users } := by
  unfold upsertRecipientKey at h
  split at h
  · next users husers => exact ⟨users, husers, (Except.ok.inj h).symm⟩
  · cases h

def upsertVerifiedWalletRecipientKey (env : Env) (identityId walletAddress prePublicKey : String) :
    Handler Unit := do
  let address ← lift (Pre.mapErr (asDatabaseError "Failed to upsert recipient public key: ")
    (varchar 35 walletAddress))
  write fun db => Pre.mapErr (asDatabaseError "Failed to upsert recipient public key: ")
    (upsertRecipientKey { id := env.uuid 0, walletAddress := address, prePublicKey } db)
  write fun db => .ok (upsertLink
    { identityId
      chain := "xrpl"
      address := walletAddress
      proofSignature := none
      createdAt := env.now
      revokedAt := none }
    (fun old => { old with proofSignature := none, revokedAt := none }) (fun _ => rfl) db)

/-- The challenge is bound to the recipient key, if the request has one. -/
def checkRecipientKey (req : IdentityTokenRequest) : Except ApiError Unit :=
  req.prePublicKey.elim (.ok ()) fun prePublicKey => do
    validatePrePublicKey prePublicKey
    ensure (Text.contains req.challenge ("pre_public_key:" ++ prePublicKey))
      (.Unauthorized "Challenge is not bound to the recipient public key")

def identityToken (ed : Ed25519) (codec : TextCodec) (env : Env) (req : IdentityTokenRequest) :
    Handler IdentityTokenResponse := do
  let identity? ← read (activeIdentity req.identityId)
  let identity ← expect identity? (.Unauthorized "Unknown Vaulted identity")
  let walletAddress := Text.trim req.walletAddress
  require (!Text.isEmpty walletAddress) (.BadRequest "wallet_address is required")
  require (Text.contains req.challenge ("vaulted-v1:" ++ req.identityId))
    (.Unauthorized "Challenge is not bound to this identity")
  require (Text.contains req.challenge ("wallet_address:" ++ walletAddress))
    (.Unauthorized "Challenge is not bound to the requested wallet")
  lift (checkRecipientKey req)
  lift (verifyEd25519Hex ed codec identity.signingPublicKey (Text.utf8 req.challenge)
    req.signature)
  lift (req.devicePublicKey.elim (.ok ()) fun devicePk =>
    validateHexKey devicePk 32 "device_public_key")
  match req.prePublicKey with
  | some prePublicKey =>
      upsertVerifiedWalletRecipientKey env req.identityId walletAddress prePublicKey
  | none => pure ()
  pure
    { identityId := req.identityId
      verified := true
      accessToken := .newAccessWithRole env.now (env.uuid 1) walletAddress 1 "user"
      tokenType := "Bearer"
      expiresIn := 3600
      refreshToken := some (.newRefresh env.now (env.uuid 2) walletAddress 7)
      role := some "user" }

/-! ## What a call can do -/

lemma identityId_of_isLinked {identityId walletAddress : String} {db : Db}
    (h : isLinked identityId walletAddress db = true) :
    ∃ lw ∈ liveLinks walletAddress db, lw.identityId = identityId := by
  obtain ⟨lw, hlw, hid⟩ := List.any_eq_true.mp h
  exact ⟨lw, hlw, of_decide_eq_true hid⟩

/-- The identities that a caller without a canonical id is resolved among. -/
lemma mem_linkedIdentities {identityId walletAddress : String} {db : Db}
    (h : identityId ∈ linkedIdentities walletAddress db) :
    ∃ lw ∈ liveLinks walletAddress db, lw.identityId = identityId := by
  obtain ⟨lw, hlw, hid⟩ := List.mem_map.mp h
  exact ⟨lw, (List.mem_insertionSort _).mp (List.mem_of_mem_take hlw), hid⟩

lemma liveLinks_iff {walletAddress : String} {db : Db} {lw : LinkedWallet} :
    lw ∈ liveLinks walletAddress db ↔ lw ∈ db.linkedWallets.rows ∧ lw.chain = "xrpl"
      ∧ lw.address = walletAddress ∧ lw.revokedAt = none
      ∧ ∃ i, activeIdentity lw.identityId db = some i := by
  simp [liveLinks, activeIdentity, and_assoc, Option.any_eq_true, Option.filter_eq_some_iff]

/-- No identity is found twice for a wallet. -/
lemma nodup_linkedIdentities (walletAddress : String) (db : Db) :
    (linkedIdentities walletAddress db).Nodup := by
  have hlinks : ((liveLinks walletAddress db).map LinkedWallet.identityId).Nodup := by
    have hkeys : ((liveLinks walletAddress db).map LinkedWallet.key).Nodup :=
      db.linkedWallets.nodup.sublist (List.filter_sublist.map _)
    refine List.Nodup.of_map (fun id => (id, "xrpl", walletAddress)) ?_
    rw [List.map_map]
    convert hkeys using 1
    refine List.map_congr_left fun lw hlw => ?_
    obtain ⟨-, hchain, haddress, -⟩ := liveLinks_iff.mp hlw
    rw [LinkedWallet.key, hchain, haddress]
    rfl
  refine List.Nodup.sublist ((List.take_sublist _ _).map _) ?_
  exact ((List.perm_insertionSort _ _).map _).nodup_iff.mpr hlinks

/-- **A caller acts as itself or as an identity its wallet is linked to**; resolving it changes
nothing. -/
theorem authenticatedIdentityForRequest_spec (auth : AuthenticatedUser)
    (requested : Option String) (fieldName : String) (db : Db) :
    wp (authenticatedIdentityForRequest auth requested fieldName) (fun r db' => db' = db
      ∧ ∀ id, r = .ok id → id = auth.walletAddress
        ∨ ∃ lw ∈ liveLinks auth.walletAddress db, lw.identityId = id) db := by
  have refused : ∀ e : ApiError, db = db ∧ ∀ id : String, Except.error e = .ok id →
      id = auth.walletAddress ∨ ∃ lw ∈ liveLinks auth.walletAddress db, lw.identityId = id :=
    fun e => ⟨rfl, fun _ h => nomatch h⟩
  unfold authenticatedIdentityForRequest
  dsimp only
  split
  · next identityId _ =>
      split_ifs with hself
      · exact wp_pure ⟨rfl, fun id hid => .inl (by rw [← Except.ok.inj hid, hself])⟩
      · refine wp_require_bind (fun _ => refused _) fun _ => ?_
        refine wp_read_bind (wp_require_bind (fun _ => refused _) fun hlinked => wp_pure ?_)
        refine ⟨rfl, fun id hid => .inr ?_⟩
        rw [← Except.ok.inj hid]
        exact identityId_of_isLinked hlinked
  · split_ifs
    · exact wp_pure ⟨rfl, fun id hid => .inl (Except.ok.inj hid).symm⟩
    · refine wp_read_bind ?_
      split
      · next identityId hrows =>
          refine wp_pure ⟨rfl, fun id hid => .inr ?_⟩
          rw [← Except.ok.inj hid]
          exact mem_linkedIdentities (by rw [hrows]; exact List.mem_singleton_self _)
      · exact wp_fail (refused _)
      · exact wp_fail (refused _)

/-- The identity that a caller acts as. -/
def Resolves (auth : AuthenticatedUser) (requested : Option String) (fieldName : String) (db : Db)
    (identityId : String) : Prop :=
  (authenticatedIdentityForRequest auth requested fieldName db).1 = .ok identityId

lemma Resolves.own_or_linked {auth : AuthenticatedUser} {requested : Option String}
    {fieldName : String} {db : Db} {identityId : String}
    (h : Resolves auth requested fieldName db identityId) : identityId = auth.walletAddress
      ∨ ∃ lw ∈ liveLinks auth.walletAddress db, lw.identityId = identityId :=
  (authenticatedIdentityForRequest_spec auth requested fieldName db).2 identityId h

/-- A caller may act as an identity: some request of the caller is resolved to it. -/
def ActsAs (auth : AuthenticatedUser) (identityId : String) (db : Db) : Prop :=
  ∃ requested fieldName, Resolves auth requested fieldName db identityId

lemma Resolves.actsAs {auth : AuthenticatedUser} {requested : Option String} {fieldName : String}
    {db : Db} {identityId : String} (h : Resolves auth requested fieldName db identityId) :
    ActsAs auth identityId db :=
  ⟨requested, fieldName, h⟩

lemma ActsAs.own_or_linked {auth : AuthenticatedUser} {identityId : String} {db : Db}
    (h : ActsAs auth identityId db) : identityId = auth.walletAddress
      ∨ ∃ lw ∈ liveLinks auth.walletAddress db, lw.identityId = identityId := by
  obtain ⟨requested, fieldName, hresolves⟩ := h
  exact hresolves.own_or_linked

/-- The rule for a handler that resolves its caller. -/
lemma wp_resolve_bind {α : Type} {auth : AuthenticatedUser} {requested : Option String}
    {fieldName : String} {g : String → Handler α} {Q : Except ApiError α → Db → Prop} {db : Db}
    (herr : ∀ e, (authenticatedIdentityForRequest auth requested fieldName db).1 = .error e →
      Q (.error e) db)
    (h : ∀ identityId, Resolves auth requested fieldName db identityId → wp (g identityId) Q db) :
    wp (authenticatedIdentityForRequest auth requested fieldName >>= g) Q db := by
  have hsame : (authenticatedIdentityForRequest auth requested fieldName db).2 = db :=
    (authenticatedIdentityForRequest_spec auth requested fieldName db).1
  refine wp_bind ?_
  rw [wp, hsame]
  cases hr : (authenticatedIdentityForRequest auth requested fieldName db).1 with
  | error e => exact herr e hr
  | ok identityId => exact h identityId hr

/-- What `registerIdentity` asks of a request: keys of the right form. -/
structure Registrable (req : RegisterIdentityRequest) : Prop where
  encryption : validateHexKey req.encryptionPublicKey 32 "encryption_public_key" = .ok ()
  signing : validateHexKey req.signingPublicKey 32 "signing_public_key" = .ok ()
  device : (req.devicePublicKey.elim (.ok ()) fun devicePk =>
    validateHexKey devicePk 32 "device_public_key") = .ok ()

inductive RegistersIdentity (state : AppState) (env : Env) (req : RegisterIdentityRequest)
    (db : Db) : Except ApiError RegisterIdentityResponse → Db → Prop
  | Refused (e : ApiError) : RegistersIdentity state env req db (.error e) db
  | Registered (protocolVersion : String) (answer : RegisterIdentityResponse) : Registrable req →
      RegistersIdentity state env req db (.ok answer)
        (linkWallets env (req.identityId state) req.linkedWallets (upsertIdentity
          { id := req.identityId state
            signingPublicKey := req.signingPublicKey
            encryptionPublicKey := req.encryptionPublicKey
            protocolVersion
            status := .Active } db))

theorem registerIdentity_spec (state : AppState) (env : Env) (req : RegisterIdentityRequest)
    (db : Db) : wp (registerIdentity state env req) (RegistersIdentity state env req db) db := by
  refine wp_lift_bind (fun _ _ => .Refused _) fun _ hencryption => ?_
  refine wp_lift_bind (fun _ _ => .Refused _) fun _ hsigning => ?_
  refine wp_lift_bind (fun _ _ => .Refused _) fun _ hdevice => ?_
  refine wp_read_bind (wp_write_bind (fun _ h => nomatch h) fun db₁ hdb₁ => ?_)
  cases hdb₁
  refine wp_write_bind (fun _ h => nomatch h) fun db₂ hdb₂ => wp_pure ?_
  cases hdb₂
  exact .Registered _ _ ⟨hencryption, hsigning, hdevice⟩

/-- What `identityToken` asks of a login: an active identity, whose key has signed a challenge
that contains the id, the wallet and the recipient key of the request. -/
structure Accepted (ed : Ed25519) (codec : TextCodec) (req : IdentityTokenRequest) (db : Db)
    (identity : VaultedIdentity) : Prop where
  registered : activeIdentity req.identityId db = some identity
  wallet : Text.isEmpty (Text.trim req.walletAddress) = false
  boundIdentity : Text.contains req.challenge ("vaulted-v1:" ++ req.identityId) = true
  boundWallet :
    Text.contains req.challenge ("wallet_address:" ++ Text.trim req.walletAddress) = true
  boundKey : checkRecipientKey req = .ok ()
  signed : verifyEd25519Hex ed codec identity.signingPublicKey (Text.utf8 req.challenge)
    req.signature = .ok ()
  device : (req.devicePublicKey.elim (.ok ()) fun devicePk =>
    validateHexKey devicePk 32 "device_public_key") = .ok ()

inductive Logins (ed : Ed25519) (codec : TextCodec) (env : Env) (req : IdentityTokenRequest)
    (db : Db) : Except ApiError IdentityTokenResponse → Db → Prop
  | Refused (e : ApiError) : Logins ed codec env req db (.error e) db
  | Issued (identity : VaultedIdentity) (answer : IdentityTokenResponse) :
      Accepted ed codec req db identity → req.prePublicKey = none →
      Logins ed codec env req db (.ok answer) db
  | Linked (identity : VaultedIdentity) (prePublicKey address : String)
      (answer : IdentityTokenResponse) (db₁ : Db) : Accepted ed codec req db identity →
      req.prePublicKey = some prePublicKey →
      varchar 35 (Text.trim req.walletAddress) = .ok address →
      upsertRecipientKey { id := env.uuid 0, walletAddress := address, prePublicKey } db = .ok db₁ →
      Logins ed codec env req db (.ok answer) (upsertLink
        { identityId := req.identityId
          chain := "xrpl"
          address := Text.trim req.walletAddress
          proofSignature := none
          createdAt := env.now
          revokedAt := none }
        (fun old => { old with proofSignature := none, revokedAt := none }) (fun _ => rfl) db₁)

section Login

attribute [local irreducible] wp

theorem identityToken_spec (ed : Ed25519) (codec : TextCodec) (env : Env)
    (req : IdentityTokenRequest) (db : Db) :
    wp (identityToken ed codec env req) (Logins ed codec env req db) db := by
  unfold identityToken
  refine wp_read_bind (wp_expect_bind (fun _ => .Refused _) fun identity hidentity => ?_)
  refine wp_require_bind (fun _ => .Refused _) fun hwallet => ?_
  refine wp_require_bind (fun _ => .Refused _) fun hboundId => ?_
  refine wp_require_bind (fun _ => .Refused _) fun hboundWallet => ?_
  refine wp_lift_bind (fun _ _ => .Refused _) fun _ hboundKey => ?_
  refine wp_lift_bind (fun _ _ => .Refused _) fun _ hsigned => ?_
  refine wp_lift_bind (fun _ _ => .Refused _) fun _ hdevice => ?_
  have haccept : Accepted ed codec req db identity :=
    ⟨hidentity, by simpa using hwallet, hboundId, hboundWallet, hboundKey, hsigned, hdevice⟩
  cases hkey : req.prePublicKey with
  | none => exact wp_pure (.Issued identity _ haccept hkey)
  | some prePublicKey =>
      refine wp_bind (wp_lift_bind (fun _ _ => .Refused _) fun address haddress => ?_)
      refine wp_write_bind (fun _ _ => .Refused _) fun db₁ hdb₁ => ?_
      refine wp_write (fun _ h => nomatch h) fun db₂ hdb₂ => wp_pure ?_
      cases hdb₂
      exact .Linked identity prePublicKey address _ db₁ haccept hkey
        (Pre.eq_ok_of_mapErr haddress) (Pre.eq_ok_of_mapErr hdb₁)

lemma identityToken_issues (ed : Ed25519) (codec : TextCodec) (env : Env)
    (req : IdentityTokenRequest) (db : Db) :
    wp (identityToken ed codec env req) (fun r _ => ∀ a, r = .ok a → a.accessToken
      = .newAccessWithRole env.now (env.uuid 1) (Text.trim req.walletAddress) 1 "user") db := by
  unfold identityToken
  refine wp_read_bind (wp_expect_bind (fun _ _ h => nomatch h) fun identity _ => ?_)
  refine wp_require_bind (fun _ _ h => nomatch h) fun _ => ?_
  refine wp_require_bind (fun _ _ h => nomatch h) fun _ => ?_
  refine wp_require_bind (fun _ _ h => nomatch h) fun _ => ?_
  refine wp_lift_bind (fun _ _ _ h => nomatch h) fun _ _ => ?_
  refine wp_lift_bind (fun _ _ _ h => nomatch h) fun _ _ => ?_
  refine wp_lift_bind (fun _ _ _ h => nomatch h) fun _ _ => ?_
  cases req.prePublicKey with
  | none => exact wp_pure fun a ha => by rw [← Except.ok.inj ha]
  | some prePublicKey =>
      refine wp_bind (wp_lift_bind (fun _ _ _ h => nomatch h) fun _ _ => ?_)
      refine wp_write_bind (fun _ _ _ h => nomatch h) fun _ _ => ?_
      exact wp_write (fun _ h => nomatch h) fun _ _ => wp_pure fun a ha => by
        rw [← Except.ok.inj ha]

end Login

/-- The access token of a login is one for the wallet that it names. -/
lemma accessToken_of_identityToken {ed : Ed25519} {codec : TextCodec} {env : Env}
    {req : IdentityTokenRequest} {db : Db} {answer : IdentityTokenResponse}
    (h : (identityToken ed codec env req db).1 = .ok answer) :
    answer.accessToken
      = .newAccessWithRole env.now (env.uuid 1) (Text.trim req.walletAddress) 1 "user" :=
  identityToken_issues ed codec env req db answer h

end Vaulted.Identity
