import Vaulted.Oracle.Identity

/-!
# Vault objects and grants

`api/vault_objects.rs`, and the message of `api/grant_signature.rs` that an owner signs: a vault
object is the pointer to a signed manifest, and a grant gives another identity access to it.

* `registerVaultObject`, `createGrant`, `revokeGrant` — the handlers.
* one lemma per handler that says everything a call can do to the database.

A signed manifest is what the handler compares of it, together with the outcome of the two
computations of the crypto core that are made on it.
-/

namespace Vaulted.VaultObjects

open Autocommit.Prog Identity

/-! ## Grant signatures -/

/-- Object keys in order, at every level. -/
def canonicalJson : Json → Json
  | .Arr items => .Arr (items.attach.map fun ⟨j, _⟩ => canonicalJson j)
  | .Obj members => .Obj ((members.attach.map fun ⟨m, _⟩ => (m.1, canonicalJson m.2)).insertionSort
      fun a b => a.1 ≤ b.1)
  | j => j
termination_by j => sizeOf j
decreasing_by
  · have := List.sizeOf_lt_of_mem ‹_ ∈ items›
    simp only [Json.Arr.sizeOf_spec]
    omega
  · have := List.sizeOf_lt_of_mem ‹_ ∈ members›
    rcases m with ⟨k, v⟩
    simp only [Prod.mk.sizeOf_spec, Json.Obj.sizeOf_spec] at this ⊢
    omega

lemma canonicalJson_arr (items : List Json) :
    canonicalJson (.Arr items) = .Arr (items.map canonicalJson) := by
  rw [canonicalJson]
  exact congrArg Json.Arr List.attach_map_val

lemma canonicalJson_obj (members : List (String × Json)) : canonicalJson (.Obj members)
    = .Obj ((members.map fun m => (m.1, canonicalJson m.2)).insertionSort fun a b => a.1 ≤ b.1) := by
  have hmap : (members.attach.map fun x => (x.1.1, canonicalJson x.1.2))
      = members.map fun m => (m.1, canonicalJson m.2) :=
    List.attach_map_val (f := fun m : String × Json => (m.1, canonicalJson m.2))
  rw [canonicalJson, hmap]

structure GrantSignatureContext where
  action : String
  grantId : Uuid
  vaultObjectId : String
  nftTokenId : Option String
  ownerIdentityId : String
  recipientIdentityId : String
  permissions : Json
  expiresAt : Option DateTime
  keyEnvelope : Json

/-- `stable_json_sha256_hex`. -/
def stableJsonSha256Hex (state : AppState) (codec : TextCodec) (value : Json) : String :=
  Text.hexEncode (state.sha256 (Text.utf8 (codec.jsonToString (canonicalJson value))))

/-- `rfc3339` prints a time. -/
def grantSignatureMessage (state : AppState) (codec : TextCodec) (rfc3339 : DateTime → String)
    (ctx : GrantSignatureContext) : String :=
  "vaulted-grant-v1\nversion:1\naction:" ++ ctx.action
    ++ "\ngrant_id:" ++ ctx.grantId.text
    ++ "\nvault_object_id:" ++ ctx.vaultObjectId
    ++ "\nnft_token_id:" ++ ctx.nftTokenId.getD ""
    ++ "\nowner_identity_id:" ++ ctx.ownerIdentityId
    ++ "\nrecipient_identity_id:" ++ ctx.recipientIdentityId
    ++ "\npermissions_sha256:" ++ stableJsonSha256Hex state codec ctx.permissions
    ++ "\nexpires_at:" ++ (ctx.expiresAt.map rfc3339).getD ""
    ++ "\nkey_envelope_sha256:" ++ stableJsonSha256Hex state codec ctx.keyEnvelope

def verifyGrantOwnerSignature (ed : Ed25519) (codec : TextCodec) (signingPublicKey message : String)
    (signature : String) : Except ApiError Unit := do
  ensure (!Text.isEmpty (Text.trim signature)) (.Unauthorized "Missing grant owner signature")
  ed.verifyWith
    { publicKey := "Invalid grant owner public key"
      publicKeyLength := "Invalid grant owner public key length"
      encoding := "Invalid grant owner signature encoding"
      length := "Invalid grant owner signature length"
      signature := "Invalid grant owner signature" }
    (hexOrBase64 codec) signingPublicKey (Text.utf8 message) signature

/-! ## Registering a vault object -/

/-- A manifest of the crypto core, with the outcomes of `verify_signature` and
`manifest_hash`. -/
structure SignedManifest where
  vaultObjectId : String
  ownerIdentityId : String
  verifySignature : Except ApiError Unit
  manifestHash : Except ApiError String

structure RegisterVaultObjectRequest where
  id : String
  ownerIdentityId : String
  manifestUri : String
  manifestHash : String
  nftChain : Option String
  nftTokenId : Option String
  manifest : Option SignedManifest

def checkManifest (req : RegisterVaultObjectRequest) (manifest : SignedManifest) :
    Except ApiError Unit := do
  manifest.verifySignature
  let computed ← manifest.manifestHash
  ensure (decide (computed = req.manifestHash)) (.BadRequest
    ("manifest_hash mismatch: request=" ++ req.manifestHash ++ ", computed=" ++ computed))
  ensure (decide (manifest.vaultObjectId = req.id)
      && decide (manifest.ownerIdentityId = req.ownerIdentityId))
    (.BadRequest "manifest object/owner does not match request")

/-- The row of a registration; the response repeats it. -/
def registeredObject (req : RegisterVaultObjectRequest) (callerIdentityId : String) :
    VaultObject where
  id := req.id
  ownerIdentityId := callerIdentityId
  manifestUri := req.manifestUri
  manifestHash := req.manifestHash
  nftChain := req.nftChain
  nftTokenId := req.nftTokenId
  status := .Active

/-- A registration keeps the status of a row that is already there. -/
def upsertObject (vo : VaultObject) (db : Db) : Except ApiError Db :=
  if (db.identities.get? vo.ownerIdentityId).isSome then
    .ok { db with
      vaultObjects :=
        db.vaultObjects.upsert vo (fun old => { vo with id := old.id, status := old.status })
          (fun _ => rfl) }
  else .error (asDatabaseError "Failed to register vault object: "
    (.foreignKeyViolation "vault_objects" "vault_objects_owner_identity_id_fkey"))

def registerVaultObject (auth : AuthenticatedUser) (req : RegisterVaultObjectRequest) :
    Handler VaultObject := do
  let callerIdentityId ←
    authenticatedIdentityForRequest auth (some req.ownerIdentityId) "owner_identity_id"
  lift (req.manifest.elim (.ok ()) (checkManifest req))
  write (upsertObject (registeredObject req callerIdentityId))
  pure (registeredObject req callerIdentityId)

/-! ## Grants -/

structure CreateGrantRequest where
  grantId : Option Uuid
  vaultObjectId : String
  recipientIdentityId : String
  permissions : List String
  expiresAt : Option DateTime
  keyEnvelope : Option Json
  encryptedFileKey : Option String
  ownerSignature : String

structure GrantResponse where
  id : Uuid
  vaultObjectId : String
  recipientIdentityId : String
  permissions : List String
  expiresAt : Option DateTime
  keyEnvelope : Json
  encryptedFileKey : String
  ownerSignature : String
  status : GrantStatus

/-- A member under one of its two names. -/
def getEither (value : Json) (name camelName : String) : Option Json :=
  (value.get name).or (value.get camelName)

/-- The members that an X25519 envelope must have, with their other names. -/
def envelopeFields : List (String × String) :=
  [("recipient_public_key_id", "recipientPublicKeyId"),
    ("ephemeral_public_key", "ephemeralPublicKey"), ("nonce", "nonce"),
    ("encrypted_file_key", "encryptedFileKey")]

def isFilledText (value : Option Json) : Bool :=
  (value.bind Json.asStr).any fun v => !Text.isEmpty (Text.trim v)

def validateRecipientKeyEnvelope (value : Json) (recipientIdentityId : String) :
    Except ApiError Unit := do
  let recipient ← okOr ((getEither value "recipient_identity_id" "recipientIdentityId").bind
    Json.asStr) (.BadRequest "key envelope recipient_identity_id is required")
  ensure (decide (recipient = recipientIdentityId))
    (.BadRequest "key envelope recipient_identity_id mismatch")
  let alg ← okOr ((value.get "alg").bind Json.asStr) (.BadRequest "key envelope alg is required")
  if alg = "X25519-HKDF-SHA256-XCHACHA20POLY1305" then
    envelopeFields.forM fun (field, camelField) =>
      ensure (isFilledText (getEither value field camelField))
        (.BadRequest ("key envelope " ++ field ++ " is required"))
  else .ok ()

/-- The envelope of a grant and the file key inside it; a bare file key gets an envelope. -/
def normalizeGrantKeyEnvelope (keyEnvelope : Option Json) (encryptedFileKey : Option String)
    (recipientIdentityId : String) : Except ApiError (Json × String) :=
  match keyEnvelope with
  | some value => do
      ensure value.isObject (.BadRequest "key_envelope must be a JSON object")
      validateRecipientKeyEnvelope value recipientIdentityId
      let encrypted ← okOr (((getEither value "encrypted_file_key" "encryptedFileKey").bind
        Json.asStr).filter fun v => !Text.isEmpty (Text.trim v))
        (.BadRequest "key_envelope.encrypted_file_key is required")
      .ok (value, encrypted)
  | none => do
      let encrypted ← okOr (encryptedFileKey.filter fun v => !Text.isEmpty (Text.trim v))
        (.BadRequest "key_envelope is required")
      .ok (.Obj [("protocol", .Str "vaulted-key-envelope-v1"), ("alg", .Str "legacy-pre-aes-key"),
        ("recipient_type", .Str "grant-recipient"),
        ("recipient_identity_id", .Str recipientIdentityId), ("encrypted_file_key", .Str encrypted)],
        encrypted)

/-- The active vault object of an owner. -/
def loadActiveVaultObjectForOwner (vaultObjectId callerIdentityId : String) :
    Handler VaultObject := do
  let row? ← read fun db =>
    (db.vaultObjects.get? vaultObjectId).filter fun vo => decide (vo.status = .Active)
  let row ← expect row? (.NotFound ("vault object not found: " ++ vaultObjectId))
  require (decide (row.ownerIdentityId = callerIdentityId))
    (.Forbidden "vault object owner identity mismatch")
  pure row

/-- `ON CONFLICT` a grant keeps its vault object and its recipient. -/
def grantWritten (g : Grant) (db : Db) : Db :=
  { db with
    grants := db.grants.upsert g
      (fun old => { g with
        id := old.id, vaultObjectId := old.vaultObjectId,
        recipientIdentityId := old.recipientIdentityId })
      (fun _ => rfl) }

/-- The references of a grant are checked when its row is new; a row that is there keeps them. -/
def upsertGrant (g : Grant) (db : Db) : Except ApiError Db :=
  let new := (db.grants.get? g.id).isNone
  if new && (db.vaultObjects.get? g.vaultObjectId).isNone then
    .error (.foreignKeyViolation "grants" "grants_vault_object_id_fkey")
  else if new && (db.identities.get? g.recipientIdentityId).isNone then
    .error (.foreignKeyViolation "grants" "grants_recipient_identity_id_fkey")
  else .ok (grantWritten g db)

/-- What the owner of a vault object signs for a new grant. -/
def grantContext (req : CreateGrantRequest) (id : Uuid) (callerIdentityId : String)
    (vo : VaultObject) (keyEnvelope : Json) : GrantSignatureContext where
  action := "create"
  grantId := id
  vaultObjectId := req.vaultObjectId
  nftTokenId := vo.nftTokenId
  ownerIdentityId := callerIdentityId
  recipientIdentityId := req.recipientIdentityId
  permissions := .Arr (req.permissions.map Json.Str)
  expiresAt := req.expiresAt
  keyEnvelope := keyEnvelope

/-- The id of a new grant; the client may choose it. -/
def CreateGrantRequest.id (req : CreateGrantRequest) (env : Env) : Uuid :=
  req.grantId.getD (env.uuid 0)

/-- The row of a new grant. -/
def newGrant (env : Env) (req : CreateGrantRequest) (keyEnvelope : Json)
    (encryptedFileKey : String) : Grant where
  id := req.id env
  vaultObjectId := req.vaultObjectId
  recipientIdentityId := req.recipientIdentityId
  encryptedFileKey := encryptedFileKey
  keyEnvelope := keyEnvelope
  permissions := req.permissions
  expiresAt := req.expiresAt.map DateTime.stored
  ownerSignature := req.ownerSignature
  status := .Active

def grantAnswer (env : Env) (req : CreateGrantRequest) (keyEnvelope : Json)
    (encryptedFileKey : String) : GrantResponse where
  id := req.id env
  vaultObjectId := req.vaultObjectId
  recipientIdentityId := req.recipientIdentityId
  permissions := req.permissions
  expiresAt := req.expiresAt
  keyEnvelope := keyEnvelope
  encryptedFileKey := encryptedFileKey
  ownerSignature := req.ownerSignature
  status := .Active

def createGrant (ed : Ed25519) (codec : TextCodec) (rfc3339 : DateTime → String) (state : AppState)
    (env : Env) (auth : AuthenticatedUser) (req : CreateGrantRequest) : Handler GrantResponse := do
  let callerIdentityId ← authenticatedIdentityForRequest auth none "identity_id"
  let vo ← loadActiveVaultObjectForOwner req.vaultObjectId callerIdentityId
  let owner? ← read (activeIdentity callerIdentityId)
  let owner ← expect owner? (.Unauthorized "Unknown Vaulted owner identity")
  require (req.expiresAt.all fun expiresAt => decide (env.now.dateTime < expiresAt))
    (.BadRequest "grant expiration must be in the future")
  let (keyEnvelope, encryptedFileKey) ← lift
    (normalizeGrantKeyEnvelope req.keyEnvelope req.encryptedFileKey req.recipientIdentityId)
  lift (verifyGrantOwnerSignature ed codec owner.signingPublicKey
    (grantSignatureMessage state codec rfc3339
      (grantContext req (req.id env) callerIdentityId vo keyEnvelope)) req.ownerSignature)
  write fun db => Pre.mapErr (asDatabaseError "Failed to create grant: ")
    (upsertGrant (newGrant env req keyEnvelope encryptedFileKey) db)
  pure (grantAnswer env req keyEnvelope encryptedFileKey)

/-- The active grant of an owner. -/
def activeGrantOf (grantId : Uuid) (callerIdentityId : String) (db : Db) : Option Grant :=
  (db.grants.get? grantId).filter fun g => decide (g.status = .Active)
    && (db.vaultObjects.get? g.vaultObjectId).any fun vo =>
      decide (vo.ownerIdentityId = callerIdentityId)

/-- The answer about a row. -/
def Grant.response (g : Grant) : GrantResponse where
  id := g.id
  vaultObjectId := g.vaultObjectId
  recipientIdentityId := g.recipientIdentityId
  permissions := g.permissions
  expiresAt := g.expiresAt.map Time.dateTime
  keyEnvelope := g.keyEnvelope
  encryptedFileKey := g.encryptedFileKey
  ownerSignature := g.ownerSignature
  status := g.status

/-- `UPDATE grants SET status = 'revoked' …`. -/
def markRevoked (grantId : Uuid) (db : Db) : Db :=
  { db with
    grants := db.grants.update grantId (fun g => { g with status := .Revoked }) Grant.id_revoked }

def revokeGrant (auth : AuthenticatedUser) (grantId : Uuid) (ownerIdentityId : Option String) :
    Handler GrantResponse := do
  let callerIdentityId ← authenticatedIdentityForRequest auth ownerIdentityId "owner_identity_id"
  let grant? ← read (activeGrantOf grantId callerIdentityId)
  let grant ← expect grant?
    (.NotFound ("active grant not found for owner: " ++ grantId.text))
  write fun db => .ok (markRevoked grantId db)
  pure (Grant.response { grant with status := .Revoked })

/-! ## What a call can do -/

inductive RegistersObject (auth : AuthenticatedUser) (req : RegisterVaultObjectRequest) (db : Db) :
    Except ApiError VaultObject → Db → Prop
  | Refused (e : ApiError) : RegistersObject auth req db (.error e) db
  | Registered (callerIdentityId : String) (answer : VaultObject) (db' : Db) :
      Resolves auth (some req.ownerIdentityId) "owner_identity_id" db callerIdentityId →
      req.manifest.elim (.ok ()) (checkManifest req) = .ok () →
      upsertObject (registeredObject req callerIdentityId) db = .ok db' →
      RegistersObject auth req db (.ok answer) db'

theorem registerVaultObject_spec (auth : AuthenticatedUser) (req : RegisterVaultObjectRequest)
    (db : Db) : wp (registerVaultObject auth req) (RegistersObject auth req db) db := by
  refine wp_resolve_bind (fun _ _ => .Refused _) fun caller hcaller => ?_
  refine wp_lift_bind (fun _ _ => .Refused _) fun _ hmanifest => ?_
  refine wp_write_bind (fun _ _ => .Refused _) fun db' hdb' => wp_pure ?_
  exact .Registered caller _ db' hcaller hmanifest hdb'

lemma upsertObject_eq_ok {vo : VaultObject} {db db' : Db} (h : upsertObject vo db = .ok db') :
    (db.identities.get? vo.ownerIdentityId).isSome = true
      ∧ db' = { db with
          vaultObjects := db.vaultObjects.upsert vo
            (fun old => { vo with id := old.id, status := old.status }) (fun _ => rfl) } := by
  unfold upsertObject at h
  split_ifs at h with hidentity
  exact ⟨hidentity, (Except.ok.inj h).symm⟩

lemma loadActiveVaultObjectForOwner_spec (vaultObjectId callerIdentityId : String) (db : Db) :
    wp (loadActiveVaultObjectForOwner vaultObjectId callerIdentityId) (fun r db' => db' = db
      ∧ ∀ vo, r = .ok vo → db.vaultObjects.get? vaultObjectId = some vo ∧ vo.status = .Active
        ∧ vo.ownerIdentityId = callerIdentityId) db := by
  refine wp_read_bind (wp_expect_bind (fun _ => ⟨rfl, fun _ h => nomatch h⟩) fun vo hvo => ?_)
  obtain ⟨hvo, hactive⟩ := Option.filter_eq_some_iff.mp hvo
  refine wp_require_bind (fun _ => ⟨rfl, fun _ h => nomatch h⟩) fun howner => wp_pure ⟨rfl, ?_⟩
  intro vo' hvo'
  rw [← Except.ok.inj hvo']
  exact ⟨hvo, of_decide_eq_true hactive, of_decide_eq_true howner⟩

/-- What `createGrant` asks for: the caller owns the vault object, and has signed the grant with the
key of its identity. The recipient is left to the foreign key of the table. -/
structure Grantable (ed : Ed25519) (codec : TextCodec) (rfc3339 : DateTime → String)
    (state : AppState) (env : Env) (auth : AuthenticatedUser) (req : CreateGrantRequest) (db : Db)
    (vo : VaultObject) (owner : VaultedIdentity) (keyEnvelope : Json) (encryptedFileKey : String) :
    Prop where
  caller : Resolves auth none "identity_id" db vo.ownerIdentityId
  found : db.vaultObjects.get? req.vaultObjectId = some vo
  active : vo.status = .Active
  identity : activeIdentity vo.ownerIdentityId db = some owner
  unexpired : (req.expiresAt.all fun expiresAt => decide (env.now.dateTime < expiresAt)) = true
  envelope : normalizeGrantKeyEnvelope req.keyEnvelope req.encryptedFileKey req.recipientIdentityId
    = .ok (keyEnvelope, encryptedFileKey)
  signed : verifyGrantOwnerSignature ed codec owner.signingPublicKey
    (grantSignatureMessage state codec rfc3339
      (grantContext req (req.id env) vo.ownerIdentityId vo keyEnvelope)) req.ownerSignature = .ok ()

inductive Grants (ed : Ed25519) (codec : TextCodec) (rfc3339 : DateTime → String)
    (state : AppState) (env : Env) (auth : AuthenticatedUser) (req : CreateGrantRequest) (db : Db) :
    Except ApiError GrantResponse → Db → Prop
  | Refused (e : ApiError) : Grants ed codec rfc3339 state env auth req db (.error e) db
  | Granted (vo : VaultObject) (owner : VaultedIdentity) (keyEnvelope : Json)
      (encryptedFileKey : String) (db' : Db) :
      Grantable ed codec rfc3339 state env auth req db vo owner keyEnvelope encryptedFileKey →
      upsertGrant (newGrant env req keyEnvelope encryptedFileKey) db = .ok db' →
      Grants ed codec rfc3339 state env auth req db
        (.ok (grantAnswer env req keyEnvelope encryptedFileKey)) db'

theorem createGrant_spec (ed : Ed25519) (codec : TextCodec) (rfc3339 : DateTime → String)
    (state : AppState) (env : Env) (auth : AuthenticatedUser) (req : CreateGrantRequest) (db : Db) :
    wp (createGrant ed codec rfc3339 state env auth req)
      (Grants ed codec rfc3339 state env auth req db) db := by
  refine wp_resolve_bind (fun _ _ => .Refused _) fun caller hcaller => ?_
  refine wp_bind (wp_mono (loadActiveVaultObjectForOwner_spec _ _ _) ?_)
  rintro (e | vo) _ ⟨rfl, hload⟩
  · exact .Refused e
  obtain ⟨hvo, hactive, rfl⟩ := hload vo rfl
  refine wp_read_bind (wp_expect_bind (fun _ => .Refused _) fun owner howner => ?_)
  refine wp_require_bind (fun _ => .Refused _) fun hexpires => ?_
  refine wp_lift_bind (fun _ _ => .Refused _) fun (envelope, key) henvelope => ?_
  refine wp_lift_bind (fun _ _ => .Refused _) fun _ hsigned => ?_
  refine wp_write_bind (fun _ _ => .Refused _) fun db' hdb' => wp_pure ?_
  exact .Granted vo owner envelope key db'
    ⟨hcaller, hvo, hactive, howner, hexpires, henvelope, hsigned⟩ (Pre.eq_ok_of_mapErr hdb')

/-- Where all that holds, and the references of the row are there, the grant is created. -/
theorem createGrant_of_grantable {ed : Ed25519} {codec : TextCodec} {rfc3339 : DateTime → String}
    {state : AppState} {env : Env} {auth : AuthenticatedUser} {req : CreateGrantRequest}
    {db db' : Db} {vo : VaultObject} {owner : VaultedIdentity} {keyEnvelope : Json}
    {encryptedFileKey : String}
    (h : Grantable ed codec rfc3339 state env auth req db vo owner keyEnvelope encryptedFileKey)
    (hdb' : upsertGrant (newGrant env req keyEnvelope encryptedFileKey) db = .ok db') :
    createGrant ed codec rfc3339 state env auth req db
      = (.ok (grantAnswer env req keyEnvelope encryptedFileKey), db') := by
  have hcaller : authenticatedIdentityForRequest auth none "identity_id" db
      = (.ok vo.ownerIdentityId, db) :=
    Prod.ext h.caller (authenticatedIdentityForRequest_spec _ _ _ _).1
  have hload : loadActiveVaultObjectForOwner req.vaultObjectId vo.ownerIdentityId db
      = (.ok vo, db) := by
    have hfound : (db.vaultObjects.get? req.vaultObjectId).filter
        (fun vo => decide (vo.status = .Active)) = some vo :=
      Option.filter_eq_some_iff.mpr ⟨h.found, decide_eq_true h.active⟩
    unfold loadActiveVaultObjectForOwner
    rw [run_read, run_expect hfound, run_require (decide_eq_true rfl), run_pure]
  have hwritten : Pre.mapErr (asDatabaseError "Failed to create grant: ")
      (upsertGrant (newGrant env req keyEnvelope encryptedFileKey) db) = .ok db' := by
    rw [hdb', Pre.mapErr]
  unfold createGrant
  rw [run_bind hcaller, run_bind hload, run_read, run_expect h.identity, run_require h.unexpired,
    run_lift h.envelope]
  dsimp only
  rw [run_lift h.signed, run_write hwritten, run_pure]

/-- What the database asks of a grant, and what it does with it. -/
lemma upsertGrant_eq_ok_iff {g : Grant} {db db' : Db} :
    upsertGrant g db = .ok db' ↔ (db.grants.get? g.id = none →
        (db.vaultObjects.get? g.vaultObjectId).isSome = true
          ∧ (db.identities.get? g.recipientIdentityId).isSome = true)
      ∧ db' = grantWritten g db := by
  have hwritten : (Except.ok (grantWritten g db) : Except ApiError Db) = .ok db'
      ↔ db' = grantWritten g db := by
    rw [Except.ok.injEq, eq_comm]
  cases hold : db.grants.get? g.id with
  | some old => simp [upsertGrant, hold, hwritten]
  | none =>
      cases hobject : db.vaultObjects.get? g.vaultObjectId <;>
        cases hrecipient : db.identities.get? g.recipientIdentityId <;>
          simp [upsertGrant, hold, hobject, hrecipient, hwritten]

lemma upsertGrant_eq_ok {g : Grant} {db db' : Db} (h : upsertGrant g db = .ok db') :
    db' = grantWritten g db :=
  (upsertGrant_eq_ok_iff.mp h).2

/-- A verified grant has been signed by the owner. -/
lemma signed_of_verifyGrantOwnerSignature {ed : Ed25519} {codec : TextCodec}
    {signingPublicKey message signature : String} {r : Unit}
    (h : verifyGrantOwnerSignature ed codec signingPublicKey message signature = .ok r) :
    ∃ sig, hexOrBase64 codec signature = .ok sig
      ∧ ed.Signed signingPublicKey (Text.utf8 message) sig := by
  obtain ⟨_, -, h⟩ := bind_eq_ok h
  exact Ed25519.signed_of_verifyWith h

inductive Revokes (auth : AuthenticatedUser) (grantId : Uuid) (ownerIdentityId : Option String)
    (db : Db) : Except ApiError GrantResponse → Db → Prop
  | Refused (e : ApiError) : Revokes auth grantId ownerIdentityId db (.error e) db
  | Revoked (callerIdentityId : String) (g : Grant) (answer : GrantResponse) :
      Resolves auth ownerIdentityId "owner_identity_id" db callerIdentityId →
      activeGrantOf grantId callerIdentityId db = some g →
      Revokes auth grantId ownerIdentityId db (.ok answer) (markRevoked grantId db)

theorem revokeGrant_spec (auth : AuthenticatedUser) (grantId : Uuid)
    (ownerIdentityId : Option String) (db : Db) : wp (revokeGrant auth grantId ownerIdentityId)
      (Revokes auth grantId ownerIdentityId db) db := by
  refine wp_resolve_bind (fun _ _ => .Refused _) fun caller hcaller => ?_
  refine wp_read_bind (wp_expect_bind (fun _ => .Refused _) fun grant hgrant => ?_)
  refine wp_write_bind (fun _ h => nomatch h) fun db₁ hdb₁ => wp_pure ?_
  cases hdb₁
  exact .Revoked caller grant _ hcaller hgrant

end Vaulted.VaultObjects
