import Vaulted.Crypto.Envelope
import Vaulted.Oracle.Identity

/-!
# Trust in the key of a recipient

`api/identity.rs`, as far as it stores which encryption keys of others an identity trusts.

* `State` — the database with the table of trusted keys.
* `trustRecipientKey`, `revokeRecipientKeyTrust`, `recipientKeyTrustStatus` — the handlers.
* `trustRecipientKey_spec`, `revokeRecipientKeyTrust_spec`, `recipientKeyTrustStatus_spec` — what
  each of them does and answers.
-/

namespace Vaulted.RecipientTrust

open Autocommit.Prog Identity

/-! ## The table -/

/-- `identity_trusted_recipient_keys`. -/
structure TrustedRecipientKey where
  id : Uuid
  ownerIdentityId : String
  recipientIdentityId : String
  recipientEncryptionPublicKey : String
  recipientEncryptionPublicKeyFingerprint : String
  trustLevel : String
  trustSource : String
  trustedAt : Time
  revokedAt : Option Time

/-- Owner, recipient and fingerprint. -/
abbrev Key := String × String × String

/-- By its `UNIQUE(owner_identity_id, recipient_identity_id, …_fingerprint)`. -/
def TrustedRecipientKey.key (r : TrustedRecipientKey) : Key :=
  (r.ownerIdentityId, r.recipientIdentityId, r.recipientEncryptionPublicKeyFingerprint)

structure State where
  db : Db
  trustedKeys : Indexed TrustedRecipientKey.key TrustedRecipientKey.id

abbrev TrustHandler (α : Type) := Autocommit.Prog State ApiError α

/-- A handler that does not touch the table. -/
def onDb {α : Type} (p : Handler α) : TrustHandler α := fun s =>
  ((p s.db).1, { s with db := (p s.db).2 })

/-! ## Requests and answers -/

structure TrustRecipientKeyRequest where
  ownerIdentityId : Option String
  recipientIdentityId : String
  recipientEncryptionPublicKey : String
  recipientEncryptionPublicKeyFingerprint : String
  trustSource : Option String
  trustLevel : Option String

structure RecipientKeyTrustQuery where
  ownerIdentityId : Option String
  recipientIdentityId : String
  fingerprint : Option String

structure RevokeRecipientKeyTrustRequest where
  ownerIdentityId : Option String
  recipientIdentityId : String
  recipientEncryptionPublicKeyFingerprint : Option String

structure RecipientKeyTrustResponse where
  ownerIdentityId : String
  recipientIdentityId : String
  recipientEncryptionPublicKey : String
  recipientEncryptionPublicKeyFingerprint : String
  trusted : Bool
  trustLevel : String
  trustSource : String
  trustedAt : Option Time
  revokedAt : Option Time
  activeRecipientEncryptionPublicKeyFingerprint : String
  keyRotationDetected : Bool
  trustedDifferentKeyFingerprint : Option String
  trustedDifferentKeyAt : Option Time
  deriving DecidableEq

def RecipientKeyTrustResponse.key (r : RecipientKeyTrustResponse) : Key :=
  (r.ownerIdentityId, r.recipientIdentityId, r.recipientEncryptionPublicKeyFingerprint)

def rowToTrustResponse (row : TrustedRecipientKey) (trusted : Bool) (activeFingerprint : String)
    (keyRotationDetected : Bool) (different : Option (String × Time)) :
    RecipientKeyTrustResponse where
  ownerIdentityId := row.ownerIdentityId
  recipientIdentityId := row.recipientIdentityId
  recipientEncryptionPublicKey := row.recipientEncryptionPublicKey
  recipientEncryptionPublicKeyFingerprint := row.recipientEncryptionPublicKeyFingerprint
  trusted
  trustLevel := row.trustLevel
  trustSource := row.trustSource
  trustedAt := some row.trustedAt
  revokedAt := row.revokedAt
  activeRecipientEncryptionPublicKeyFingerprint := activeFingerprint
  keyRotationDetected
  trustedDifferentKeyFingerprint := different.map Prod.fst
  trustedDifferentKeyAt := different.map Prod.snd

/-- The fingerprint of a request, if it is not blank, or else the one of the active key. -/
def fingerprintOr (given : Option String) (active : String) : String :=
  (given.filter fun fp => !Text.isEmpty (Text.trim fp)).getD active

/-! ## Trusting -/

/-- What a row becomes that is trusted once more. -/
def trustAgain (new old : TrustedRecipientKey) : TrustedRecipientKey :=
  { old with
    recipientEncryptionPublicKey := new.recipientEncryptionPublicKey
    trustLevel := new.trustLevel
    trustSource := new.trustSource
    trustedAt := new.trustedAt
    revokedAt := none }

/-- `INSERT … ON CONFLICT (owner, recipient, fingerprint) DO UPDATE`. -/
def storeTrust (row : TrustedRecipientKey) (s : State) : Except ApiError State :=
  if (s.db.identities.get? row.ownerIdentityId).isNone then
    .error (.foreignKeyViolation "identity_trusted_recipient_keys"
      "identity_trusted_recipient_keys_owner_identity_id_fkey")
  else
    match s.trustedKeys.upsert? row (trustAgain row) (fun _ => rfl) with
    | some trustedKeys => .ok { s with trustedKeys }
    | none => .error (.uniqueViolation "identity_trusted_recipient_keys_pkey")

def isTrustLevel (level : String) : Bool :=
  decide (level = "tofu") || decide (level = "manual") || decide (level = "qr_verified")

section Handlers

variable (crypto : EnvelopeCrypto)

/-- The fingerprint of a key that is stored. -/
def storedFingerprint (key : String) : Except ApiError String :=
  Pre.mapErr (fun e => .Database ("Malformed identity encryption key: " ++ e.display))
    (encryptionPublicKeyFingerprintHex crypto key)

def trustRecipientKey (env : Env) (auth : AuthenticatedUser) (req : TrustRecipientKeyRequest) :
    TrustHandler RecipientKeyTrustResponse := do
  let ownerIdentityId ←
    onDb (authenticatedIdentityForRequest auth req.ownerIdentityId "owner_identity_id")
  lift (validateHexKey req.recipientEncryptionPublicKey 32 "recipient_encryption_public_key")
  let computed ← lift (Pre.mapErr
    (fun e => .BadRequest ("invalid recipient encryption key: " ++ e.display))
    (encryptionPublicKeyFingerprintHex crypto req.recipientEncryptionPublicKey))
  require (decide (computed = req.recipientEncryptionPublicKeyFingerprint))
    (.BadRequest "recipient encryption public key fingerprint mismatch")
  let recipient? ← read fun s => activeIdentity req.recipientIdentityId s.db
  let recipient ← expect recipient? (.NotFound "recipient identity not found")
  require (decide (recipient.encryptionPublicKey = req.recipientEncryptionPublicKey))
    (.BadRequest "recipient encryption public key does not match current identity record")
  let trustLevel := req.trustLevel.getD "tofu"
  require (isTrustLevel trustLevel) (.BadRequest "invalid trust_level")
  let new : TrustedRecipientKey :=
    { id := env.uuid 0
      ownerIdentityId
      recipientIdentityId := req.recipientIdentityId
      recipientEncryptionPublicKey := req.recipientEncryptionPublicKey
      recipientEncryptionPublicKeyFingerprint := req.recipientEncryptionPublicKeyFingerprint
      trustLevel
      trustSource := req.trustSource.getD "desktop"
      trustedAt := env.now
      revokedAt := none }
  write fun s => Pre.mapErr (asDatabaseError "Failed to store recipient key trust: ")
    (storeTrust new s)
  let row? ← read fun s => s.trustedKeys.get? new.key
  let row ← expect row? .rowNotFound
  pure (rowToTrustResponse row true req.recipientEncryptionPublicKeyFingerprint false none)

/-! ## The state of trust -/

/-- The trusted key of the recipient, other than the active one, that was trusted last. -/
def loadLatestTrustedDifferentKey (ownerIdentityId recipientIdentityId activeFingerprint : String)
    (s : State) : Option (String × Time) :=
  (((s.trustedKeys.rows.filter fun r => decide (r.ownerIdentityId = ownerIdentityId)
      && decide (r.recipientIdentityId = recipientIdentityId)
      && decide (r.recipientEncryptionPublicKeyFingerprint ≠ activeFingerprint)
      && r.revokedAt.isNone).insertionSort fun a b => b.trustedAt ≤ a.trustedAt).head?).map
    fun r => (r.recipientEncryptionPublicKeyFingerprint, r.trustedAt)

def recipientKeyTrustStatus (auth : AuthenticatedUser) (q : RecipientKeyTrustQuery) :
    TrustHandler RecipientKeyTrustResponse := do
  let ownerIdentityId ←
    onDb (authenticatedIdentityForRequest auth q.ownerIdentityId "owner_identity_id")
  let recipient? ← read fun s => activeIdentity q.recipientIdentityId s.db
  let recipient ← expect recipient? (.NotFound "recipient identity not found")
  let activeFingerprint ← lift (storedFingerprint crypto recipient.encryptionPublicKey)
  let fingerprint := fingerprintOr q.fingerprint activeFingerprint
  let row? ← read fun s => s.trustedKeys.get? (ownerIdentityId, q.recipientIdentityId, fingerprint)
  let different ← read
    (loadLatestTrustedDifferentKey ownerIdentityId q.recipientIdentityId activeFingerprint)
  match row? with
  | some row =>
      let isTrusted := row.revokedAt.isNone
      pure (rowToTrustResponse row isTrusted activeFingerprint
        (!isTrusted && different.isSome) different)
  | none =>
      pure
        { ownerIdentityId
          recipientIdentityId := q.recipientIdentityId
          recipientEncryptionPublicKey := recipient.encryptionPublicKey
          recipientEncryptionPublicKeyFingerprint := fingerprint
          trusted := false
          trustLevel := if different.isSome then "key_rotated" else "untrusted"
          trustSource := "none"
          trustedAt := none
          revokedAt := none
          activeRecipientEncryptionPublicKeyFingerprint := activeFingerprint
          keyRotationDetected := different.isSome
          trustedDifferentKeyFingerprint := different.map Prod.fst
          trustedDifferentKeyAt := different.map Prod.snd }

/-! ## Revoking -/

/-- `UPDATE … SET revoked_at = now()`. -/
def revokeTrust (key : Key) (now : Time) (s : State) : State :=
  { s with
    trustedKeys := s.trustedKeys.update key (fun row => { row with revokedAt := some now })
      (fun _ => rfl) (fun _ => rfl) }

/-- The fingerprint whose trust is revoked. -/
def revokedFingerprint (req : RevokeRecipientKeyTrustRequest) (recipient : VaultedIdentity) :
    Except ApiError String :=
  match req.recipientEncryptionPublicKeyFingerprint.filter fun fp =>
    !Text.isEmpty (Text.trim fp) with
  | some fp => .ok fp
  | none => storedFingerprint crypto recipient.encryptionPublicKey

def revokeRecipientKeyTrust (env : Env) (auth : AuthenticatedUser)
    (req : RevokeRecipientKeyTrustRequest) : TrustHandler RecipientKeyTrustResponse := do
  let ownerIdentityId ←
    onDb (authenticatedIdentityForRequest auth req.ownerIdentityId "owner_identity_id")
  let recipient? ← read fun s => activeIdentity req.recipientIdentityId s.db
  let recipient ← expect recipient? (.NotFound "recipient identity not found")
  let fingerprint ← lift (revokedFingerprint crypto req recipient)
  write fun s => .ok
    (revokeTrust (ownerIdentityId, req.recipientIdentityId, fingerprint) env.now s)
  let row? ← read fun s =>
    s.trustedKeys.get? (ownerIdentityId, req.recipientIdentityId, fingerprint)
  let activeFingerprint ← lift (storedFingerprint crypto recipient.encryptionPublicKey)
  match row? with
  | some row => pure (rowToTrustResponse row false activeFingerprint false none)
  | none =>
      pure
        { ownerIdentityId
          recipientIdentityId := req.recipientIdentityId
          recipientEncryptionPublicKey := recipient.encryptionPublicKey
          recipientEncryptionPublicKeyFingerprint := fingerprint
          trusted := false
          trustLevel := "untrusted"
          trustSource := "none"
          trustedAt := none
          revokedAt := some env.now
          activeRecipientEncryptionPublicKeyFingerprint := activeFingerprint
          keyRotationDetected := false
          trustedDifferentKeyFingerprint := none
          trustedDifferentKeyAt := none }

end Handlers

/-! ## What a call can do -/

section Specs

variable {crypto : EnvelopeCrypto} {env : Env} {auth : AuthenticatedUser}

/-- The rule for a handler that resolves its caller. -/
lemma wp_onDb_resolve_bind {α : Type} {requested : Option String} {fieldName : String}
    {g : String → TrustHandler α} {Q : Except ApiError α → State → Prop} {s : State}
    (herr : ∀ e, Q (.error e) s)
    (h : ∀ owner, Resolves auth requested fieldName s.db owner → wp (g owner) Q s) :
    wp (onDb (authenticatedIdentityForRequest auth requested fieldName) >>= g) Q s := by
  have hsame : (authenticatedIdentityForRequest auth requested fieldName s.db).2 = s.db :=
    (authenticatedIdentityForRequest_spec auth requested fieldName s.db).1
  have hrun : onDb (authenticatedIdentityForRequest auth requested fieldName) s
      = ((authenticatedIdentityForRequest auth requested fieldName s.db).1, s) := by
    rw [onDb, hsame]
  refine wp_bind ?_
  rw [wp, hrun]
  cases hr : (authenticatedIdentityForRequest auth requested fieldName s.db).1 with
  | error e => exact herr e
  | ok owner => exact h owner hr

inductive Trusts (crypto : EnvelopeCrypto) (auth : AuthenticatedUser)
    (req : TrustRecipientKeyRequest) (s : State) :
    Except ApiError RecipientKeyTrustResponse → State → Prop
  | Refused (e : ApiError) : Trusts crypto auth req s (.error e) s
  | Stored (new : TrustedRecipientKey) (answer : RecipientKeyTrustResponse)
      (trustedKeys : Indexed TrustedRecipientKey.key TrustedRecipientKey.id) :
      Resolves auth req.ownerIdentityId "owner_identity_id" s.db new.ownerIdentityId →
      new.recipientIdentityId = req.recipientIdentityId →
      new.recipientEncryptionPublicKeyFingerprint = req.recipientEncryptionPublicKeyFingerprint →
      encryptionPublicKeyFingerprintHex crypto new.recipientEncryptionPublicKey
        = .ok new.recipientEncryptionPublicKeyFingerprint →
      new.revokedAt = none →
      s.trustedKeys.upsert? new (trustAgain new) (fun _ => rfl) = some trustedKeys →
      answer.key = new.key →
      Trusts crypto auth req s (.ok answer) { s with trustedKeys }

lemma storeTrust_eq_ok {row : TrustedRecipientKey} {s s' : State}
    (h : storeTrust row s = .ok s') : ∃ trustedKeys,
      s.trustedKeys.upsert? row (trustAgain row) (fun _ => rfl) = some trustedKeys
        ∧ s' = { s with trustedKeys } := by
  unfold storeTrust at h
  split_ifs at h
  split at h
  · next trustedKeys hupsert => exact ⟨trustedKeys, hupsert, (Except.ok.inj h).symm⟩
  · cases h

/-- **A key is stored as trusted only with its own fingerprint**, or nothing happens. -/
theorem trustRecipientKey_spec (req : TrustRecipientKeyRequest) (s : State) :
    wp (trustRecipientKey crypto env auth req) (Trusts crypto auth req s) s := by
  refine wp_onDb_resolve_bind (fun _ => .Refused _) fun owner howner => ?_
  refine wp_lift_bind (fun _ _ => .Refused _) fun _ _ => ?_
  refine wp_lift_bind (fun _ _ => .Refused _) fun computed hcomputed => ?_
  refine wp_require_bind (fun _ => .Refused _) fun hmatch => ?_
  refine wp_read_bind (wp_expect_bind (fun _ => .Refused _) fun recipient hrecipient => ?_)
  refine wp_require_bind (fun _ => .Refused _) fun hcurrent => ?_
  refine wp_require_bind (fun _ => .Refused _) fun hlevel => ?_
  refine wp_write_bind (fun _ _ => .Refused _) fun s' hs' => ?_
  obtain ⟨trustedKeys, hupsert, rfl⟩ := storeTrust_eq_ok (Pre.eq_ok_of_mapErr hs')
  have hget := Indexed.get?_upsert hupsert
  refine wp_read_bind (wp_expect_bind (fun hnone => ?_) fun row hrow => wp_pure ?_)
  · exact nomatch ((hget _).trans (if_pos rfl)).symm.trans hnone
  · have hkey : row.key = _ := Indexed.key_of_get? hrow
    refine .Stored _ _ trustedKeys howner rfl rfl ?_ rfl hupsert hkey
    rw [Pre.eq_ok_of_mapErr hcomputed]
    exact congrArg _ (of_decide_eq_true hmatch)

inductive Revokes (crypto : EnvelopeCrypto) (env : Env) (auth : AuthenticatedUser)
    (req : RevokeRecipientKeyTrustRequest) (s : State) :
    Except ApiError RecipientKeyTrustResponse → State → Prop
  | Refused (e : ApiError) : Revokes crypto env auth req s (.error e) s
  | Malformed (recipient : VaultedIdentity) (key : Key) (e : ApiError) :
      activeIdentity req.recipientIdentityId s.db = some recipient →
      storedFingerprint crypto recipient.encryptionPublicKey = .error e →
      Revokes crypto env auth req s (.error e) (revokeTrust key env.now s)
  | Revoked (owner : String) (recipient : VaultedIdentity) (fingerprint : String)
      (answer : RecipientKeyTrustResponse) :
      Resolves auth req.ownerIdentityId "owner_identity_id" s.db owner →
      activeIdentity req.recipientIdentityId s.db = some recipient →
      revokedFingerprint crypto req recipient = .ok fingerprint →
      answer.key = (owner, req.recipientIdentityId, fingerprint) →
      Revokes crypto env auth req s (.ok answer) (revokeTrust answer.key env.now s)

/-- **A revocation is of the key it names**, or of the active one. -/
theorem revokeRecipientKeyTrust_spec (req : RevokeRecipientKeyTrustRequest) (s : State) :
    wp (revokeRecipientKeyTrust crypto env auth req) (Revokes crypto env auth req s) s := by
  refine wp_onDb_resolve_bind (fun _ => .Refused _) fun owner howner => ?_
  refine wp_read_bind (wp_expect_bind (fun _ => .Refused _) fun recipient hrecipient => ?_)
  refine wp_lift_bind (fun _ _ => .Refused _) fun fingerprint hfingerprint => ?_
  refine wp_write_bind (fun _ h => nomatch h) fun s' hs' => wp_read_bind ?_
  cases hs'
  refine wp_lift_bind (fun e he => .Malformed recipient _ e hrecipient he) fun active _ => ?_
  have revoked : ∀ answer : RecipientKeyTrustResponse,
      answer.key = (owner, req.recipientIdentityId, fingerprint) →
      Revokes crypto env auth req s (.ok answer)
        (revokeTrust (owner, req.recipientIdentityId, fingerprint) env.now s) := by
    intro answer hkey
    have h : Revokes crypto env auth req s (.ok answer) (revokeTrust answer.key env.now s) :=
      .Revoked owner recipient fingerprint answer howner hrecipient hfingerprint hkey
    rwa [hkey] at h
  split
  · next row hrow =>
      have hkey : row.key = _ := Indexed.key_of_get? hrow
      exact wp_pure (revoked _ hkey)
  · exact wp_pure (revoked _ rfl)

/-- The answer about a key: from its row, or else about the active key. -/
inductive Reports (q : RecipientKeyTrustQuery) (s : State) (owner : String)
    (recipient : VaultedIdentity) (active : String) : RecipientKeyTrustResponse → Prop
  | Known (row : TrustedRecipientKey) (answer : RecipientKeyTrustResponse) :
      s.trustedKeys.get? (owner, q.recipientIdentityId, fingerprintOr q.fingerprint active)
        = some row →
      answer = rowToTrustResponse row row.revokedAt.isNone active (!row.revokedAt.isNone
        && (loadLatestTrustedDifferentKey owner q.recipientIdentityId active s).isSome)
        (loadLatestTrustedDifferentKey owner q.recipientIdentityId active s) →
      Reports q s owner recipient active answer
  | Unknown (answer : RecipientKeyTrustResponse) :
      s.trustedKeys.get? (owner, q.recipientIdentityId, fingerprintOr q.fingerprint active)
        = none →
      answer.key = (owner, q.recipientIdentityId, fingerprintOr q.fingerprint active) →
      answer.recipientEncryptionPublicKey = recipient.encryptionPublicKey →
      answer.trusted = false →
      answer.keyRotationDetected
        = (loadLatestTrustedDifferentKey owner q.recipientIdentityId active s).isSome →
      Reports q s owner recipient active answer

/-- A query changes nothing. -/
theorem recipientKeyTrustStatus_spec (q : RecipientKeyTrustQuery) (s : State) :
    wp (recipientKeyTrustStatus crypto auth q) (fun r s' => s' = s ∧ ∀ answer, r = .ok answer →
      ∃ owner recipient active, Resolves auth q.ownerIdentityId "owner_identity_id" s.db owner
        ∧ activeIdentity q.recipientIdentityId s.db = some recipient
        ∧ encryptionPublicKeyFingerprintHex crypto recipient.encryptionPublicKey = .ok active
        ∧ Reports q s owner recipient active answer) s := by
  have refused : ∀ e : ApiError, s = s ∧ ∀ answer, Except.error e = .ok answer →
      ∃ owner recipient active, Resolves auth q.ownerIdentityId "owner_identity_id" s.db owner
        ∧ activeIdentity q.recipientIdentityId s.db = some recipient
        ∧ encryptionPublicKeyFingerprintHex crypto recipient.encryptionPublicKey = .ok active
        ∧ Reports q s owner recipient active answer :=
    fun e => ⟨rfl, fun _ h => nomatch h⟩
  refine wp_onDb_resolve_bind refused fun owner howner => ?_
  refine wp_read_bind (wp_expect_bind (fun _ => refused _) fun recipient hrecipient => ?_)
  refine wp_lift_bind (fun _ _ => refused _) fun active hactive => wp_read_bind (wp_read_bind ?_)
  split
  · next row hrow =>
      refine wp_pure ⟨rfl, fun answer h => ⟨owner, recipient, active, howner, hrecipient,
        Pre.eq_ok_of_mapErr hactive, .Known row answer hrow (Except.ok.inj h).symm⟩⟩
  · next hnone =>
      refine wp_pure ⟨rfl, fun answer h => ⟨owner, recipient, active, howner, hrecipient,
        Pre.eq_ok_of_mapErr hactive, ?_⟩⟩
      obtain rfl := Except.ok.inj h
      exact .Unknown _ hnone rfl rfl rfl rfl

end Specs

end Vaulted.RecipientTrust
